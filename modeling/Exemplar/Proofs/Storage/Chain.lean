import Exemplar.Proofs.Descriptor.Substitution
import Exemplar.Proofs.Storage.Superclass

/-!
The fields of a type by its superclass chain: the type itself, its superclass with the type
arguments passed up, and so on. The chain ends where a layout has no superclass or is missing, and
it may also never end. An enumeration of fields goes up the chain to the first identity that it has
met before, or else to the end. No chain gets further than there are layouts before one of these,
because the identities met are different and all but the last have layouts. The types themselves may
all be different, and each may have more arguments than the one before.
-/

set_option autoImplicit false
set_option relaxedAutoImplicit false

namespace Exemplar

/-- The own fields of a type are those that its layout declares for values, with the type's
arguments for the parameters. The root type stands for those that are not given. -/
theorem Layout.instanceFields_eq (layout : Layout) (d : Descriptor) :
    layout.instanceFields d.arguments =
      (layout.fields.filter fun field ↦ !field.isStatic).map fun field ↦
        ⟨field.name, field.type.substitute layout.parameters
          ((List.range layout.parameters.length).map d.argumentOrObject), false⟩ := by
  rw [instanceFields]
  simp only [Descriptor.substitute_argumentOrObject]

namespace Catalog

/-! ### Positions on a chain -/

/-- The superclass of a type with the type arguments passed up, if the type has a layout and this
layout a superclass. -/
def superclass? (catalog : Catalog) (d : Descriptor) : Option Descriptor :=
  (catalog.layout? d.identity).bind fun layout ↦
    layout.superclass.map (Descriptor.substitute layout.parameters d.arguments)

/-- The type so many steps up the superclass chain of a type, if the chain gets there. -/
def ancestor? (catalog : Catalog) (d : Descriptor) : Nat → Option Descriptor
  | 0 => some d
  | position + 1 => (ancestor? catalog d position).bind catalog.superclass?

/-- The chain meets an identity before a position. -/
def MetBefore (catalog : Catalog) (d : Descriptor) (position : Nat) (identity : String) : Prop :=
  ∃ earlier < position, ∃ e, catalog.ancestor? d earlier = some e ∧ e.identity = identity

/-- The chain comes back, at a position, to an identity that it has met before. -/
def Repeats (catalog : Catalog) (d : Descriptor) (position : Nat) : Prop :=
  ∃ e, catalog.ancestor? d position = some e ∧ catalog.MetBefore d position e.identity

variable {catalog : Catalog} {start d e : Descriptor} {position : Nat}

theorem superclass?_of_no_layout (hlayout : catalog.layout? d.identity = none) :
    catalog.superclass? d = none := by
  rw [superclass?, hlayout, Option.bind_none]

theorem superclass?_of_layout {layout : Layout}
    (hlayout : catalog.layout? d.identity = some layout) :
    catalog.superclass? d =
      layout.superclass.map (Descriptor.substitute layout.parameters d.arguments) := by
  rw [superclass?, hlayout, Option.bind_some]

theorem superclass?_of_root {layout : Layout}
    (hlayout : catalog.layout? d.identity = some layout) (hroot : layout.superclass = none) :
    catalog.superclass? d = none := by
  rw [superclass?_of_layout hlayout, hroot, Option.map_none]

theorem ancestor?_succ (hd : catalog.ancestor? start position = some d) :
    catalog.ancestor? start (position + 1) = catalog.superclass? d := by
  rw [ancestor?, hd, Option.bind_some]

/-- Nothing comes after the end of a chain. -/
theorem ancestor?_of_end (hd : catalog.ancestor? start position = some d)
    (hend : catalog.superclass? d = none) {later : Nat} (hlater : position < later) :
    catalog.ancestor? start later = none := by
  induction later with
  | zero => exact absurd hlater (Nat.not_lt_zero _)
  | succ later ih =>
    rcases Nat.lt_succ_iff_lt_or_eq.1 hlater with hlt | rfl
    · rw [ancestor?, ih hlt, Option.bind_none]
    · rw [ancestor?_succ hd, hend]

theorem metBefore_succ_iff (hd : catalog.ancestor? start position = some d) (identity : String) :
    catalog.MetBefore start (position + 1) identity ↔
      d.identity = identity ∨ catalog.MetBefore start position identity := by
  constructor
  · rintro ⟨earlier, hearlier, e, he, hidentity⟩
    rcases Nat.lt_succ_iff_lt_or_eq.1 hearlier with hlt | rfl
    · exact .inr ⟨earlier, hlt, e, he, hidentity⟩
    · obtain rfl : d = e := Option.some.inj (hd.symm.trans he)
      exact .inl hidentity
  · rintro (hidentity | ⟨earlier, hearlier, e, he, hidentity⟩)
    · exact ⟨position, Nat.lt_succ_self _, d, hd, hidentity⟩
    · exact ⟨earlier, Nat.lt_succ_of_lt hearlier, e, he, hidentity⟩

theorem repeats_iff (hd : catalog.ancestor? start position = some d) :
    catalog.Repeats start position ↔ catalog.MetBefore start position d.identity := by
  constructor
  · rintro ⟨e, he, hmet⟩
    obtain rfl : d = e := Option.some.inj (hd.symm.trans he)
    exact hmet
  · exact fun hmet ↦ ⟨d, hd, hmet⟩

/-- An identity that was not visited is not met again, if those visited are those met before. -/
theorem not_repeats_of_not_mem {visited : List String}
    (hvisited : ∀ identity, identity ∈ visited ↔ catalog.MetBefore start position identity)
    (hd : catalog.ancestor? start position = some d) (hmem : d.identity ∉ visited) :
    ¬catalog.Repeats start position :=
  fun hrepeats ↦ hmem ((hvisited _).2 ((repeats_iff hd).1 hrepeats))

/-! ### Where an enumeration ends -/

/-- What an enumeration of fields comes to at a position of the chain: it meets an identity again,
or it meets a type without a layout, or it meets a type without a superclass. -/
inductive Ends (catalog : Catalog) (start : Descriptor) (position : Nat) :
    Except Fault (List Field) → Prop
  | loops {e : Descriptor} (he : catalog.ancestor? start position = some e)
      (hrepeats : catalog.Repeats start position) :
      Ends catalog start position
        (.error (.invalidArgument (.superclassLoop start.display e.identity)))
  | misses {e : Descriptor} (he : catalog.ancestor? start position = some e)
      (hfresh : ¬catalog.Repeats start position) (hlayout : catalog.layout? e.identity = none) :
      Ends catalog start position (.error (.cannotSynthesize e.display .noLayout))
  | completes {e : Descriptor} {layout : Layout} {fields : List Field}
      (he : catalog.ancestor? start position = some e)
      (hfresh : ¬catalog.Repeats start position)
      (hlayout : catalog.layout? e.identity = some layout) (hroot : layout.superclass = none) :
      Ends catalog start position (.ok fields)

/-- The types below the end of the chain add their own fields and change nothing else. -/
theorem Ends.append {result : Except Fault (List Field)} (h : catalog.Ends start position result)
    (own : List Field) :
    catalog.Ends start position (do
      let inherited ← result
      return inherited ++ own) := by
  cases h with
  | loops he hrepeats => exact .loops he hrepeats
  | misses he hfresh hlayout => exact .misses he hfresh hlayout
  | completes he hfresh hlayout hroot => exact .completes he hfresh hlayout hroot

/-- An enumeration that has come to a position goes on to the first one where it can end. There are
not more steps to it than layouts left. -/
theorem fieldsFrom_ends {layouts : Table String Layout} {visited : List String}
    (hlayouts : catalog.LeftOf visited layouts)
    (hvisited : ∀ identity, identity ∈ visited ↔ catalog.MetBefore start position identity)
    (hd : catalog.ancestor? start position = some d)
    (hfresh : ∀ earlier < position, ¬catalog.Repeats start earlier) :
    ∃ last ≤ position + layouts.size, (∀ earlier < last, ¬catalog.Repeats start earlier) ∧
      catalog.Ends start last (fieldsFrom start layouts visited d) := by
  fun_induction fieldsFrom start layouts visited d generalizing position with
  | case1 layouts visited d hmem =>
    exact ⟨position, Nat.le_add_right _ _, hfresh,
      .loops hd ((repeats_iff hd).2 ((hvisited _).1 hmem))⟩
  | case2 layouts visited d hmem hlayout =>
    have hnew := not_repeats_of_not_mem hvisited hd hmem
    rw [hlayouts _ hmem, ← layout?_identity] at hlayout
    exact ⟨position, Nat.le_add_right _ _, hfresh, .misses hd hnew hlayout⟩
  | case3 layouts visited d hmem layout hlayout hsuperclass =>
    have hnew := not_repeats_of_not_mem hvisited hd hmem
    rw [hlayouts _ hmem, ← layout?_identity] at hlayout
    exact ⟨position, Nat.le_add_right _ _, hfresh, .completes hd hnew hlayout hsuperclass⟩
  | case4 layouts visited d hmem layout hlayout superclass hsuperclass ih =>
    have hnew := not_repeats_of_not_mem hvisited hd hmem
    have hsmaller := Table.size_erase_lt hlayout
    rw [hlayouts _ hmem, ← layout?_identity] at hlayout
    have hparent : catalog.ancestor? start (position + 1) =
        some (superclass.substitute layout.parameters d.arguments) := by
      rw [ancestor?_succ hd, superclass?_of_layout hlayout, hsuperclass, Option.map_some]
    have hmet (identity : String) : identity ∈ d.identity :: visited ↔
        catalog.MetBefore start (position + 1) identity := by
      rw [List.mem_cons, metBefore_succ_iff hd, hvisited, eq_comm]
    have hbehind (earlier : Nat) (hearlier : earlier < position + 1) :
        ¬catalog.Repeats start earlier :=
      (Nat.lt_succ_iff_lt_or_eq.1 hearlier).elim (hfresh earlier) (· ▸ hnew)
    obtain ⟨last, hlast, hbefore, hends⟩ := ih (hlayouts.erase _) hmet hparent hbehind
    exact ⟨last, by omega, hbefore, hends.append _⟩

/-- An enumeration ends at the first position where it can. -/
theorem fields_ends (catalog : Catalog) (d : Descriptor) :
    ∃ last ≤ catalog.size, (∀ earlier < last, ¬catalog.Repeats d earlier) ∧
      catalog.Ends d last (catalog.fields d) := by
  have hall : catalog.LeftOf [] catalog.layouts := fun _ _ ↦ rfl
  have hnone (identity : String) : identity ∈ [] ↔ catalog.MetBefore d 0 identity :=
    ⟨nofun, fun ⟨_, hearlier, _⟩ ↦ absurd hearlier (Nat.not_lt_zero _)⟩
  obtain ⟨last, hlast, hbefore, hends⟩ := fieldsFrom_ends hall hnone rfl nofun
  exact ⟨last, by rwa [Nat.zero_add] at hlast, hbefore, hends⟩

/-! ### What an enumeration comes to -/

/-- Both are the end of the chain. -/
theorem eq_of_ends {other : Nat} (hd : catalog.ancestor? start position = some d)
    (hend : catalog.superclass? d = none) (he : catalog.ancestor? start other = some e)
    (hother : catalog.superclass? e = none) : position = other := by
  rcases Nat.lt_trichotomy position other with hlt | rfl | hlt
  · rw [ancestor?_of_end hd hend hlt] at he
    cases he
  · rfl
  · rw [ancestor?_of_end he hother hlt] at hd
    cases hd

/-- A chain that has an end and meets no identity again up to there never does. -/
theorem not_repeats_of_end (hbefore : ∀ earlier < position, ¬catalog.Repeats start earlier)
    (hfresh : ¬catalog.Repeats start position) (hd : catalog.ancestor? start position = some d)
    (hend : catalog.superclass? d = none) (other : Nat) : ¬catalog.Repeats start other := by
  rcases Nat.lt_trichotomy other position with hlt | rfl | hlt
  · exact hbefore other hlt
  · exact hfresh
  · rintro ⟨e, he, -⟩
    rw [ancestor?_of_end hd hend hlt] at he
    cases he

/-- The end of a chain that meets an identity again would come too late. -/
theorem not_end_of_repeats {other : Nat} (hrepeats : catalog.Repeats start other)
    (hbefore : ∀ earlier ≤ position, ¬catalog.Repeats start earlier)
    (hd : catalog.ancestor? start position = some d) : catalog.superclass? d ≠ none := by
  intro hend
  obtain ⟨e, he, -⟩ := id hrepeats
  have hlater : position < other := Nat.lt_of_not_le fun hle ↦ hbefore other hle hrepeats
  rw [ancestor?_of_end hd hend hlater] at he
  cases he

theorem fields_loops_iff (catalog : Catalog) (d : Descriptor) :
    (∃ misuse, catalog.fields d = .error (.invalidArgument misuse)) ↔
      ∃ position, catalog.Repeats d position := by
  obtain ⟨last, -, hbefore, hends⟩ := catalog.fields_ends d
  constructor
  · rintro ⟨misuse, hmisuse⟩
    rw [hmisuse] at hends
    cases hends with
    | loops _ hrepeats => exact ⟨last, hrepeats⟩
  · rintro ⟨position, hrepeats⟩
    generalize catalog.fields d = result at hends ⊢
    cases hends with
    | loops => exact ⟨_, rfl⟩
    | misses he hfresh hlayout =>
      exact absurd hrepeats
        (not_repeats_of_end hbefore hfresh he (superclass?_of_no_layout hlayout) position)
    | completes he hfresh hlayout hroot =>
      exact absurd hrepeats
        (not_repeats_of_end hbefore hfresh he (superclass?_of_root hlayout hroot) position)

theorem fields_misses_iff (catalog : Catalog) (d : Descriptor) (subject : String)
    (obstacle : Obstacle) :
    catalog.fields d = .error (.cannotSynthesize subject obstacle) ↔
      ∃ position e, catalog.ancestor? d position = some e ∧
        catalog.layout? e.identity = none ∧
        (∀ earlier ≤ position, ¬catalog.Repeats d earlier) ∧
        subject = e.display ∧ obstacle = .noLayout := by
  obtain ⟨last, -, hbefore, hends⟩ := catalog.fields_ends d
  constructor
  · intro hmissing
    rw [hmissing] at hends
    cases hends with
    | misses he hfresh hlayout =>
      exact ⟨last, _, he, hlayout, fun earlier hearlier ↦
        (Nat.lt_or_eq_of_le hearlier).elim (hbefore earlier) (· ▸ hfresh), rfl, rfl⟩
  · rintro ⟨position, e, he, hlayout, hfresh, rfl, rfl⟩
    have hend := superclass?_of_no_layout hlayout
    generalize catalog.fields d = result at hends ⊢
    cases hends with
    | loops _ hrepeats => exact absurd hend (not_end_of_repeats hrepeats hfresh he)
    | misses hf _ hmissing =>
      obtain rfl := eq_of_ends he hend hf (superclass?_of_no_layout hmissing)
      rw [Option.some.inj (he.symm.trans hf)]
    | completes hf _ hfound hroot =>
      obtain rfl := eq_of_ends he hend hf (superclass?_of_root hfound hroot)
      rw [← Option.some.inj (he.symm.trans hf), hlayout] at hfound
      cases hfound

/-- Fields are listed if the inherited ones are. -/
theorem eq_append_of_ok {result : Except Fault (List Field)} {own fields : List Field}
    (h : result.map (· ++ own) = .ok fields) :
    ∃ inherited, result = .ok inherited ∧ fields = inherited ++ own := by
  cases result with
  | error fault => cases h
  | ok inherited => exact ⟨inherited, rfl, (Except.ok.inj h).symm⟩

/-- Fields that were enumerated behind some types do not depend on these. They are only looked at
for refusing the chain, and where it began is only told when it is refused. -/
theorem fieldsFrom_of_ok {layouts others : Table String Layout} {visited passed : List String}
    (hlayouts : catalog.LeftOf visited layouts) (hothers : catalog.LeftOf passed others)
    (hpassed : passed ⊆ visited) {fields : List Field}
    (hfields : fieldsFrom start layouts visited d = .ok fields) (other : Descriptor) :
    fieldsFrom other others passed d = .ok fields := by
  fun_induction fieldsFrom start layouts visited d generalizing others passed fields with
  | case1 => cases hfields
  | case2 => cases hfields
  | case3 layouts visited d hvisited layout hlayout hsuperclass =>
    have hnew : d.identity ∉ passed := fun hmem ↦ hvisited (hpassed hmem)
    rw [hlayouts _ hvisited, ← hothers _ hnew] at hlayout
    rw [fieldsFrom_of_layout hnew hlayout, hsuperclass]
    exact hfields
  | case4 layouts visited d hvisited layout hlayout superclass hsuperclass ih =>
    have hnew : d.identity ∉ passed := fun hmem ↦ hvisited (hpassed hmem)
    rw [hlayouts _ hvisited, ← hothers _ hnew] at hlayout
    obtain ⟨inherited, hinherited, rfl⟩ := eq_append_of_ok hfields
    rw [fieldsFrom_of_layout hnew hlayout, hsuperclass]
    dsimp only
    rw [ih (hlayouts.erase _) (hothers.erase _) (List.cons_subset_cons _ hpassed) hinherited]
    rfl

/-- The fields of a type are those of its superclass, if it has one, and then its own. -/
theorem fields_of_ok {fields : List Field} (hfields : catalog.fields d = .ok fields) :
    ∃ layout, catalog.layout? d.identity = some layout ∧
      ((catalog.superclass? d = none ∧ fields = layout.instanceFields d.arguments) ∨
        ∃ parent inherited, catalog.superclass? d = some parent ∧
          catalog.fields parent = .ok inherited ∧
          fields = inherited ++ layout.instanceFields d.arguments) := by
  rw [Catalog.fields] at hfields
  cases hlayout : catalog.layout? d.identity with
  | none =>
    rw [fieldsFrom_of_no_layout List.not_mem_nil (by rw [← layout?_identity, hlayout])] at hfields
    cases hfields
  | some layout =>
    refine ⟨layout, rfl, ?_⟩
    rw [fieldsFrom_of_layout List.not_mem_nil (by rw [← layout?_identity, hlayout])] at hfields
    rw [superclass?_of_layout hlayout]
    cases hsuperclass : layout.superclass with
    | none =>
      rw [hsuperclass] at hfields
      exact .inl ⟨rfl, (Except.ok.inj hfields).symm⟩
    | some superclass =>
      rw [hsuperclass] at hfields
      obtain ⟨inherited, hinherited, rfl⟩ := eq_append_of_ok hfields
      have hall : catalog.LeftOf [] catalog.layouts := fun _ _ ↦ rfl
      exact .inr ⟨_, inherited, rfl,
        fieldsFrom_of_ok (hall.erase d.identity) hall (List.nil_subset _) hinherited _, rfl⟩

/-- The fields of a type by its superclass chain. An enumeration ends after at most as many steps up
the chain as there are layouts, at an identity that is met again or at a type without a superclass.
An identity that is met again is an invalid argument; a type without a layout, met before that, is
what cannot be synthesized. Without either, there are the fields of the superclass and then the
own ones in declaration order, with the type's arguments for the parameters. A chain does not go on
from a type without a layout, so whatever is met comes before it. -/
theorem fields_by_chain (catalog : Catalog) (d : Descriptor) :
    (∃ last ≤ catalog.size, catalog.Repeats d last ∨
      ∃ e, catalog.ancestor? d last = some e ∧ catalog.superclass? e = none) ∧
    ((∃ misuse, catalog.fields d = .error (.invalidArgument misuse)) ↔
      ∃ position, catalog.Repeats d position) ∧
    (∀ subject obstacle, catalog.fields d = .error (.cannotSynthesize subject obstacle) ↔
      ∃ position e, catalog.ancestor? d position = some e ∧
        catalog.layout? e.identity = none ∧
        (∀ earlier ≤ position, ¬catalog.Repeats d earlier) ∧
        subject = e.display ∧ obstacle = .noLayout) ∧
    ((∃ position, catalog.Repeats d position) ∨
      (∃ position e, catalog.ancestor? d position = some e ∧
        catalog.layout? e.identity = none) ∨
      ∃ layout own, catalog.layout? d.identity = some layout ∧
        own = ((layout.fields.filter fun field ↦ !field.isStatic).map fun field ↦
          ⟨field.name, field.type.substitute layout.parameters
            ((List.range layout.parameters.length).map d.argumentOrObject), false⟩) ∧
        ((catalog.superclass? d = none ∧ catalog.fields d = .ok own) ∨
          ∃ parent inherited, catalog.superclass? d = some parent ∧
            catalog.fields parent = .ok inherited ∧
            catalog.fields d = .ok (inherited ++ own))) := by
  obtain ⟨last, hlast, -, hends⟩ := catalog.fields_ends d
  refine ⟨⟨last, hlast, ?_⟩, catalog.fields_loops_iff d, catalog.fields_misses_iff d, ?_⟩
  · generalize catalog.fields d = result at hends
    cases hends with
    | loops _ hrepeats => exact .inl hrepeats
    | misses he _ hlayout => exact .inr ⟨_, he, superclass?_of_no_layout hlayout⟩
    | completes he _ hlayout hroot => exact .inr ⟨_, he, superclass?_of_root hlayout hroot⟩
  · cases hfields : catalog.fields d with
    | error fault =>
      rw [hfields] at hends
      cases hends with
      | loops _ hrepeats => exact .inl ⟨last, hrepeats⟩
      | misses he _ hlayout => exact .inr (.inl ⟨last, _, he, hlayout⟩)
    | ok fields =>
      obtain ⟨layout, hlayout, hparts⟩ := fields_of_ok hfields
      refine .inr (.inr ⟨layout, _, hlayout, layout.instanceFields_eq d, ?_⟩)
      rcases hparts with ⟨hroot, rfl⟩ | ⟨parent, inherited, hparent, hinherited, rfl⟩
      · exact .inl ⟨hroot, rfl⟩
      · exact .inr ⟨parent, inherited, hparent, hinherited, rfl⟩

end Catalog

end Exemplar
