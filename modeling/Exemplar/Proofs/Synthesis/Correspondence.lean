import Exemplar.Proofs.Storage.Superclass
import Exemplar.Proofs.Synthesis.Buildability
import Exemplar.Proofs.Value.Renumbering

/-!
Recipes that correspond under a renumbering. Two factories correspond if the second one makes with
renumbered references what the first one makes, and two layouts if they have the same fields and
their constants are the same up to the renumbering. Then the recipes of a type require the same
types, and combine renumbered triples into renumbered triples.
-/

set_option autoImplicit false
set_option relaxedAutoImplicit false

namespace Exemplar

namespace Triple

/-- The triple with new numbers for its references. -/
def renumber (image : Nat → Nat) (triple : Triple) : Triple :=
  ⟨triple.red.renumber image, triple.black.renumber image, triple.redCopy.renumber image⟩

theorem map_red_renumber (image : Nat → Nat) (triples : List Triple) :
    (triples.map (renumber image)).map red = (triples.map red).map (Value.renumber image) := by
  rw [List.map_map, List.map_map]
  rfl

theorem map_black_renumber (image : Nat → Nat) (triples : List Triple) :
    (triples.map (renumber image)).map black = (triples.map black).map (Value.renumber image) := by
  rw [List.map_map, List.map_map]
  rfl

end Triple

/-- The shared triple with new numbers, for itself and for its references. -/
def SharedTriple.renumber (image : Nat → Nat) (shared : SharedTriple) : SharedTriple :=
  ⟨image shared.number, shared.triple.renumber image⟩

/-! ### Actions that do the same with renumbered references -/

/-- The second action makes what the first one makes, renumbered, and takes as many references from
the supply. -/
def Renumbering.Carries {α : Type} (ρ : Renumbering) (rename : α → α) (first second : Fresh α) :
    Prop :=
  ∀ unused, ρ.start ≤ unused → ρ.start ≤ (first unused).2 ∧
    second (ρ.image unused) = (rename (first unused).1, ρ.image (first unused).2)

namespace Renumbering

variable {ρ : Renumbering} {α β : Type}

theorem carries_pure (ρ : Renumbering) (rename : α → α) (a : α) :
    ρ.Carries rename (pure a) (pure (rename a)) :=
  fun _ hunused ↦ ⟨hunused, rfl⟩

theorem carries_alloc (ρ : Renumbering) (object : Object) :
    ρ.Carries (Value.renumber ρ.image) object.alloc (object.renumber ρ.image).alloc := by
  intro unused hunused
  change ρ.start ≤ unused + 1 ∧
    (Value.ref (ρ.image unused) (object.renumber ρ.image), ρ.image unused + 1) =
      ((Value.ref unused object).renumber ρ.image, ρ.image (unused + 1))
  rw [Value.renumber_ref, ρ.consecutive unused hunused]
  exact ⟨Nat.le_succ_of_le hunused, rfl⟩

theorem carries_share (triple : Triple) :
    ρ.Carries (SharedTriple.renumber ρ.image) triple.share (triple.renumber ρ.image).share := by
  intro unused hunused
  change ρ.start ≤ unused + 1 ∧
    (SharedTriple.mk (ρ.image unused) (triple.renumber ρ.image), ρ.image unused + 1) =
      (SharedTriple.renumber ρ.image ⟨unused, triple⟩, ρ.image (unused + 1))
  rw [ρ.consecutive unused hunused]
  exact ⟨Nat.le_succ_of_le hunused, rfl⟩

theorem Carries.bind {rename : α → α} {renameNext : β → β} {first second : Fresh α}
    {next other : α → Fresh β} (hfirst : ρ.Carries rename first second)
    (hnext : ∀ a, ρ.Carries renameNext (next a) (other (rename a))) :
    ρ.Carries renameNext (first >>= next) (second >>= other) := by
  intro unused hunused
  obtain ⟨hstart, hsecond⟩ := hfirst unused hunused
  obtain ⟨hlater, hother⟩ := hnext (first unused).1 (first unused).2 hstart
  refine ⟨hlater, ?_⟩
  change other (second (ρ.image unused)).1 (second (ρ.image unused)).2 = _
  rw [hsecond, hother]
  rfl

/-- Three calls in a row make a renumbered triple if each of them makes a renumbered value. -/
theorem Carries.threeCalls {call : α → Fresh Value} {other : β → Fresh Value} {a b c : α}
    {a' b' c' : β} (ha : ρ.Carries (Value.renumber ρ.image) (call a) (other a'))
    (hb : ρ.Carries (Value.renumber ρ.image) (call b) (other b'))
    (hc : ρ.Carries (Value.renumber ρ.image) (call c) (other c')) :
    ρ.Carries (Triple.renumber ρ.image) (Exemplar.threeCalls call a b c)
      (Exemplar.threeCalls other a' b' c') := by
  have hpure (red black redCopy : Value) :=
    carries_pure ρ (Triple.renumber ρ.image) ⟨red, black, redCopy⟩
  exact ha.bind fun red ↦ hb.bind fun black ↦ hc.bind fun redCopy ↦ hpure red black redCopy

end Renumbering

/-! ### Factories and layouts that correspond -/

/-- The second factory works as the first one, and makes with renumbered references what that one
makes. -/
inductive Factory.Corresponds (ρ : Renumbering) : Factory → Factory → Prop
  | constant (triple : Triple) :
    Corresponds ρ (.constant triple) (.constant (triple.renumber ρ.image))
  | collection {build other : Descriptor → List Value → Fresh Value}
    (hbuild : ∀ d values, values.length = 1 → ρ.Carries (Value.renumber ρ.image) (build d values)
      (other d (values.map (Value.renumber ρ.image)))) :
    Corresponds ρ (.collection build) (.collection other)
  | copy (underlying : String) {convert other : Value → Fresh Value}
    (hconvert : ∀ v, ρ.Carries (Value.renumber ρ.image) (convert v) (other (v.renumber ρ.image))) :
    Corresponds ρ (.copy underlying convert) (.copy underlying other)
  | map : Corresponds ρ .map .map
  | generic {constructor other : GenericConstructor} (harity : other.arity = constructor.arity)
    (hcall : ∀ values, values.length = constructor.arity →
      ρ.Carries (Value.renumber ρ.image) (constructor.call values)
        (other.call (values.map (Value.renumber ρ.image)))) :
    Corresponds ρ (.generic constructor) (.generic other)

/-- Two kinds are the same, with related constants. -/
inductive LayoutKind.Same (related : List Constant → List Constant → Prop) :
    LayoutKind → LayoutKind → Prop
  | ordinary : Same related .ordinary .ordinary
  | abstract : Same related .abstract .abstract
  | interface : Same related .interface .interface
  | enumeration {constants others : List Constant} (h : related constants others) :
    Same related (.enumeration constants) (.enumeration others)

/-- Two layouts tell the same about the values of their type, where the constants of an enumeration
may be renamed. Ordinary constructors and static fields may differ. -/
structure Layout.SameStorage (rename : Value → Value) (first second : Layout) : Prop
    extends first.SameFields second where
  kind : LayoutKind.Same (fun constants others ↦ others.map second.constantValue =
    constants.map fun constant ↦ rename (first.constantValue constant)) first.kind second.kind

/-! ### Recipes that correspond -/

/-- The second recipe requires the same types, and combines renumbered triples as the first one
combines the triples. -/
structure Recipe.Corresponds (ρ : Renumbering) (first second : Recipe) : Prop where
  requirements : second.requirements = first.requirements
  combine : ∀ triples, triples.length = first.requirements.length →
    ρ.Carries (Triple.renumber ρ.image) (first.combine triples)
      (second.combine (triples.map (Triple.renumber ρ.image)))

/-- Either a type has no recipe, for the same reason, or it has recipes that correspond. -/
inductive RecipesCorrespond (ρ : Renumbering) : Except Fault Recipe → Except Fault Recipe → Prop
  | missing (fault : Fault) : RecipesCorrespond ρ (.error fault) (.error fault)
  | found {first second : Recipe} (h : first.Corresponds ρ second) :
    RecipesCorrespond ρ (.ok first) (.ok second)

variable {ρ : Renumbering}

namespace Recipe

theorem corresponds_fixed (triple : Triple) :
    (fixed triple).Corresponds ρ (fixed (triple.renumber ρ.image)) :=
  ⟨rfl, fun _ _ ↦ Renumbering.carries_pure ρ _ triple⟩

theorem corresponds_constants {layout other : Layout} {first first' : Constant}
    {others others' : List Constant}
    (hconstants : (first' :: others').map other.constantValue =
      (first :: others).map fun constant ↦ (layout.constantValue constant).renumber ρ.image) :
    (constants layout first others).Corresponds ρ (constants other first' others') := by
  rw [List.map_cons, List.map_cons, List.cons.injEq] at hconstants
  obtain ⟨hfirst, hothers⟩ := hconstants
  have hhead : other.constantValue (others'.headD first') =
      (layout.constantValue (others.headD first)).renumber ρ.image := by
    rcases others with _ | ⟨second, others⟩ <;> rcases others' with _ | ⟨second', others'⟩
    · exact hfirst
    · cases hothers
    · cases hothers
    · exact (List.cons.inj hothers).1
  refine ⟨rfl, fun triples _ ↦ ?_⟩
  have hpure := Renumbering.carries_pure ρ (Triple.renumber ρ.image)
    ⟨layout.constantValue first, layout.constantValue (others.headD first),
      layout.constantValue first⟩
  rw [Triple.renumber, ← hfirst, ← hhead] at hpure
  exact hpure

theorem corresponds_parts (types : List Descriptor) {build other : List Value → Fresh Value}
    (hbuild : ∀ values, values.length = types.length →
      ρ.Carries (Value.renumber ρ.image) (build values)
        (other (values.map (Value.renumber ρ.image)))) :
    (parts types build).Corresponds ρ (parts types other) := by
  refine ⟨rfl, fun triples hlength ↦ ?_⟩
  have hcolor (color : Triple → Value) :=
    hbuild (triples.map color) ((List.length_map _).trans hlength)
  rw [combine_parts, combine_parts, Triple.map_red_renumber, Triple.map_black_renumber]
  exact (hcolor Triple.red).threeCalls (hcolor Triple.black) (hcolor Triple.red)

theorem corresponds_conversion (source : Descriptor) {convert other : Value → Fresh Value}
    (hconvert : ∀ v, ρ.Carries (Value.renumber ρ.image) (convert v)
      (other (v.renumber ρ.image))) :
    (conversion source convert).Corresponds ρ (conversion source other) := by
  refine ⟨rfl, fun triples hlength ↦ ?_⟩
  obtain ⟨triple, rfl⟩ := List.length_eq_one_iff.1 hlength
  exact (hconvert triple.red).threeCalls (hconvert triple.black) (hconvert triple.redCopy)

/-- Maps correspond because renumbering keeps whether the two keys are equal, so both maps for black
have an entry or none of them. -/
theorem corresponds_pairing (container : String) (key value : Descriptor) :
    (pairing container key value).Corresponds ρ (pairing container key value) := by
  refine ⟨rfl, fun triples hlength ↦ ?_⟩
  obtain ⟨keys, values, rfl⟩ := List.length_eq_two.1 hlength
  have hmap (entries : List (Value × Value)) :=
    Renumbering.carries_alloc ρ (.map container entries)
  simp only [Object.renumber, renumberEntries_eq_map] at hmap
  have hblack : blackEntries (keys.renumber ρ.image) (values.renumber ρ.image) =
      (blackEntries keys values).map
        (Prod.map (Value.renumber ρ.image) (Value.renumber ρ.image)) := by
    have hequal : (keys.renumber ρ.image).red.equal (keys.renumber ρ.image).black =
        keys.red.equal keys.black := Value.equal_renumber ρ.injective _ _
    rw [blackEntries, blackEntries, hequal]
    split <;> rfl
  rw [List.map_cons, List.map_cons, List.map_nil, combine_pairing, combine_pairing, hblack]
  exact (hmap [(keys.red, values.black)]).threeCalls (hmap (blackEntries keys values))
    (hmap [(keys.red, values.black)])

end Recipe

/-- Corresponding factories give corresponding recipes, or state the same fault. -/
theorem Factory.Corresponds.recipe {factory other : Factory} (h : factory.Corresponds ρ other)
    (d : Descriptor) : RecipesCorrespond ρ (factory.recipe d) (other.recipe d) := by
  cases h with
  | constant triple => exact .found (Recipe.corresponds_fixed triple)
  | collection hbuild =>
    rw [Factory.recipe, Factory.recipe]
    split
    · exact .missing _
    · refine .found (Recipe.corresponds_parts _ fun values hlength ↦ hbuild d values ?_)
      rwa [Descriptor.length_firstArguments] at hlength
  | copy underlying hconvert =>
    rw [recipe_copy, recipe_copy]
    cases TypeName.ofString underlying with
    | error fault => exact .missing fault
    | ok name => exact .found (Recipe.corresponds_conversion _ hconvert)
  | map =>
    rw [Factory.recipe]
    split
    · exact .missing _
    · exact .found (Recipe.corresponds_pairing _ _ _)
  | generic harity hcall =>
    rw [Factory.recipe, Factory.recipe, harity]
    split
    · exact .missing _
    · refine .found (Recipe.corresponds_parts _ fun values hlength ↦ hcall values ?_)
      rwa [Descriptor.length_firstArguments] at hlength

/-- Records correspond, whatever the fields are. -/
theorem Assembly.corresponds_record (d : Descriptor) (fields : List Field) :
    (Recipe.parts (fields.map Field.type) (record d fields)).Corresponds ρ
      (.parts (fields.map Field.type) (record d fields)) := by
  refine Recipe.corresponds_parts _ fun values _ ↦ ?_
  have hrecord :=
    Renumbering.carries_alloc ρ (.record d ((fields.map Field.name).zip values))
  rwa [Object.renumber, renumberFields_eq_map, ← List.zip_map_right] at hrecord

/-- Layouts that agree along the superclass chain of a type give corresponding recipes. -/
theorem Assembly.recipesCorrespond {first second : Catalog} {d : Descriptor}
    (hsame : ∀ e, first.Descends d e → Option.Rel (Layout.SameStorage (Value.renumber ρ.image))
      (first.layout? e.identity) (second.layout? e.identity)) :
    RecipesCorrespond ρ (recipe first d) (recipe second d) := by
  have hself := hsame d .refl
  have hfields : second.fields d = first.fields d :=
    Catalog.fields_congr fun e he ↦ rel_of_imp (hsame e he) fun _ _ h ↦ h.toSameFields
  unfold recipe
  cases hlayout : first.layout? d.identity with
  | none =>
    rw [hlayout] at hself
    rw [eq_none_of_rel_none hself]
    exact .missing _
  | some layout =>
    rw [hlayout] at hself
    obtain ⟨other, hother, hstorage⟩ := exists_of_rel_some hself
    have hkind := hstorage.kind
    rw [hother]
    dsimp only
    generalize layout.kind = kind at hkind
    generalize other.kind = otherKind at hkind
    cases hkind with
    | interface => exact .missing _
    | @enumeration constants others hconstants =>
      rcases constants with _ | ⟨constant, constants⟩ <;> rcases others with _ | ⟨other', others⟩
      · exact .missing _
      · cases hconstants
      · cases hconstants
      · exact .found (Recipe.corresponds_constants hconstants)
    | ordinary | abstract =>
      dsimp only
      rw [hfields]
      cases first.fields d with
      | error fault => exact .missing fault
      | ok fields => exact .found (corresponds_record d fields)

end Exemplar
