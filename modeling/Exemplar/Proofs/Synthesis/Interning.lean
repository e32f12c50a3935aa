import Exemplar.Proofs.Storage.Clauses
import Exemplar.Proofs.Synthesis.Requirement
import Exemplar.Synthesis.Assembly

/-!
The constants of the enumerations in a catalog. They are made when a layout starts, each behind a
new reference, and a layout that is extended or registered takes along the constants it has. So one
reference is one constant of one enumeration. Constants of two enumerations are never equal, since
a catalog has one layout for each identity. Equal constants are therefore the same reference as far
as no enumeration lists a name twice, and no further: a name that is listed twice makes two
references to equal constants, and if these are the first two, red equals black.
-/

set_option autoImplicit false
set_option relaxedAutoImplicit false

namespace Exemplar

/-! ### Making and extending layouts -/

namespace Layout

theorem le_snd_allocConstants (names : List String) (unused : Nat) :
    unused ≤ (allocConstants names unused).2 := by
  induction names generalizing unused with
  | nil => exact Nat.le_refl _
  | cons name names ih => exact Nat.le_of_succ_le (ih (unused + 1))

theorem number_lt_of_mem_allocConstants {names : List String} {unused : Nat} {c : Constant}
    (hc : c ∈ (allocConstants names unused).1) : c.number < (allocConstants names unused).2 := by
  induction names generalizing unused with
  | nil => cases hc
  | cons name names ih =>
    rcases List.mem_cons.1 hc with rfl | hc
    · exact le_snd_allocConstants names (unused + 1)
    · exact ih hc

end Layout

/-- A clause changes neither the identity of a layout nor its constants. -/
theorem Clause.addTo_keeps_constants (clause : Clause) (layout : Layout) :
    (clause.addTo layout).identity = layout.identity ∧
      (clause.addTo layout).constants = layout.constants := by
  rcases clause.addTo_cases layout with ⟨fault, -, hadd⟩ | ⟨-, hadd⟩
  · exact hadd ▸ ⟨rfl, rfl⟩
  · exact hadd ▸ ⟨rfl, rfl⟩

namespace Catalog

/-! ### Filling a catalog -/

/-- What is at hand while a catalog is filled: the layouts that were made or extended so far, the
catalog, and the number of the next reference. A layout may be extended and registered any number of
times, and other references may be taken at any time. -/
inductive Filled : List Layout → Catalog → Nat → Prop
  | start (unused : Nat) : Filled [] empty unused
  | pass {layouts : List Layout} {catalog : Catalog} {unused later : Nat}
    (h : Filled layouts catalog unused) (hle : unused ≤ later) : Filled layouts catalog later
  | ofKind {layouts : List Layout} {catalog : Catalog} {unused : Nat}
    (h : Filled layouts catalog unused) (identity : String) {kind : LayoutKind}
    (hkind : ∀ constants, kind ≠ .enumeration constants) :
    Filled (.ofKind identity kind :: layouts) catalog unused
  | enumeration {layouts : List Layout} {catalog : Catalog} {unused : Nat}
    (h : Filled layouts catalog unused) (identity : String) (names : List String) :
    Filled ((Layout.enumeration identity names unused).1 :: layouts) catalog
      (Layout.enumeration identity names unused).2
  | extend {layouts : List Layout} {catalog : Catalog} {unused : Nat} {layout : Layout}
    (h : Filled layouts catalog unused) (hlayout : layout ∈ layouts) (clause : Clause) :
    Filled (clause.addTo layout :: layouts) catalog unused
  | register {layouts : List Layout} {catalog later : Catalog} {unused : Nat} {layout : Layout}
    (h : Filled layouts catalog unused) (hlayout : layout ∈ layouts)
    (hlater : catalog.register layout = .ok later) : Filled layouts later unused

/-- One reference is one constant, and the layouts of a catalog are at hand. -/
structure NumbersConstants (layouts : List Layout) (catalog : Catalog) (unused : Nat) : Prop where
  used : ∀ layout ∈ layouts, ∀ c ∈ layout.constants, c.number < unused
  nodup : ∀ layout ∈ layouts, (layout.constants.map Constant.number).Nodup
  shared : ∀ first ∈ layouts, ∀ second ∈ layouts, ∀ a ∈ first.constants, ∀ b ∈ second.constants,
    a.number = b.number → first.identity = second.identity ∧ a = b
  registered : ∀ key layout, catalog.layouts.get? key = some layout →
    layout ∈ layouts ∧ layout.identity = key

namespace NumbersConstants

variable {layouts : List Layout} {catalog later : Catalog} {unused last : Nat} {layout : Layout}

theorem start (unused : Nat) : NumbersConstants [] empty unused where
  used _ h := absurd h List.not_mem_nil
  nodup _ h := absurd h List.not_mem_nil
  shared _ h := absurd h List.not_mem_nil
  registered _ _ h := nomatch h

theorem pass (h : NumbersConstants layouts catalog unused) (hle : unused ≤ last) :
    NumbersConstants layouts catalog last :=
  { h with used := fun layout hlayout c hc ↦ Nat.lt_of_lt_of_le (h.used layout hlayout c hc) hle }

/-- A new layout has constants behind new references. -/
theorem make (h : NumbersConstants layouts catalog unused) (hle : unused ≤ last)
    (hnodup : (layout.constants.map Constant.number).Nodup)
    (hnew : ∀ c ∈ layout.constants, unused ≤ c.number ∧ c.number < last) :
    NumbersConstants (layout :: layouts) catalog last where
  used := List.forall_mem_cons.2 ⟨fun c hc ↦ (hnew c hc).2, (h.pass hle).used⟩
  nodup := List.forall_mem_cons.2 ⟨hnodup, h.nodup⟩
  shared first hfirst second hsecond a ha b hb hnumber := by
    rcases List.mem_cons.1 hfirst with rfl | hfirstOld <;>
      rcases List.mem_cons.1 hsecond with rfl | hsecondOld
    · exact ⟨rfl, List.inj_on_of_nodup_map hnodup ha hb hnumber⟩
    · have hold := h.used second hsecondOld b hb
      have hstart := (hnew a ha).1
      omega
    · have hold := h.used first hfirstOld a ha
      have hstart := (hnew b hb).1
      omega
    · exact h.shared first hfirstOld second hsecondOld a ha b hb hnumber
  registered key found hfound :=
    (h.registered key found hfound).imp_left (List.mem_cons_of_mem _)

/-- An extended layout has the constants it had. -/
theorem extend (h : NumbersConstants layouts catalog unused) (hlayout : layout ∈ layouts)
    {extended : Layout} (hidentity : extended.identity = layout.identity)
    (hconstants : extended.constants = layout.constants) :
    NumbersConstants (extended :: layouts) catalog unused where
  used := List.forall_mem_cons.2 ⟨hconstants ▸ h.used layout hlayout, h.used⟩
  nodup := List.forall_mem_cons.2 ⟨hconstants ▸ h.nodup layout hlayout, h.nodup⟩
  -- The extended layout has the constants of the one it came from, which stands for it here.
  shared := by
    have hall (other : Layout) (hother : other ∈ extended :: layouts) :
        ∃ known ∈ layouts, other.identity = known.identity ∧ other.constants = known.constants := by
      rcases List.mem_cons.1 hother with rfl | hother
      · exact ⟨layout, hlayout, hidentity, hconstants⟩
      · exact ⟨other, hother, rfl, rfl⟩
    intro first hfirst second hsecond a ha b hb hnumber
    obtain ⟨one, hone, honeIdentity, honeConstants⟩ := hall first hfirst
    obtain ⟨two, htwo, htwoIdentity, htwoConstants⟩ := hall second hsecond
    rw [honeIdentity, htwoIdentity]
    exact h.shared one hone two htwo a (honeConstants ▸ ha) b (htwoConstants ▸ hb) hnumber
  registered key found hfound :=
    (h.registered key found hfound).imp_left (List.mem_cons_of_mem _)

theorem register (h : NumbersConstants layouts catalog unused) (hlayout : layout ∈ layouts)
    (hlater : catalog.register layout = .ok later) : NumbersConstants layouts later unused :=
  { h with
    registered := fun key found hfound ↦ by
      rw [register_eq_ok hlater, Table.get?_insert] at hfound
      split at hfound
      · rename_i hkey
        cases hfound
        exact ⟨hlayout, hkey⟩
      · exact h.registered key found hfound }

end NumbersConstants

theorem constants_ofKind (identity : String) {kind : LayoutKind}
    (hkind : ∀ constants, kind ≠ .enumeration constants) :
    (Layout.ofKind identity kind).constants = [] := by
  cases kind with
  | enumeration constants => exact absurd rfl (hkind constants)
  | ordinary | abstract | interface => rfl

theorem Filled.numbersConstants {layouts : List Layout} {catalog : Catalog} {unused : Nat}
    (h : Filled layouts catalog unused) : NumbersConstants layouts catalog unused := by
  induction h with
  | start unused => exact .start unused
  | pass _ hle ih => exact ih.pass hle
  | ofKind _ identity hkind ih =>
    have hconstants := constants_ofKind identity hkind
    refine ih.make (Nat.le_refl _) ?_ ?_
    · rw [hconstants]
      exact List.nodup_nil
    · rw [hconstants]
      exact fun c hc ↦ absurd hc List.not_mem_nil
  | enumeration _ identity names ih =>
    refine ih.make (Layout.le_snd_allocConstants names _)
      (Layout.nodup_number_allocConstants names _) fun c hc ↦ ?_
    exact ⟨Layout.le_number_of_mem_allocConstants hc, Layout.number_lt_of_mem_allocConstants hc⟩
  | extend _ hlayout clause ih =>
    obtain ⟨hidentity, hconstants⟩ := clause.addTo_keeps_constants _
    exact ih.extend hlayout hidentity hconstants
  | register _ hlayout hlater ih => exact ih.register hlayout hlater

/-! ### Equal constants -/

/-- A value is a constant of a layout in a catalog. -/
def HoldsConstant (catalog : Catalog) (v : Value) : Prop :=
  ∃ identity layout, catalog.layout? identity = some layout ∧
    ∃ c ∈ layout.constants, v = layout.constantValue c

/-- Equal constants of a catalog are the same reference. -/
def InternsConstants (catalog : Catalog) : Prop :=
  ∀ v w, catalog.HoldsConstant v → catalog.HoldsConstant w → v.equal w = true →
    v.sameReference w = true

section

variable {layouts : List Layout} {catalog : Catalog} {unused : Nat} {identity other : String}
variable {first second : Layout} {a b : Constant}

theorem NumbersConstants.of_layout? (h : NumbersConstants layouts catalog unused)
    (hfirst : catalog.layout? identity = some first) :
    first ∈ layouts ∧ first.identity = Text.trim identity :=
  h.registered _ _ hfirst

/-- A catalog has one layout with an identity. -/
theorem NumbersConstants.eq_of_identity_eq (h : NumbersConstants layouts catalog unused)
    (hfirst : catalog.layout? identity = some first)
    (hsecond : catalog.layout? other = some second) (heq : first.identity = second.identity) :
    first = second := by
  rw [(h.of_layout? hfirst).2, (h.of_layout? hsecond).2] at heq
  rw [layout?, heq] at hfirst
  exact Option.some.inj (hfirst.symm.trans hsecond)

/-- Constants of a catalog are the same reference if they are one constant of one layout. -/
theorem NumbersConstants.sameReference_iff (h : NumbersConstants layouts catalog unused)
    (hfirst : catalog.layout? identity = some first)
    (hsecond : catalog.layout? other = some second) (ha : a ∈ first.constants)
    (hb : b ∈ second.constants) :
    (first.constantValue a).sameReference (second.constantValue b) = true ↔
      first = second ∧ a = b := by
  rw [Layout.constantValue, Layout.constantValue, Value.sameReference, decide_eq_true_iff]
  constructor
  · intro hnumber
    obtain ⟨hidentity, hconstant⟩ := h.shared first (h.of_layout? hfirst).1 second
      (h.of_layout? hsecond).1 a ha b hb hnumber
    exact ⟨h.eq_of_identity_eq hfirst hsecond hidentity, hconstant⟩
  · rintro ⟨-, rfl⟩
    rfl

/-- Constants of a catalog are equal if they have one name in one layout. -/
theorem NumbersConstants.equal_iff (h : NumbersConstants layouts catalog unused)
    (hfirst : catalog.layout? identity = some first)
    (hsecond : catalog.layout? other = some second) (ha : a ∈ first.constants)
    (hb : b ∈ second.constants) :
    (first.constantValue a).equal (second.constantValue b) = true ↔
      first = second ∧ a.name = b.name := by
  have hsame := h.sameReference_iff hfirst hsecond ha hb
  rw [Layout.constantValue, Layout.constantValue, Value.sameReference, decide_eq_true_iff] at hsame
  rw [Layout.constantValue, Layout.constantValue, Value.equal, Object.equal, Bool.or_eq_true,
    Bool.and_eq_true, decide_eq_true_iff, decide_eq_true_iff, decide_eq_true_iff, hsame]
  constructor
  · rintro (⟨hlayout, rfl⟩ | ⟨hidentity, hname⟩)
    · exact ⟨hlayout, rfl⟩
    · exact ⟨h.eq_of_identity_eq hfirst hsecond hidentity, hname⟩
  · rintro ⟨rfl, hname⟩
    exact .inr ⟨rfl, hname⟩

/-- Equal constants are the same reference exactly if no enumeration of the catalog lists a name
twice. -/
theorem NumbersConstants.internsConstants_iff (h : NumbersConstants layouts catalog unused) :
    catalog.InternsConstants ↔ ∀ identity layout, catalog.layout? identity = some layout →
      (layout.constants.map Constant.name).Nodup := by
  constructor
  · intro hinterns identity layout hlayout
    have hnodup := (h.nodup layout (h.of_layout? hlayout).1).of_map
    refine List.Nodup.map_on (fun a ha b hb hname ↦ ?_) hnodup
    have hequal := (h.equal_iff hlayout hlayout ha hb).2 ⟨rfl, hname⟩
    have hsame := hinterns _ _ ⟨identity, layout, hlayout, a, ha, rfl⟩
      ⟨identity, layout, hlayout, b, hb, rfl⟩ hequal
    exact ((h.sameReference_iff hlayout hlayout ha hb).1 hsame).2
  · rintro hnames _ _ ⟨identity, first, hfirst, a, ha, rfl⟩ ⟨other, second, hsecond, b, hb, rfl⟩
      hequal
    obtain ⟨rfl, hname⟩ := (h.equal_iff hfirst hsecond ha hb).1 hequal
    exact (h.sameReference_iff hfirst hsecond ha hb).2
      ⟨rfl, List.inj_on_of_nodup_map (hnames identity first hfirst) ha hb hname⟩

/-- The colors of an enumeration with two constants or more, which are equal exactly if these have
one name. -/
structure ColorsConstants (request : Request) (catalog : Catalog) (d : Descriptor)
    (progress : Progress) (triple : Triple) (first second : Constant) : Prop where
  created : Assembly.create request catalog d progress = .ok triple progress
  different : triple.red.sameReference triple.black = false
  equal : triple.red.equal triple.black = true ↔ first.name = second.name

theorem NumbersConstants.colorsConstants (h : NumbersConstants layouts catalog unused)
    {request : Request} {d : Descriptor} {layout : Layout} {red black : Constant}
    {others : List Constant} (hlayout : catalog.layout? d.identity = some layout)
    (hkind : layout.kind = .enumeration (red :: black :: others)) (progress : Progress) :
    ColorsConstants request catalog d progress ⟨layout.constantValue red,
      layout.constantValue black, layout.constantValue red⟩ red black := by
  have hconstants : layout.constants = red :: black :: others := by
    rw [Layout.constants, hkind]
  have hred : red ∈ layout.constants := hconstants ▸ List.mem_cons_self
  have hblack : black ∈ layout.constants := hconstants ▸ List.mem_cons_of_mem _ List.mem_cons_self
  have hdifferent : red ≠ black := by
    have hnodup := (h.nodup layout (h.of_layout? hlayout).1).of_map
    rw [hconstants, List.nodup_cons] at hnodup
    exact fun heq ↦ hnodup.1 (heq ▸ List.mem_cons_self)
  refine ⟨?_, ?_, ?_⟩
  · simp only [Assembly.create, hlayout, hkind]
    rfl
  · rw [Bool.eq_false_iff, Ne, h.sameReference_iff hlayout hlayout hred hblack]
    exact fun heq ↦ hdifferent heq.2
  · rw [h.equal_iff hlayout hlayout hred hblack]
    exact and_iff_right rfl

/-- Constants of a catalog are equal if they have one name in one layout, and the same reference
only if they are one constant. So equal constants are the same reference exactly if no enumeration
lists a name twice, and red equals black exactly if the first two names are the same. -/
theorem Filled.constants_interned_iff_names_differ (h : Filled layouts catalog unused) :
    (∀ identity other first second, catalog.layout? identity = some first →
      catalog.layout? other = some second → ∀ a ∈ first.constants, ∀ b ∈ second.constants,
        ((first.constantValue a).equal (second.constantValue b) = true ↔
          first = second ∧ a.name = b.name) ∧
        ((first.constantValue a).sameReference (second.constantValue b) = true ↔
          first = second ∧ a = b)) ∧
    (catalog.InternsConstants ↔ ∀ identity layout, catalog.layout? identity = some layout →
      (layout.constants.map Constant.name).Nodup) ∧
    ∀ (d : Descriptor) layout red black others, catalog.layout? d.identity = some layout →
      layout.kind = .enumeration (red :: black :: others) → ∀ request progress,
        ∃ triple, ColorsConstants request catalog d progress triple red black := by
  have hnumbers := h.numbersConstants
  refine ⟨fun identity other first second hfirst hsecond a ha b hb ↦ ?_,
    hnumbers.internsConstants_iff, fun d layout red black others hlayout hkind _ progress ↦ ?_⟩
  · exact ⟨hnumbers.equal_iff hfirst hsecond ha hb, hnumbers.sameReference_iff hfirst hsecond ha hb⟩
  · exact ⟨_, hnumbers.colorsConstants hlayout hkind progress⟩

end

/-! ### A catalog with one enumeration -/

namespace OneEnumeration

def typeG : Descriptor :=
  .ofLetter 'G' rfl rfl []

/-- The enumeration of the given names. -/
def layout (names : List String) : Layout :=
  (Layout.enumeration "G" names 0).1

def catalog (names : List String) : Catalog :=
  ⟨Table.empty.insert "G" (layout names)⟩

theorem filled (names : List String) :
    Filled [layout names] (catalog names) (Layout.enumeration "G" names 0).2 :=
  .register (.enumeration (.start 0) "G" names) (List.mem_singleton_self _) rfl

theorem layout?_typeG (names : List String) :
    (catalog names).layout? typeG.identity = some (layout names) :=
  rfl

end OneEnumeration

/-- Two names make an enumeration whose red and black differ. -/
theorem Filled.two_names_are_two_colors :
    (OneEnumeration.catalog ["A", "B"]).InternsConstants ∧
    ∀ request progress, ∃ triple,
      ColorsConstants request (OneEnumeration.catalog ["A", "B"]) OneEnumeration.typeG progress
        triple ⟨0, "A"⟩ ⟨1, "B"⟩ := by
  obtain ⟨-, hinterns, hcolors⟩ :=
    (OneEnumeration.filled ["A", "B"]).constants_interned_iff_names_differ
  refine ⟨hinterns.2 fun identity layout hlayout ↦ ?_,
    hcolors _ _ _ _ [] (OneEnumeration.layout?_typeG _) rfl⟩
  rw [OneEnumeration.catalog, layout?, Table.get?_insert] at hlayout
  split at hlayout <;> cases hlayout
  decide

/-- A name that is listed twice makes two references to equal constants, and red equals black. -/
theorem Filled.repeated_name_is_not_interned :
    Filled [OneEnumeration.layout ["A", "A"]] (OneEnumeration.catalog ["A", "A"]) 2 ∧
    ¬(OneEnumeration.catalog ["A", "A"]).InternsConstants ∧
    ∀ request progress, ∃ triple,
      Assembly.create request (OneEnumeration.catalog ["A", "A"]) OneEnumeration.typeG progress =
        .ok triple progress ∧ triple.red.equal triple.black = true := by
  have hfilled := OneEnumeration.filled ["A", "A"]
  refine ⟨hfilled, fun hinterns ↦ ?_, fun request progress ↦ ?_⟩
  · have hnodup := hfilled.numbersConstants.internsConstants_iff.1 hinterns "G" _ rfl
    exact absurd hnodup (by decide)
  · have hcolors : ColorsConstants request _ _ progress _ _ _ :=
      hfilled.numbersConstants.colorsConstants (OneEnumeration.layout?_typeG _) rfl progress
    exact ⟨_, hcolors.created, hcolors.equal.2 rfl⟩

end Catalog

end Exemplar
