import Exemplar.Value.Equality

/-!
The parts of values and the heap they live in. The parts of an object are the values right inside of
it, and a statement about all values may assume it of the parts of a referenced object. Values live
in a heap if each of their numbers denotes one object and no map lists a key twice, which is how
values come about as long as numbers are taken from one counter and maps are filled by insertion.
-/

set_option autoImplicit false
set_option relaxedAutoImplicit false

namespace Exemplar

/-! ### Parts -/

namespace Object

/-- The values right inside of an object. -/
def parts : Object → List Value
  | collection _ _ elements => elements
  | map _ entries => entries.flatMap fun entry ↦ [entry.1, entry.2]
  | record _ fields => fields.map Prod.snd
  | _ => []

theorem sizeOf_lt_of_mem_parts {object : Object} {v : Value} (hv : v ∈ object.parts) :
    sizeOf v < sizeOf object := by
  cases object with
  | collection container ordered elements =>
    have hmem : sizeOf v < sizeOf elements := List.sizeOf_lt_of_mem hv
    simp only [collection.sizeOf_spec]
    omega
  | map container entries =>
    obtain ⟨entry, hentry, hv⟩ := List.mem_flatMap.1 hv
    have hmem : sizeOf entry < sizeOf entries := List.sizeOf_lt_of_mem hentry
    have hpart : sizeOf v < sizeOf entry := by
      cases entry
      simp only [List.mem_cons, List.not_mem_nil, or_false] at hv
      rcases hv with rfl | rfl <;> simp only [Prod.mk.sizeOf_spec] <;> omega
    simp only [map.sizeOf_spec]
    omega
  | record descriptor fields =>
    obtain ⟨field, hfield, rfl⟩ := List.mem_map.1 hv
    have hmem : sizeOf field < sizeOf fields := List.sizeOf_lt_of_mem hfield
    have hpart : sizeOf field.2 < sizeOf field := by
      cases field
      simp only [Prod.mk.sizeOf_spec]
      omega
    simp only [record.sizeOf_spec]
    omega
  | _ => cases hv

theorem key_mem_parts {container : String} {entries : List (Value × Value)}
    {entry : Value × Value} (hentry : entry ∈ entries) :
    entry.1 ∈ (map container entries).parts :=
  List.mem_flatMap.2 ⟨entry, hentry, List.mem_cons_self⟩

theorem value_mem_parts {container : String} {entries : List (Value × Value)}
    {entry : Value × Value} (hentry : entry ∈ entries) :
    entry.2 ∈ (map container entries).parts :=
  List.mem_flatMap.2 ⟨entry, hentry, List.mem_cons_of_mem _ List.mem_cons_self⟩

theorem field_mem_parts {d : Descriptor} {fields : List (String × Value)} {field : String × Value}
    (hfield : field ∈ fields) : field.2 ∈ (record d fields).parts :=
  List.mem_map_of_mem hfield

end Object

namespace Value

/-- What holds of a value if it does of the parts of its object holds of all values. -/
theorem induction_on_parts {P : Value → Prop}
    (hstep : ∀ v, (∀ number object, v = .ref number object → ∀ part ∈ object.parts, P part) → P v)
    (v : Value) : P v := by
  refine hstep v fun number object hv part hpart ↦ ?_
  have hsmaller := Object.sizeOf_lt_of_mem_parts hpart
  exact induction_on_parts hstep part
termination_by sizeOf v
decreasing_by
  rw [hv, ref.sizeOf_spec]
  omega

/-- A property of a value, of its parts, of their parts and so on. -/
inductive Everywhere (P : Value → Prop) : Value → Prop
  | intro {v : Value} (self : P v)
    (parts : ∀ number object, v = .ref number object → ∀ part ∈ object.parts, Everywhere P part) :
    Everywhere P v

namespace Everywhere

variable {P Q : Value → Prop} {v : Value}

theorem self (h : Everywhere P v) : P v := by
  cases h with
  | intro self _ => exact self

theorem part {number : Nat} {object : Object} (h : Everywhere P (.ref number object))
    {part : Value} (hpart : part ∈ object.parts) : Everywhere P part := by
  cases h with
  | intro _ parts => exact parts number object rfl part hpart

theorem mono (himp : ∀ w, P w → Q w) (h : Everywhere P v) : Everywhere Q v := by
  induction h with
  | intro self _ ih => exact .intro (himp _ self) ih

theorem of_forall (hall : ∀ v, P v) (v : Value) : Everywhere P v := by
  induction v using induction_on_parts with
  | hstep v ih => exact .intro (hall v) ih

/-- For an inline value there is nothing but the value itself. -/
theorem of_inline (hself : P v) (hv : v.object? = none) : Everywhere P v :=
  .intro hself fun number object hv' ↦ by rw [hv'] at hv; cases hv

theorem of_ref {number : Nat} {object : Object} (hself : P (.ref number object))
    (hparts : ∀ part ∈ object.parts, Everywhere P part) : Everywhere P (.ref number object) :=
  .intro hself fun _ _ hv ↦ by cases hv; exact hparts

end Everywhere

end Value

/-! ### Heaps -/

/-- The objects that numbers denote. -/
abbrev Heap := Nat → Option Object

namespace Object

/-- No key of a map equals an earlier one. -/
def KeysDiffer : Object → Prop
  | map _ entries => entries.Pairwise fun entry later ↦ entry.1.equal later.1 = false
  | _ => True

end Object

namespace Heap

/-- The heap without objects. -/
def empty : Heap :=
  fun _ ↦ none

/-- A reference denotes its object, and a map has different keys. -/
def Fits (heap : Heap) : Value → Prop
  | .ref number object => heap number = some object ∧ object.KeysDiffer
  | _ => True

/-- The heap in which a value lives has all of its objects. -/
def Holds (heap : Heap) : Value → Prop :=
  Value.Everywhere heap.Fits

/-- All objects of a heap are also in the other one. -/
def Extends (heap larger : Heap) : Prop :=
  ∀ number object, heap number = some object → larger number = some object

/-- No number from `unused` on denotes an object. -/
def FreshFrom (heap : Heap) (unused : Nat) : Prop :=
  ∀ number, unused ≤ number → heap number = none

/-- The heap with one more object. -/
def allocate (heap : Heap) (unused : Nat) (object : Object) : Heap :=
  fun number ↦ if number = unused then some object else heap number

variable {heap larger largest : Heap} {unused later : Nat} {object : Object} {v : Value}

theorem freshFrom_empty (unused : Nat) : empty.FreshFrom unused :=
  fun _ _ ↦ rfl

theorem Extends.refl (heap : Heap) : heap.Extends heap :=
  fun _ _ h ↦ h

theorem Extends.trans (h : heap.Extends larger) (h' : larger.Extends largest) :
    heap.Extends largest :=
  fun number object hobject ↦ h' number object (h number object hobject)

theorem FreshFrom.mono (h : heap.FreshFrom unused) (hle : unused ≤ later) : heap.FreshFrom later :=
  fun number hnumber ↦ h number (Nat.le_trans hle hnumber)

theorem Holds.extends (h : heap.Holds v) (hextends : heap.Extends larger) : larger.Holds v :=
  Value.Everywhere.mono (fun w hw ↦ by
    cases w with
    | ref number object => exact ⟨hextends number object hw.1, hw.2⟩
    | _ => trivial) h

theorem extends_allocate (hfresh : heap.FreshFrom unused) (object : Object) :
    heap.Extends (heap.allocate unused object) := by
  intro number other hother
  have hne : number ≠ unused := by
    rintro rfl
    rw [hfresh number (Nat.le_refl _)] at hother
    cases hother
  simpa [allocate, hne] using hother

theorem freshFrom_allocate (hfresh : heap.FreshFrom unused) (object : Object) :
    (heap.allocate unused object).FreshFrom (unused + 1) := by
  intro number hnumber
  have hne : number ≠ unused := by omega
  simpa [allocate, hne] using hfresh number (by omega)

/-- A new object lives in the heap that has it if its parts lived there before. -/
theorem holds_allocate (hfresh : heap.FreshFrom unused) (hkeys : object.KeysDiffer)
    (hparts : ∀ part ∈ object.parts, heap.Holds part) :
    (heap.allocate unused object).Holds (.ref unused object) :=
  .of_ref ⟨by simp [allocate], hkeys⟩ fun part hpart ↦
    (hparts part hpart).extends (extends_allocate hfresh object)

/-- Equal numbers are equal references. -/
theorem Holds.object_eq {number : Nat} {other : Object} (h : heap.Holds (.ref number object))
    (hother : heap.Holds (.ref number other)) : object = other :=
  Option.some.inj (h.self.1.symm.trans hother.self.1)

end Heap

end Exemplar
