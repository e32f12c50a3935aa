import Exemplar.Proofs.Value.Equivalence

/-!
The shape of a value is what is left when its references are forgotten. Only the numbers of hollow
objects stay, because a hollow object has nothing but its number. In one heap values of the same
shape are equal, unless they have a number that does not equal itself.
-/

set_option autoImplicit false
set_option relaxedAutoImplicit false

namespace Exemplar

mutual

/-- The value without the numbers of its references, except for hollow objects. -/
def Value.shape : Value → Value
  | .ref number object => .ref (if object.isHollow then number else 0) object.shape
  | value => value
termination_by structural value => value

/-- The object with the shapes of its parts. -/
def Object.shape : Object → Object
  | .collection container ordered elements => .collection container ordered (shapeEach elements)
  | .map container entries => .map container (shapeEntries entries)
  | .record descriptor fields => .record descriptor (shapeFields fields)
  | object => object
termination_by structural object => object

/-- The shapes of the elements of a collection. -/
def shapeEach : List Value → List Value
  | [] => []
  | value :: values => value.shape :: shapeEach values
termination_by structural values => values

/-- The entries of a map with the shapes of their keys and values. -/
def shapeEntries : List (Value × Value) → List (Value × Value)
  | [] => []
  | entry :: entries => shapeEntry entry :: shapeEntries entries
termination_by structural entries => entries

/-- An entry with the shapes of its key and its value. -/
def shapeEntry : Value × Value → Value × Value
  | (key, value) => (key.shape, value.shape)
termination_by structural entry => entry

/-- The fields of a record with the shapes of their values. -/
def shapeFields : List (String × Value) → List (String × Value)
  | [] => []
  | field :: fields => shapeField field :: shapeFields fields
termination_by structural fields => fields

/-- A field with the shape of its value. -/
def shapeField : String × Value → String × Value
  | (name, value) => (name, value.shape)
termination_by structural field => field

end

theorem shapeEach_eq_map (values : List Value) : shapeEach values = values.map Value.shape := by
  induction values with
  | nil => rfl
  | cons value values ih => rw [shapeEach, ih, List.map_cons]

theorem shapeEntries_eq_map (entries : List (Value × Value)) :
    shapeEntries entries = entries.map fun entry ↦ (entry.1.shape, entry.2.shape) := by
  induction entries with
  | nil => rfl
  | cons entry entries ih =>
    obtain ⟨key, value⟩ := entry
    rw [shapeEntries, ih, List.map_cons, shapeEntry]

theorem shapeFields_eq_map (fields : List (String × Value)) :
    shapeFields fields = fields.map fun field ↦ (field.1, field.2.shape) := by
  induction fields with
  | nil => rfl
  | cons field fields ih =>
    obtain ⟨name, value⟩ := field
    rw [shapeFields, ih, List.map_cons, shapeField]

/-- Two values have the same shape. -/
def Value.Alike (v w : Value) : Prop :=
  v.shape = w.shape

/-! ### Objects of the same shape -/

theorem forall₂_of_map_eq {α β : Type} {image : α → β} {as bs : List α}
    (h : as.map image = bs.map image) : List.Forall₂ (fun a b ↦ image a = image b) as bs := by
  have hmapped : List.Forall₂ Eq (as.map image) (bs.map image) := by
    rw [h, List.forall₂_eq_eq_eq]
  rwa [List.forall₂_map_left_iff, List.forall₂_map_right_iff] at hmapped

theorem rel_of_forall₂ {α : Type} {R : α → α → Prop} {as bs : List α}
    (h : List.Forall₂ R as bs) : Multiset.Rel R (as : Multiset α) (bs : Multiset α) := by
  induction h with
  | nil => exact .zero
  | cons hab _ ih => exact .cons hab ih

namespace Object

theorem isHollow_shape (object : Object) : object.shape.isHollow = object.isHollow := by
  cases object <;> rfl

/-- Objects of the same shape have parts of the same shapes, unless they are hollow. -/
theorem related_of_shape_eq {a b : Object} (hhollow : a.isHollow = false)
    (h : a.shape = b.shape) : Related Value.Alike a b := by
  cases a with
  | text content =>
    cases b <;> simp only [shape, text.injEq, reduceCtorEq] at h
    subst h
    exact .text content
  | marker label =>
    cases b <;> simp only [shape, marker.injEq, reduceCtorEq] at h
    subst h
    exact .marker label
  | enumConstant enumeration name =>
    cases b <;> simp only [shape, enumConstant.injEq, reduceCtorEq] at h
    obtain ⟨rfl, rfl⟩ := h
    exact .enumConstant enumeration name
  | collection container ordered as =>
    cases b <;> simp only [shape, collection.injEq, reduceCtorEq] at h
    obtain ⟨rfl, rfl, hparts⟩ := h
    rw [shapeEach_eq_map, shapeEach_eq_map] at hparts
    cases ordered with
    | true => exact .inOrder container (forall₂_of_map_eq hparts)
    | false => exact .inAnyOrder container (rel_of_forall₂ (forall₂_of_map_eq hparts))
  | map container as =>
    cases b <;> simp only [shape, map.injEq, reduceCtorEq] at h
    obtain ⟨rfl, hparts⟩ := h
    rw [shapeEntries_eq_map, shapeEntries_eq_map] at hparts
    exact .map container (rel_of_forall₂ ((forall₂_of_map_eq hparts).imp fun _ _ ↦ Prod.mk.inj))
  | record d as =>
    cases b <;> simp only [shape, record.injEq, reduceCtorEq] at h
    obtain ⟨rfl, hparts⟩ := h
    rw [shapeFields_eq_map, shapeFields_eq_map] at hparts
    exact .record d ((forall₂_of_map_eq hparts).imp fun _ _ ↦ Prod.mk.inj)
  | hollow d => cases hhollow

end Object

/-! ### Values of the same shape -/

namespace Value

/-- Whether a value is no number that differs from itself. -/
def IsNumber : Value → Prop
  | floating x => x.isNaN = false
  | _ => True

/-- No number in the value differs from itself. -/
def NaNFree : Value → Prop :=
  Everywhere IsNumber

theorem shape_ref (number : Nat) (object : Object) :
    (ref number object).shape =
      ref (if object.isHollow then number else 0) object.shape := by
  rw [shape]

theorem Alike.refl (v : Value) : v.Alike v :=
  Eq.refl v.shape

/-- Values of the same shape are equal in one heap. -/
theorem Alike.equals {heap : Heap} {v : Value} (hnumbers : v.NaNFree) (hv : heap.Holds v)
    {w : Value} (hw : heap.Holds w) (halike : v.Alike w) : v.Equals w := by
  induction v using induction_on_parts generalizing w with
  | hstep v ih =>
    cases v with
    | ref number a =>
      cases w with
      | ref other b =>
        simp only [Alike, shape_ref, ref.injEq] at halike
        obtain ⟨hnumber, hshape⟩ := halike
        refine equals_ref_iff.2 ?_
        cases hhollow : a.isHollow with
        | true =>
          have hhollow' : b.isHollow = true := by
            rw [← Object.isHollow_shape, ← hshape, Object.isHollow_shape, hhollow]
          exact .inl (by simpa [hhollow, hhollow'] using hnumber)
        | false =>
          refine .inr (Object.equal_of_related heap.isPartialEquivalenceOn_holds
            (fun _ ↦ hv.part) (fun _ ↦ hw.part) hw.self.2 ?_)
          exact (Object.related_of_shape_eq hhollow hshape).mono fun p hp q hq hpq ↦
            ih number a rfl p hp (hnumbers.part hp) (hv.part hp) (hw.part hq) hpq
      | _ => cases halike
    | floating x =>
      cases w with
      | floating y =>
        cases halike
        exact (Floating.equal_iff x x).2 ⟨rfl, hnumbers.self, hnumbers.self, .inl rfl⟩
      | _ => cases halike
    | _ =>
      cases w with
      | ref number b => cases halike
      | _ => cases halike <;> simp [Equals, equal]

/-- Whether two values of a heap are equal is a matter of their shapes. -/
theorem Alike.equal_eq {heap : Heap} {v v' w w' : Value} (hv : v.NaNFree ∧ heap.Holds v)
    (hv' : heap.Holds v') (hw : w.NaNFree ∧ heap.Holds w) (hw' : heap.Holds w')
    (hvv' : v.Alike v') (hww' : w.Alike w') : v.equal w = v'.equal w' := by
  have hequiv := heap.isPartialEquivalenceOn_holds
  have hleft : v.Equals v' := hvv'.equals hv.1 hv.2 hv'
  have hright : w.Equals w' := hww'.equals hw.1 hw.2 hw'
  refine Bool.eq_iff_iff.2 ⟨fun h ↦ ?_, fun h ↦ ?_⟩
  · exact hequiv.trans hv' hw.2 hw'
      (hequiv.trans hv' hv.2 hw.2 (hequiv.symm hv.2 hv' hleft) h) hright
  · exact hequiv.trans hv.2 hw' hw.2 (hequiv.trans hv.2 hv' hw' hleft h)
      (hequiv.symm hw.2 hw' hright)

end Value

end Exemplar
