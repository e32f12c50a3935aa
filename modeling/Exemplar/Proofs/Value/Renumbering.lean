import Exemplar.Proofs.Value.Shape

/-!
Values behind other references. A renumbering gives the references of a value other numbers, and
never one number to two references. Whether two values are equal is not a matter of which numbers
their references have, so renumbering keeps it. It also keeps the shape of a value without hollow
objects.
-/

set_option autoImplicit false
set_option relaxedAutoImplicit false

namespace Exemplar

/-- New numbers for references, different ones for different references. From some number on they
are consecutive, as the numbers taken from the supply are. -/
structure Renumbering where
  image : Nat → Nat
  injective : image.Injective
  start : Nat
  consecutive : ∀ number, start ≤ number → image (number + 1) = image number + 1

namespace Renumbering

/-- Every reference keeps its number. -/
def identity : Renumbering where
  image number := number
  injective _ _ h := h
  start := 0
  consecutive _ _ := rfl

/-- The numbers below `base` stay, and all others go up by a distance. -/
def shift (base distance : Nat) : Renumbering where
  image number := if number < base then number else number + distance
  injective m n h := by
    dsimp only at h
    split at h <;> split at h <;> omega
  start := base
  consecutive number hnumber := by
    rw [if_neg (by omega), if_neg (by omega)]
    omega

/-- References taken from the supply in a row stay in a row. -/
theorem image_add (ρ : Renumbering) {number : Nat} (distance : Nat) (hnumber : ρ.start ≤ number) :
    ρ.image (number + distance) = ρ.image number + distance := by
  induction distance with
  | zero => rfl
  | succ distance ih =>
    rw [← Nat.add_assoc, ρ.consecutive _ (Nat.le_add_right_of_le hnumber), ih, Nat.add_assoc]

end Renumbering

mutual

/-- The value with new numbers for its references. -/
def Value.renumber (image : Nat → Nat) : Value → Value
  | .ref number object => .ref (image number) (object.renumber image)
  | value => value
termination_by structural value => value

/-- The object with new numbers for the references in its parts. -/
def Object.renumber (image : Nat → Nat) : Object → Object
  | .collection container ordered elements =>
    .collection container ordered (renumberEach image elements)
  | .map container entries => .map container (renumberEntries image entries)
  | .record descriptor fields => .record descriptor (renumberFields image fields)
  | object => object
termination_by structural object => object

/-- The elements of a collection with new numbers. -/
def renumberEach (image : Nat → Nat) : List Value → List Value
  | [] => []
  | value :: values => value.renumber image :: renumberEach image values
termination_by structural values => values

/-- The entries of a map with new numbers. -/
def renumberEntries (image : Nat → Nat) : List (Value × Value) → List (Value × Value)
  | [] => []
  | entry :: entries => renumberEntry image entry :: renumberEntries image entries
termination_by structural entries => entries

/-- An entry with new numbers. -/
def renumberEntry (image : Nat → Nat) : Value × Value → Value × Value
  | (key, value) => (key.renumber image, value.renumber image)
termination_by structural entry => entry

/-- The fields of a record with new numbers. -/
def renumberFields (image : Nat → Nat) : List (String × Value) → List (String × Value)
  | [] => []
  | field :: fields => renumberField image field :: renumberFields image fields
termination_by structural fields => fields

/-- A field with new numbers. -/
def renumberField (image : Nat → Nat) : String × Value → String × Value
  | (name, value) => (name, value.renumber image)
termination_by structural field => field

end

section Lists

variable (image : Nat → Nat)

theorem renumberEach_eq_map (values : List Value) :
    renumberEach image values = values.map (Value.renumber image) := by
  induction values with
  | nil => rfl
  | cons value values ih => rw [renumberEach, ih, List.map_cons]

theorem renumberEntries_eq_map (entries : List (Value × Value)) :
    renumberEntries image entries =
      entries.map (Prod.map (Value.renumber image) (Value.renumber image)) := by
  induction entries with
  | nil => rfl
  | cons entry entries ih =>
    obtain ⟨key, value⟩ := entry
    rw [renumberEntries, ih, List.map_cons, renumberEntry, Prod.map]

theorem renumberFields_eq_map (fields : List (String × Value)) :
    renumberFields image fields = fields.map (Prod.map id (Value.renumber image)) := by
  induction fields with
  | nil => rfl
  | cons field fields ih =>
    obtain ⟨name, value⟩ := field
    rw [renumberFields, ih, List.map_cons, renumberField, Prod.map, id]

end Lists

/-! ### What renumbering keeps -/

variable {image : Nat → Nat}

namespace Object

theorem isHollow_renumber (object : Object) :
    (object.renumber image).isHollow = object.isHollow := by
  cases object <;> rfl

/-- An object whose parts keep their numbers is the same object. -/
theorem renumber_eq_self {object : Object}
    (hparts : ∀ part ∈ object.parts, part.renumber image = part) :
    object.renumber image = object := by
  cases object with
  | collection container ordered elements =>
    have helement : ∀ element ∈ elements, element.renumber image = element := hparts
    rw [renumber, renumberEach_eq_map, List.map_congr_left helement, List.map_id']
  | map container entries =>
    have hentry : ∀ entry ∈ entries,
        Prod.map (Value.renumber image) (Value.renumber image) entry = entry := fun entry h ↦
      Prod.ext (hparts _ (key_mem_parts h)) (hparts _ (value_mem_parts h))
    rw [renumber, renumberEntries_eq_map, List.map_congr_left hentry, List.map_id']
  | record descriptor fields =>
    have hfield : ∀ field ∈ fields, Prod.map id (Value.renumber image) field = field :=
      fun field h ↦ Prod.ext rfl (hparts _ (field_mem_parts h))
    rw [renumber, renumberFields_eq_map, List.map_congr_left hfield, List.map_id']
  | _ => rfl

/-- An object keeps its shape if its parts do. -/
theorem shape_renumber {object : Object}
    (hparts : ∀ part ∈ object.parts, (part.renumber image).shape = part.shape) :
    (object.renumber image).shape = object.shape := by
  cases object with
  | collection container ordered elements =>
    have helement : ∀ element ∈ elements,
        (Value.shape ∘ Value.renumber image) element = element.shape := hparts
    rw [renumber, shape, shape, shapeEach_eq_map, shapeEach_eq_map, renumberEach_eq_map,
      List.map_map, List.map_congr_left helement]
  | map container entries =>
    have hentry : ∀ entry ∈ entries,
        ((entry.1.renumber image).shape, (entry.2.renumber image).shape) =
          (entry.1.shape, entry.2.shape) := fun entry h ↦
      Prod.ext (hparts _ (key_mem_parts h)) (hparts _ (value_mem_parts h))
    rw [renumber, shape, shape, shapeEntries_eq_map, shapeEntries_eq_map, renumberEntries_eq_map,
      List.map_map]
    exact congrArg _ (List.map_congr_left hentry)
  | record descriptor fields =>
    have hfield : ∀ field ∈ fields,
        (field.1, (field.2.renumber image).shape) = (field.1, field.2.shape) :=
      fun field h ↦ Prod.ext rfl (hparts _ (field_mem_parts h))
    rw [renumber, shape, shape, shapeFields_eq_map, shapeFields_eq_map, renumberFields_eq_map,
      List.map_map]
    exact congrArg _ (List.map_congr_left hfield)
  | _ => rfl

end Object

namespace Value

theorem renumber_ref (number : Nat) (object : Object) :
    (ref number object).renumber image = ref (image number) (object.renumber image) := by
  rw [renumber]

/-- A value all of whose references keep their numbers is the same value. -/
theorem renumber_eq_self {v : Value}
    (hfixed : Everywhere (fun v ↦ ∀ number object, v = ref number object → image number = number)
      v) : v.renumber image = v := by
  induction hfixed with
  | @intro v self _ ih =>
    cases v with
    | ref number object =>
      rw [renumber_ref, self number object rfl, Object.renumber_eq_self (ih number object rfl)]
    | _ => rfl

/-- Whether a value is no hollow object. -/
def IsSolid : Value → Prop
  | ref _ object => object.isHollow = false
  | _ => True

/-- There is no hollow object in the value. -/
def HollowFree : Value → Prop :=
  Everywhere IsSolid

/-- A value without hollow objects keeps its shape. -/
theorem alike_renumber {v : Value} (hsolid : v.HollowFree) :
    v.Alike (v.renumber image) := by
  induction hsolid with
  | @intro v self _ ih =>
    cases v with
    | ref number object =>
      have hhollow : object.isHollow = false := self
      have hshape : (object.renumber image).shape = object.shape :=
        Object.shape_renumber fun part hpart ↦ (ih number object rfl part hpart).symm
      rw [Alike, renumber_ref, shape_ref, shape_ref, Object.isHollow_renumber, hhollow, hshape]
      rfl
    | _ => exact .refl _

end Value

/-! ### Equality of renumbered values -/

section Mapped

variable {f : Value → Value}

theorem swapRemove_map {α β : Type} (f : α → β) (items : List α) (index : Nat) :
    swapRemove (items.map f) index = (swapRemove items index).map f := by
  unfold swapRemove
  rw [List.getLast?_map]
  cases items.getLast? with
  | none => rfl
  | some last => simp only [Option.map_some, List.map_dropLast, List.map_set]

theorem equalInOrder_map_map {as : List Value}
    (has : ∀ a ∈ as, ∀ b, (f a).equal (f b) = a.equal b) (bs : List Value) :
    equalInOrder (as.map f) (bs.map f) = equalInOrder as bs := by
  induction as generalizing bs with
  | nil => cases bs <;> rfl
  | cons a as ih =>
    cases bs with
    | nil => rfl
    | cons b bs =>
      rw [List.map_cons, List.map_cons, equalInOrder, equalInOrder, has a List.mem_cons_self,
        ih fun c hc ↦ has c (List.mem_cons_of_mem a hc)]

theorem equalCrossingOut_map_map {as : List Value}
    (has : ∀ a ∈ as, ∀ b, (f a).equal (f b) = a.equal b) (bs : List Value) :
    equalCrossingOut (as.map f) (bs.map f) = equalCrossingOut as bs := by
  induction as generalizing bs with
  | nil => rfl
  | cons a as ih =>
    have hfound : (bs.map f).findIdx? (f a).equal = bs.findIdx? a.equal := by
      rw [List.findIdx?_map]
      exact congrArg (List.findIdx? · bs) (funext (has a List.mem_cons_self))
    rw [List.map_cons, equalCrossingOut, equalCrossingOut, hfound]
    cases bs.findIdx? a.equal with
    | none => rfl
    | some index =>
      dsimp only
      rw [swapRemove_map, ih fun c hc ↦ has c (List.mem_cons_of_mem a hc)]

theorem entryFoundIn_map_map {entry : Value × Value}
    (hkey : ∀ b, (f entry.1).equal (f b) = entry.1.equal b)
    (hvalue : ∀ b, (f entry.2).equal (f b) = entry.2.equal b) (bs : List (Value × Value)) :
    entryFoundIn (entry.map f f) (bs.map (Prod.map f f)) = entryFoundIn entry bs := by
  obtain ⟨key, value⟩ := entry
  have hfound : (bs.map (Prod.map f f)).find? (fun other ↦ (f key).equal other.1) =
      (bs.find? fun other ↦ key.equal other.1).map (Prod.map f f) := by
    rw [List.find?_map]
    exact congrArg (fun p ↦ (List.find? p bs).map _) (funext fun other ↦ hkey other.1)
  rw [Prod.map, entryFoundIn, entryFoundIn, hfound]
  cases bs.find? fun other ↦ key.equal other.1 with
  | none => rfl
  | some other => exact hvalue other.2

theorem foundIn_map_map {as : List (Value × Value)}
    (has : ∀ a ∈ as, ∀ b, (f a.1).equal (f b) = a.1.equal b ∧ (f a.2).equal (f b) = a.2.equal b)
    (bs : List (Value × Value)) :
    foundIn (as.map (Prod.map f f)) (bs.map (Prod.map f f)) = foundIn as bs := by
  induction as with
  | nil => rfl
  | cons a as ih =>
    have ha := has a List.mem_cons_self
    rw [List.map_cons, foundIn, foundIn,
      entryFoundIn_map_map (fun b ↦ (ha b).1) (fun b ↦ (ha b).2),
      ih fun c hc ↦ has c (List.mem_cons_of_mem a hc)]

theorem equalFields_map_map {as : List (String × Value)}
    (has : ∀ a ∈ as, ∀ b, (f a.2).equal (f b) = a.2.equal b) (bs : List (String × Value)) :
    equalFields (as.map (Prod.map id f)) (bs.map (Prod.map id f)) = equalFields as bs := by
  induction as generalizing bs with
  | nil => cases bs <;> rfl
  | cons a as ih =>
    cases bs with
    | nil => rfl
    | cons b bs =>
      obtain ⟨name, value⟩ := a
      obtain ⟨other, otherValue⟩ := b
      have hvalue := has (name, value) List.mem_cons_self otherValue
      rw [List.map_cons, List.map_cons, equalFields, equalFields,
        ih fun c hc ↦ has c (List.mem_cons_of_mem _ hc), Prod.map, Prod.map, equalField, equalField,
        hvalue]
      rfl

end Mapped

/-- Renumbering keeps whether two objects are equal if it does so for their parts. -/
theorem Object.equal_renumber {a : Object}
    (hparts : ∀ part ∈ a.parts, ∀ w, (part.renumber image).equal (w.renumber image) = part.equal w)
    (b : Object) : (a.renumber image).equal (b.renumber image) = a.equal b := by
  cases a with
  | collection container ordered as =>
    cases b with
    | collection other otherOrdered bs =>
      have hordered := equalInOrder_map_map hparts bs
      have hunordered := equalCrossingOut_map_map hparts bs
      simp only [parts] at hordered hunordered
      simp only [renumber, equal, renumberEach_eq_map, List.length_map, hordered, hunordered]
    | _ => rfl
  | map container as =>
    cases b with
    | map other bs =>
      have hfound := foundIn_map_map (fun a ha w ↦
        ⟨hparts _ (key_mem_parts ha) w, hparts _ (value_mem_parts ha) w⟩) bs
      simp only [renumber, equal, renumberEntries_eq_map, List.length_map, hfound]
    | _ => rfl
  | record d as =>
    cases b with
    | record e bs =>
      have hfields := equalFields_map_map (fun a ha ↦ hparts _ (field_mem_parts ha)) bs
      simp only [renumber, equal, renumberFields_eq_map, hfields]
    | _ => rfl
  | _ => cases b <;> rfl

/-- Renumbering keeps whether two values are equal. -/
theorem Value.equal_renumber (hinjective : image.Injective) (v w : Value) :
    (v.renumber image).equal (w.renumber image) = v.equal w := by
  induction v using induction_on_parts generalizing w with
  | hstep v ih =>
    cases v with
    | ref number a =>
      cases w with
      | ref other b =>
        have hobject := Object.equal_renumber (ih number a rfl) b
        simp only [renumber_ref, equal, hobject, hinjective.eq_iff]
      | _ => rfl
    | _ => cases w <;> rfl

end Exemplar
