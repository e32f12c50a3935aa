import Exemplar.Proofs.Value.Equivalence
import Exemplar.Value.Mapping
import Mathlib.Data.List.Find

/-!
Values as programs make them: a number denotes one object, and a map was filled by inserting its
entries one after the other. An insertion adds a key only if no earlier key equals it, so the keys
of such a map differ, whatever was inserted and although a key may differ from itself. Equality of
these values is therefore a partial equivalence, and only a number can differ from itself. Since
equality is symmetric, it does not matter which side asks the other one for an equal part.
-/

set_option autoImplicit false
set_option relaxedAutoImplicit false

namespace Exemplar

/-! ### Keys of a map filled by insertion -/

namespace Mapping

/-- An insertion brings in no key but the inserted one. -/
theorem key_eq_or_mem_of_mem_put {key value : Value} {entries : List (Value × Value)}
    {entry : Value × Value} (hentry : entry ∈ put key value entries) :
    entry.1 = key ∨ ∃ earlier ∈ entries, entry.1 = earlier.1 := by
  induction entries with
  | nil =>
    rw [put, List.mem_singleton] at hentry
    exact .inl (congrArg Prod.fst hentry)
  | cons first entries ih =>
    unfold put at hentry
    split at hentry
    · rcases List.mem_cons.1 hentry with rfl | hmem
      · exact .inr ⟨first, List.mem_cons_self, rfl⟩
      · exact .inr ⟨entry, List.mem_cons_of_mem first hmem, rfl⟩
    · rcases List.mem_cons.1 hentry with rfl | hmem
      · exact .inr ⟨entry, List.mem_cons_self, rfl⟩
      · rcases ih hmem with hkey | ⟨earlier, hearlier, hkey⟩
        · exact .inl hkey
        · exact .inr ⟨earlier, List.mem_cons_of_mem first hearlier, hkey⟩

/-- A key that is added was compared with every earlier key. -/
theorem pairwise_put (key value : Value) {entries : List (Value × Value)}
    (hkeys : entries.Pairwise fun entry later ↦ entry.1.equal later.1 = false) :
    (put key value entries).Pairwise fun entry later ↦ entry.1.equal later.1 = false := by
  induction entries with
  | nil => exact List.pairwise_singleton _ _
  | cons first entries ih =>
    obtain ⟨hfirst, hothers⟩ := List.pairwise_cons.1 hkeys
    unfold put
    split
    · exact List.pairwise_cons.2 ⟨hfirst, hothers⟩
    · rename_i hdiffers
      refine List.pairwise_cons.2 ⟨fun later hlater ↦ ?_, ih hothers⟩
      rcases key_eq_or_mem_of_mem_put hlater with hkey | ⟨earlier, hearlier, hkey⟩
      · rw [hkey]
        exact Bool.eq_false_iff.2 hdiffers
      · rw [hkey]
        exact hfirst earlier hearlier

theorem keysDiffer_insert {mapping : Mapping} (hkeys : mapping.toObject.KeysDiffer)
    (key value : Value) : (mapping.insert key value).toObject.KeysDiffer :=
  pairwise_put key value hkeys

/-- No key of a map filled by insertion equals an earlier one. -/
theorem keysDiffer_ofList (container : String) (inserted : List (Value × Value)) :
    (ofList container inserted).toObject.KeysDiffer := by
  have hfold : ∀ mapping : Mapping, mapping.toObject.KeysDiffer →
      (inserted.foldl (fun mapping entry ↦ mapping.insert entry.1 entry.2)
        mapping).toObject.KeysDiffer := by
    induction inserted with
    | nil => exact fun _ h ↦ h
    | cons entry inserted ih => exact fun mapping h ↦ ih _ (keysDiffer_insert h entry.1 entry.2)
  exact hfold (empty container) List.Pairwise.nil

end Mapping

/-- The object is no map, or a map filled by insertion. -/
def Object.IsFilled : Object → Prop
  | map container entries => ∃ inserted, Mapping.ofList container inserted = ⟨container, entries⟩
  | _ => True

theorem Object.IsFilled.keysDiffer {object : Object} (h : object.IsFilled) : object.KeysDiffer := by
  cases object with
  | map container entries =>
    obtain ⟨inserted, hinserted⟩ := h
    have hkeys := Mapping.keysDiffer_ofList container inserted
    rwa [hinserted] at hkeys
  | _ => trivial

namespace Heap

/-- A value that can come about: every reference in it denotes its object, and every map in it was
filled by insertion. -/
def Makes (heap : Heap) : Value → Prop :=
  Value.Everywhere fun
    | .ref number object => heap number = some object ∧ object.IsFilled
    | _ => True

variable {heap : Heap} {v : Value}

theorem Makes.holds (h : heap.Makes v) : heap.Holds v :=
  Value.Everywhere.mono (fun w hw ↦ by
    cases w with
    | ref number object => exact ⟨hw.1, hw.2.keysDiffer⟩
    | _ => trivial) h

end Heap

/-! ### Which side asks -/

namespace Heap

variable {heap : Heap} {v w : Value}

/-- It does not matter which of two values is compared with the other one. -/
theorem equal_comm (hv : heap.Holds v) (hw : heap.Holds w) : v.equal w = w.equal v :=
  Bool.eq_iff_iff.2 ⟨heap.isPartialEquivalenceOn_holds.symm hv hw,
    heap.isPartialEquivalenceOn_holds.symm hw hv⟩

end Heap

/-- Crossing out where the candidates are compared with each element, and not the element with each
candidate. -/
def crossedOutByCandidates : List Value → List Value → Bool
  | [], _ => true
  | a :: as, bs =>
    match bs.findIdx? fun b ↦ b.equal a with
    | none => false
    | some index => crossedOutByCandidates as (swapRemove bs index)

/-- Crossing out finds the same elements whichever side asks. -/
theorem equalCrossingOut_eq_crossedOutByCandidates {heap : Heap} {as bs : List Value}
    (has : ∀ a ∈ as, heap.Holds a) (hbs : ∀ b ∈ bs, heap.Holds b) :
    equalCrossingOut as bs = crossedOutByCandidates as bs := by
  induction as generalizing bs with
  | nil => rfl
  | cons a as ih =>
    have hsearch : bs.findIdx? a.equal = bs.findIdx? fun b ↦ b.equal a := by
      rw [List.findIdx?_eq_fst_find?_zipIdx, List.findIdx?_eq_fst_find?_zipIdx]
      refine congrArg _ (List.find?_congr fun b hb ↦ ?_)
      exact heap.equal_comm (has a List.mem_cons_self)
        (hbs b.1 (List.fst_mem_of_mem_zipIdx hb))
    rw [equalCrossingOut, crossedOutByCandidates, hsearch]
    cases hfound : bs.findIdx? fun b ↦ b.equal a with
    | none => rfl
    | some index =>
      obtain ⟨hindex, -, -⟩ := List.findIdx?_eq_some_iff_getElem.1 hfound
      exact ih (fun a' ha' ↦ has a' (List.mem_cons_of_mem a ha')) fun b hb ↦
        hbs b ((perm_swapRemove hindex).mem_iff.2 (List.mem_cons_of_mem _ hb))

namespace Mapping

/-- Maps are equal if they have the same name and the same number of entries, and looking up each
key of the one in the other finds an equal value. -/
theorem equal_iff_get? {heap : Heap} {mapping other : Mapping}
    (hmapping : ∀ part ∈ mapping.toObject.parts, heap.Holds part)
    (hother : ∀ part ∈ other.toObject.parts, heap.Holds part) :
    mapping.equal other = true ↔ mapping.container = other.container ∧
      mapping.size = other.size ∧ ∀ entry ∈ mapping.entries,
        ∃ value, other.get? entry.1 = some value ∧ value.equal entry.2 = true := by
  have hsearch (entry : Value × Value) (hentry : entry ∈ mapping.entries) :
      (other.entries.find? fun found ↦ entry.1.equal found.1) =
        other.entries.find? fun found ↦ found.1.equal entry.1 :=
    List.find?_congr fun found hfound ↦ heap.equal_comm
      (hmapping _ (Object.key_mem_parts hentry)) (hother _ (Object.key_mem_parts hfound))
  have hentries : foundIn mapping.entries other.entries = true ↔ ∀ entry ∈ mapping.entries,
      ∃ value, other.get? entry.1 = some value ∧ value.equal entry.2 = true := by
    rw [foundIn_iff]
    refine forall₂_congr fun entry hentry ↦ ?_
    obtain ⟨key, value⟩ := entry
    rw [entryFoundIn, hsearch (key, value) hentry, get?]
    cases hfound : other.entries.find? fun found ↦ found.1.equal key with
    | none => simp
    | some found =>
      have hcomm := heap.equal_comm (hmapping _ (Object.value_mem_parts hentry))
        (hother _ (Object.value_mem_parts (List.mem_of_find?_eq_some hfound)))
      simp [hcomm]
  simp only [equal, toObject, Object.equal, Bool.and_eq_true, decide_eq_true_eq, hentries, size,
    and_assoc]

end Mapping

/-! ### Zeros of both signs beside a list that does not equal its copy -/

namespace SharedList

/-- A list of a number that differs from itself. It equals itself all the same, and no other list
does. -/
def list : Value :=
  .ref 0 (.collection "L" true [.floating ⟨.double, 0xfff8000000000000, by decide⟩])

/-- Zero without a sign. -/
def zero : Value :=
  .floating (.zero .double)

/-- Zero with a sign. -/
def negativeZero : Value :=
  .floating ⟨.double, 0x8000000000000000, by decide⟩

/-- A map from a zero to the list. -/
def mapFrom (number : Nat) (key : Value) : Value :=
  .ref number (Mapping.ofList "M" [(key, list)]).toObject

/-- A set of two elements. -/
def set (number : Nat) (first second : Value) : Value :=
  .ref number (.collection "S" false [first, second])

def first : Value :=
  set 4 (mapFrom 1 zero) negativeZero

def second : Value :=
  set 5 zero (mapFrom 2 negativeZero)

def third : Value :=
  set 6 (mapFrom 3 negativeZero) zero

/-- The objects of the three sets, by their numbers. -/
def heap : Heap := fun number ↦
  ([list, mapFrom 1 zero, mapFrom 2 negativeZero, mapFrom 3 negativeZero, first, second,
    third][number]?).bind Value.object?

theorem makes_inline {v : Value} (hv : v.object? = none) : heap.Makes v := by
  refine .of_inline ?_ hv
  cases v with
  | ref number object => cases hv
  | _ => trivial

theorem makes_list : heap.Makes list :=
  .of_ref ⟨rfl, trivial⟩ (List.forall_mem_singleton.2 (makes_inline rfl))

theorem makes_mapFrom {number : Nat} {key : Value} (hkey : key.object? = none)
    (hnumber : heap number = (mapFrom number key).object?) : heap.Makes (mapFrom number key) :=
  .of_ref ⟨hnumber, [(key, list)], rfl⟩
    (List.forall_mem_cons.2 ⟨makes_inline hkey, List.forall_mem_singleton.2 makes_list⟩)

theorem makes_set {number : Nat} {v w : Value} (hv : heap.Makes v) (hw : heap.Makes w)
    (hnumber : heap number = (set number v w).object?) : heap.Makes (set number v w) :=
  .of_ref ⟨hnumber, trivial⟩ (List.forall_mem_cons.2 ⟨hv, List.forall_mem_singleton.2 hw⟩)

theorem makes_first : heap.Makes first :=
  makes_set (makes_mapFrom rfl rfl) (makes_inline rfl) rfl

theorem makes_second : heap.Makes second :=
  makes_set (makes_inline rfl) (makes_mapFrom rfl rfl) rfl

theorem makes_third : heap.Makes third :=
  makes_set (makes_mapFrom rfl rfl) (makes_inline rfl) rfl

end SharedList

/-! ### The equivalence -/

namespace Value

/-- A value equals itself unless it is a number that differs from itself. A reference needs no look
at its object. -/
theorem equal_self_iff (v : Value) :
    v.equal v = true ↔ ∀ x, v = .floating x → x.isNaN = false := by
  cases v with
  | floating x =>
    have hself : (floating x).equal (floating x) = x.equal x := rfl
    rw [hself, Floating.equal_iff]
    constructor
    · rintro ⟨-, hnumber, -⟩ y hy
      cases hy
      exact hnumber
    · intro hnumber
      exact ⟨rfl, hnumber x rfl, hnumber x rfl, .inl rfl⟩
  | _ => simp [equal]

/-- Equality is symmetric and transitive on the values that can come about, and each of them equals
itself unless it is a number that differs from itself. -/
theorem equal_is_partial_equivalence (heap : Heap) (a b c : Value) (ha : heap.Makes a)
    (hb : heap.Makes b) (hc : heap.Makes c) :
    (a.equal b = true → b.equal a = true) ∧
      (a.equal b = true → b.equal c = true → a.equal c = true) ∧
      (a.equal a = true ↔ ∀ x, a = .floating x → x.isNaN = false) :=
  ⟨heap.isPartialEquivalenceOn_holds.symm ha.holds hb.holds,
    heap.isPartialEquivalenceOn_holds.trans ha.holds hb.holds hc.holds, a.equal_self_iff⟩

/-- Three sets of a zero and a map from a zero to the same list are equal to one another. -/
theorem sets_with_shared_list_are_equal :
    (SharedList.heap.Makes SharedList.first ∧ SharedList.heap.Makes SharedList.second ∧
      SharedList.heap.Makes SharedList.third) ∧
    SharedList.second.equal SharedList.first = true ∧
      SharedList.first.equal SharedList.third = true ∧
      SharedList.first.equal SharedList.first = true := by
  have hequiv := equal_is_partial_equivalence SharedList.heap SharedList.first
    SharedList.second SharedList.third SharedList.makes_first SharedList.makes_second
    SharedList.makes_third
  refine ⟨⟨SharedList.makes_first, SharedList.makes_second, SharedList.makes_third⟩,
    hequiv.1 (by decide), hequiv.2.1 (by decide) (by decide), hequiv.2.2.2 nofun⟩

end Value

end Exemplar
