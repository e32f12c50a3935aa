import Exemplar.Proofs.Value.Insertion
import Exemplar.Proofs.Value.Shape

/-!
Duplicates of values. A duplicate of an object is compared with the original part by part, and the
two share their parts. In an object that equals a copy of itself each part equals some part, so each
part equals itself, and the other way round. Only a number can differ from itself, and only one
right inside of the object is looked at: deeper ones are behind references, which equal themselves.
-/

set_option autoImplicit false
set_option relaxedAutoImplicit false

namespace Exemplar

/-! ### Copies of an object -/

namespace Object

variable {R : Value → Value → Prop} {P : Value → Prop} {object : Object}

/-- In an object that is related to a copy of itself each part is related to some part. -/
theorem Related.exists_part (h : Related R object object) {part : Value}
    (hpart : part ∈ object.parts) : ∃ other ∈ object.parts, R part other := by
  cases h with
  | text | marker | enumConstant => cases hpart
  | inOrder container hparts => exact ⟨part, hpart, List.forall₂_same.1 hparts part hpart⟩
  | inAnyOrder container hparts =>
    obtain ⟨other, hother, hrelated⟩ :=
      Multiset.exists_mem_of_rel_of_mem hparts (Multiset.mem_coe.2 hpart)
    exact ⟨other, Multiset.mem_coe.1 hother, hrelated⟩
  | map container hparts =>
    obtain ⟨entry, hentry, hpart⟩ := List.mem_flatMap.1 hpart
    obtain ⟨other, hother, hkey, hvalue⟩ :=
      Multiset.exists_mem_of_rel_of_mem hparts (Multiset.mem_coe.2 hentry)
    rcases List.mem_pair.1 hpart with rfl | rfl
    · exact ⟨other.1, key_mem_parts (Multiset.mem_coe.1 hother), hkey⟩
    · exact ⟨other.2, value_mem_parts (Multiset.mem_coe.1 hother), hvalue⟩
  | record d hparts =>
    obtain ⟨field, hfield, rfl⟩ := List.mem_map.1 hpart
    exact ⟨field.2, hpart, (List.forall₂_same.1 hparts field hfield).2⟩

/-- An object is related to a copy of itself if each part is related to itself. -/
theorem related_self (hhollow : object.isHollow = false)
    (hparts : ∀ part ∈ object.parts, R part part) : Related R object object := by
  cases object with
  | text content => exact .text content
  | marker label => exact .marker label
  | enumConstant enumeration name => exact .enumConstant enumeration name
  | collection container ordered elements =>
    cases ordered with
    | true => exact .inOrder container (List.forall₂_same.2 hparts)
    | false => exact .inAnyOrder container (Multiset.rel_refl_of_refl_on hparts)
  | map container entries =>
    refine .map container (Multiset.rel_refl_of_refl_on fun entry hentry ↦ ?_)
    exact ⟨hparts _ (key_mem_parts hentry), hparts _ (value_mem_parts hentry)⟩
  | record d fields =>
    refine .record d (List.forall₂_same.2 fun field hfield ↦ ?_)
    exact ⟨rfl, hparts _ (field_mem_parts hfield)⟩
  | hollow => cases hhollow

/-- An object equals a copy of itself if and only if each part equals itself. -/
theorem equal_self_iff (hP : IsPartialEquivalenceOn P) (hhollow : object.isHollow = false)
    (hparts : ∀ part ∈ object.parts, P part) (hkeys : object.KeysDiffer) :
    object.equal object = true ↔ ∀ part ∈ object.parts, part.equal part = true := by
  constructor
  · intro hequal part hpart
    have hrelated := related_of_equal hP hparts hparts hkeys hequal
    obtain ⟨other, hother, hpair⟩ := hrelated.exists_part hpart
    have hback := hP.symm (hparts part hpart) (hparts other hother) hpair
    exact hP.trans (hparts part hpart) (hparts other hother) (hparts part hpart) hpair hback
  · exact fun hself ↦ equal_of_related hP hparts hparts hkeys (related_self hhollow hself)

end Object

/-! ### Duplicates -/

/-- An unused number is not that of a value in the heap. -/
theorem Heap.FreshFrom.ne {heap : Heap} {unused number : Nat} {object : Object}
    (h : heap.FreshFrom unused) (hv : heap.Holds (.ref number object)) : unused ≠ number := by
  rintro rfl
  have hobject := hv.self.1
  rw [h unused (Nat.le_refl _)] at hobject
  cases hobject

namespace Value

variable {heap : Heap} {unused : Nat} {v : Value}

theorem equal_self_iff_isNumber (v : Value) : v.equal v = true ↔ v.IsNumber := by
  rw [equal_self_iff]
  cases v with
  | floating x => exact ⟨fun h ↦ h x rfl, fun h y hy ↦ by cases hy; exact h⟩
  | _ => exact ⟨fun _ ↦ trivial, fun _ _ hv ↦ by cases hv⟩

/-- Neither the value nor a part right inside of it is a number that differs from itself. -/
def IsNumberNearby (v : Value) : Prop :=
  v.IsNumber ∧ ∀ number object, v = ref number object → ∀ part ∈ object.parts, part.IsNumber

/-- A reference that can exist twice is duplicated behind the next unused number. -/
theorem duplicate_ref {number : Nat} {object : Object} (hunique : object.isUnique = false)
    (unused : Nat) :
    (ref number object).duplicate unused = (ref unused object, unused + 1) := by
  rw [duplicate, hunique]
  rfl

theorem duplicate_of_unique {number : Nat} {object : Object} (hunique : object.isUnique = true)
    (unused : Nat) : (ref number object).duplicate unused = (ref number object, unused) := by
  rw [duplicate, hunique]
  rfl

theorem duplicate_of_inline (hv : v.object? = none) (unused : Nat) :
    v.duplicate unused = (v, unused) := by
  cases v with
  | ref => cases hv
  | _ => rfl

theorem parts_of_isUnique {object : Object} (hunique : object.isUnique = true) :
    object.parts = [] := by
  cases object <;> first | rfl | cases hunique

/-- The duplicate of a value equals the value if and only if no number that differs from itself is
nearby. -/
theorem equal_duplicate_iff (hfresh : heap.FreshFrom unused) (hv : heap.Holds v) :
    (v.duplicate unused).1.equal v = true ↔ v.IsNumberNearby := by
  cases v with
  | ref number object =>
    have hnearby : (ref number object).IsNumberNearby ↔ ∀ part ∈ object.parts, part.IsNumber :=
      ⟨fun h ↦ h.2 number object rfl, fun h ↦ ⟨trivial, fun _ _ hv ↦ by cases hv; exact h⟩⟩
    rw [hnearby]
    cases hunique : object.isUnique with
    | true =>
      rw [duplicate_of_unique hunique, parts_of_isUnique hunique]
      simp [equal]
    | false =>
      have hhollow : object.isHollow = false := by
        cases object <;> first | rfl | cases hunique
      have hne : unused ≠ number := hfresh.ne hv
      have hself := Object.equal_self_iff heap.isPartialEquivalenceOn_holds hhollow
        (fun _ ↦ hv.part) hv.self.2
      rw [duplicate_ref hunique]
      simp only [equal, hne, decide_false, Bool.false_or, hself, equal_self_iff_isNumber]
  | _ =>
    rw [duplicate_of_inline rfl, equal_self_iff_isNumber]
    exact ⟨fun h ↦ ⟨h, fun _ _ hv ↦ by cases hv⟩, And.left⟩

/-- The duplicate of an object that can exist twice is another reference. -/
theorem sameReference_duplicate (hfresh : heap.FreshFrom unused) (hv : heap.Holds v)
    (hunique : ∀ number object, v = ref number object → object.isUnique = false) :
    (v.duplicate unused).1.sameReference v = false := by
  cases v with
  | ref number object =>
    rw [duplicate_ref (hunique number object rfl)]
    exact decide_eq_false (hfresh.ne hv)
  | _ => rfl

theorem isUnique_iff {object : Object} : object.isUnique = true ↔
    (∃ enumeration name, object = .enumConstant enumeration name) ∨ ∃ d, object = .hollow d := by
  cases object <;> simp [Object.isUnique]

/-- A duplicate holds the object itself, not a copy of its parts, behind the same reference or a new
one. -/
theorem exists_duplicate_eq (unused number : Nat) (object : Object) :
    ∃ copy, ((ref number object).duplicate unused).1 = ref copy object := by
  cases hunique : object.isUnique with
  | true => exact ⟨number, congrArg Prod.fst (duplicate_of_unique hunique unused)⟩
  | false => exact ⟨unused, congrArg Prod.fst (duplicate_ref hunique unused)⟩

/-- The duplicate of an object is the same reference exactly if the object can exist only once. -/
theorem sameReference_duplicate_iff {number : Nat} {object : Object}
    (hfresh : heap.FreshFrom unused) (hv : heap.Holds (ref number object)) :
    ((ref number object).duplicate unused).1.sameReference (ref number object) = true ↔
      object.isUnique = true := by
  cases hunique : object.isUnique with
  | true =>
    rw [duplicate_of_unique hunique]
    exact iff_of_true (decide_eq_true rfl) rfl
  | false =>
    have hother : ∀ m a, ref number object = ref m a → a.isUnique = false := by
      rintro _ _ ⟨⟩
      exact hunique
    rw [sameReference_duplicate hfresh hv hother]

/-- What is nearby, shape by shape: the value itself, the elements of a collection, the keys and
values of a map, and the fields of a record. -/
theorem isNumberNearby_iff : v.IsNumberNearby ↔ v.IsNumber ∧
    (∀ number container ordered elements,
      v = ref number (.collection container ordered elements) → ∀ e ∈ elements, e.IsNumber) ∧
    (∀ number container entries, v = ref number (.map container entries) →
      ∀ entry ∈ entries, entry.1.IsNumber ∧ entry.2.IsNumber) ∧
    ∀ number d fields, v = ref number (.record d fields) →
      ∀ field ∈ fields, field.2.IsNumber := by
  refine and_congr_right fun _ ↦ ⟨fun h ↦ ⟨?_, ?_, ?_⟩, ?_⟩
  · exact fun number container ordered elements hv ↦ h number _ hv
  · exact fun number container entries hv entry hentry ↦
      ⟨h number _ hv _ (Object.key_mem_parts hentry),
        h number _ hv _ (Object.value_mem_parts hentry)⟩
  · exact fun number d fields hv field hfield ↦ h number _ hv _ (Object.field_mem_parts hfield)
  · rintro ⟨helements, hentries, hfields⟩ number object hv part hpart
    cases object with
    | collection container ordered elements =>
      exact helements number container ordered elements hv part hpart
    | map container entries =>
      obtain ⟨entry, hentry, hpart⟩ := List.mem_flatMap.1 hpart
      obtain ⟨hkey, hvalue⟩ := hentries number container entries hv entry hentry
      rcases List.mem_pair.1 hpart with rfl | rfl
      · exact hkey
      · exact hvalue
    | record d fields =>
      obtain ⟨field, hfield, rfl⟩ := List.mem_map.1 hpart
      exact hfields number d fields hv field hfield
    | text | marker | enumConstant | hollow => cases hpart

/-- The duplicate of a value that can come about equals the value exactly if neither the value nor
an element, key, value or field right inside of it is a number that differs from itself. It is the
same reference exactly for constants of an enumeration and hollow objects. In any case the two hold
the same object, so that its parts are the same references. -/
theorem duplicate_equal_iff_no_nan_nearby (heap : Heap) (unused : Nat) (v : Value)
    (hfresh : heap.FreshFrom unused) (hv : heap.Makes v) :
    ((v.duplicate unused).1.equal v = true ↔ v.IsNumber ∧
      (∀ number container ordered elements,
        v = ref number (.collection container ordered elements) → ∀ e ∈ elements, e.IsNumber) ∧
      (∀ number container entries, v = ref number (.map container entries) →
        ∀ entry ∈ entries, entry.1.IsNumber ∧ entry.2.IsNumber) ∧
      ∀ number d fields, v = ref number (.record d fields) →
        ∀ field ∈ fields, field.2.IsNumber) ∧
    ∀ number object, v = ref number object →
      ((v.duplicate unused).1.sameReference v = true ↔
        (∃ enumeration name, object = .enumConstant enumeration name) ∨ ∃ d, object = .hollow d) ∧
      ∃ copy, (v.duplicate unused).1 = ref copy object := by
  refine ⟨(equal_duplicate_iff hfresh hv.holds).trans isNumberNearby_iff, ?_⟩
  rintro number object rfl
  exact ⟨(sameReference_duplicate_iff hfresh hv.holds).trans isUnique_iff,
    exists_duplicate_eq unused number object⟩

end Value

namespace SharedList

theorem freshFrom_heap : heap.FreshFrom 7 := by
  intro number hnumber
  have hnone : ([list, mapFrom 1 zero, mapFrom 2 negativeZero, mapFrom 3 negativeZero, first,
      second, third][number]?) = none := List.getElem?_eq_none hnumber
  rw [heap, hnone]
  rfl

end SharedList

/-- The duplicate of a set of a map to the list equals the set, although the list holds a number
that differs from itself. The list itself does not equal its duplicate. -/
theorem Value.duplicate_equal_for_set_not_for_list :
    (SharedList.heap.FreshFrom 7 ∧ SharedList.heap.Makes SharedList.first ∧
      SharedList.heap.Makes SharedList.list) ∧
    (SharedList.first.duplicate 7).1.equal SharedList.first = true ∧
      (SharedList.first.duplicate 7).1.sameReference SharedList.first = false ∧
      (SharedList.list.duplicate 7).1.equal SharedList.list = false := by
  obtain ⟨hequal, hsame⟩ := duplicate_equal_iff_no_nan_nearby SharedList.heap 7 SharedList.first
    SharedList.freshFrom_heap SharedList.makes_first
  obtain ⟨hequal', -⟩ := duplicate_equal_iff_no_nan_nearby SharedList.heap 7 SharedList.list
    SharedList.freshFrom_heap SharedList.makes_list
  refine ⟨⟨SharedList.freshFrom_heap, SharedList.makes_first, SharedList.makes_list⟩,
    hequal.2 ⟨trivial, ?_, nofun, nofun⟩, ?_, ?_⟩
  · rintro _ _ _ _ ⟨⟩
    exact List.forall_mem_cons.2 ⟨trivial, List.forall_mem_singleton.2 rfl⟩
  · refine Bool.eq_false_iff.2 fun h ↦ ?_
    rcases (hsame _ _ rfl).1.1 h with ⟨_, _, h⟩ | ⟨_, h⟩ <;> cases h
  · refine Bool.eq_false_iff.2 fun h ↦ ?_
    have hnumber := (hequal'.1 h).2.1 _ _ _ _ rfl _ List.mem_cons_self
    cases hnumber

end Exemplar
