import Exemplar.Proofs.Value.Matching

/-!
Equality is symmetric and transitive for the values of a heap. The proof is by size: objects of a
given size are compared by their parts, which are smaller, so equality of the parts may be assumed
to be symmetric and transitive. A reference equals itself without being compared, which agrees with
the comparison of its object because a number denotes one object.
-/

set_option autoImplicit false
set_option relaxedAutoImplicit false

namespace Exemplar

namespace Floating

theorem equal_iff (x y : Floating) :
    x.equal y = true ↔ x.kind = y.kind ∧ x.isNaN = false ∧ y.isNaN = false ∧
      (x.bits = y.bits ∨ x.isZero = true ∧ y.isZero = true) := by
  simp [equal, and_assoc]

theorem equal_symm {x y : Floating} (h : x.equal y = true) : y.equal x = true := by
  rw [equal_iff] at h ⊢
  obtain ⟨hkind, hx, hy, hbits | ⟨hzero, hzero'⟩⟩ := h
  · exact ⟨hkind.symm, hy, hx, .inl hbits.symm⟩
  · exact ⟨hkind.symm, hy, hx, .inr ⟨hzero', hzero⟩⟩

theorem isZero_eq {x y : Floating} (hkind : x.kind = y.kind) (hbits : x.bits = y.bits) :
    x.isZero = y.isZero := by
  cases x
  cases y
  cases hkind
  cases hbits
  rfl

theorem equal_trans {x y z : Floating} (h : x.equal y = true) (h' : y.equal z = true) :
    x.equal z = true := by
  rw [equal_iff] at h h' ⊢
  obtain ⟨hkind, hx, -, hbits⟩ := h
  obtain ⟨hkind', -, hz, hbits'⟩ := h'
  refine ⟨hkind.trans hkind', hx, hz, ?_⟩
  rcases hbits with hbits | ⟨hzero, hmiddle⟩ <;> rcases hbits' with hbits' | ⟨hmiddle', hzero'⟩
  · exact .inl (hbits.trans hbits')
  · exact .inr ⟨(isZero_eq hkind hbits).trans hmiddle', hzero'⟩
  · exact .inr ⟨hzero, (isZero_eq hkind' hbits').symm.trans hmiddle⟩
  · exact .inr ⟨hzero, hzero'⟩

end Floating

namespace Value

/-- The ways in which two values can be equal: as the same inline value, as numbers, or by their
references. -/
theorem equals_cases {v w : Value} (h : v.Equals w) :
    v = w ∨ (∃ x y, v = .floating x ∧ w = .floating y ∧ x.equal y = true) ∨
      ∃ number a other b, v = .ref number a ∧ w = .ref other b ∧
        (number = other ∨ a.equal b = true) := by
  cases v with
  | null =>
    cases w with
    | null => exact .inl rfl
    | _ => cases h
  | bool a =>
    cases w with
    | bool b => exact .inl (congrArg bool (of_decide_eq_true h))
    | _ => cases h
  | char a =>
    cases w with
    | char b => exact .inl (congrArg char (of_decide_eq_true h))
    | _ => cases h
  | integer a =>
    cases w with
    | integer b => exact .inl (congrArg integer (of_decide_eq_true h))
    | _ => cases h
  | floating x =>
    cases w with
    | floating y => exact .inr (.inl ⟨x, y, rfl, rfl, h⟩)
    | _ => cases h
  | ref number a =>
    cases w with
    | ref other b =>
      exact .inr (.inr ⟨number, a, other, b, rfl, rfl, by simpa [Equals, equal] using h⟩)
    | _ => cases h

theorem equals_ref_iff {number other : Nat} {a b : Object} :
    (ref number a).Equals (ref other b) ↔ number = other ∨ a.equal b = true := by
  simp [Equals, equal]

end Value

namespace Heap

variable {heap : Heap} {size : Nat}

/-- The values of a heap up to a size. -/
def HoldsBelow (heap : Heap) (size : Nat) (v : Value) : Prop :=
  heap.Holds v ∧ sizeOf v < size

theorem HoldsBelow.part {number : Nat} {object : Object}
    (h : heap.HoldsBelow (size + 1) (.ref number object)) {part : Value}
    (hpart : part ∈ object.parts) : heap.HoldsBelow size part := by
  refine ⟨h.1.part hpart, ?_⟩
  have hsmaller := Object.sizeOf_lt_of_mem_parts hpart
  have hbound := h.2
  rw [Value.ref.sizeOf_spec] at hbound
  omega

/-- Objects of a size are compared by smaller values, whose equality is a partial equivalence. -/
theorem HoldsBelow.equal_iff (hparts : IsPartialEquivalenceOn (heap.HoldsBelow size))
    {number other : Nat} {a b : Object} (ha : heap.HoldsBelow (size + 1) (.ref number a))
    (hb : heap.HoldsBelow (size + 1) (.ref other b)) :
    a.equal b = true ↔ Object.Related Value.Equals a b :=
  ⟨Object.related_of_equal hparts (fun _ ↦ ha.part) (fun _ ↦ hb.part) ha.1.self.2,
    Object.equal_of_related hparts (fun _ ↦ ha.part) (fun _ ↦ hb.part) hb.1.self.2⟩

/-- Equality of the values of a heap is a partial equivalence up to each size. -/
theorem isPartialEquivalenceOn_holdsBelow (heap : Heap) (size : Nat) :
    IsPartialEquivalenceOn (heap.HoldsBelow size) := by
  induction size with
  | zero =>
    exact ⟨fun hv ↦ absurd hv.2 (Nat.not_lt_zero _), fun hv ↦ absurd hv.2 (Nat.not_lt_zero _)⟩
  | succ size ih =>
    -- equality of smaller values, as a relation of all values
    let R (v w : Value) : Prop := heap.HoldsBelow size v ∧ heap.HoldsBelow size w ∧ v.Equals w
    have hrelated {number other : Nat} {a b : Object}
        (ha : heap.HoldsBelow (size + 1) (.ref number a))
        (hb : heap.HoldsBelow (size + 1) (.ref other b)) :
        a.equal b = true ↔ Object.Related R a b := by
      rw [ha.equal_iff ih hb]
      exact ⟨fun h ↦ h.mono fun v hv w hw hvw ↦ ⟨ha.part hv, hb.part hw, hvw⟩,
        fun h ↦ h.mono fun v _ w _ hvw ↦ hvw.2.2⟩
    refine ⟨fun {v w} hv hw h ↦ ?_, fun {v w u} hv hw hu h h' ↦ ?_⟩
    · rcases Value.equals_cases h with
        rfl | ⟨x, y, rfl, rfl, hxy⟩ | ⟨number, a, other, b, rfl, rfl, hab⟩
      · exact h
      · exact Floating.equal_symm hxy
      · refine Value.equals_ref_iff.2 (hab.imp Eq.symm fun hequal ↦ ?_)
        rw [hrelated hv hw] at hequal
        rw [hrelated hw hv]
        exact hequal.symm fun v w hvw ↦ ⟨hvw.2.1, hvw.1, ih.symm hvw.1 hvw.2.1 hvw.2.2⟩
    · rcases Value.equals_cases h with
        rfl | ⟨x, y, rfl, rfl, hxy⟩ | ⟨number, a, other, b, rfl, rfl, hab⟩
      · exact h'
      · rcases Value.equals_cases h' with rfl | ⟨y', z, hy, rfl, hyz⟩ | ⟨_, _, _, _, hy, -⟩
        · exact h
        · cases hy
          exact Floating.equal_trans hxy hyz
        · cases hy
      · rcases Value.equals_cases h' with rfl | ⟨_, _, hb, -⟩ | ⟨other', b', last, c, hb, rfl, hbc⟩
        · exact h
        · cases hb
        · cases hb
          rcases hab with rfl | hab
          · obtain rfl := hv.1.object_eq hw.1
            exact h'
          · rcases hbc with rfl | hbc
            · obtain rfl := hw.1.object_eq hu.1
              exact h
            · refine Value.equals_ref_iff.2 (.inr ?_)
              rw [hrelated hv hw] at hab
              rw [hrelated hw hu] at hbc
              rw [hrelated hv hu]
              exact hab.trans (fun v w u hvw hwu ↦ ⟨hvw.1, hwu.2.1,
                ih.trans hvw.1 hvw.2.1 hwu.2.1 hvw.2.2 hwu.2.2⟩) hbc

/-- Equality of the values of a heap is a partial equivalence. -/
theorem isPartialEquivalenceOn_holds (heap : Heap) : IsPartialEquivalenceOn heap.Holds where
  symm {v w} hv hw h :=
    (heap.isPartialEquivalenceOn_holdsBelow (sizeOf v + sizeOf w + 1)).symm
      ⟨hv, by omega⟩ ⟨hw, by omega⟩ h
  trans {v w u} hv hw hu h h' :=
    (heap.isPartialEquivalenceOn_holdsBelow (sizeOf v + sizeOf w + sizeOf u + 1)).trans
      ⟨hv, by omega⟩ ⟨hw, by omega⟩ ⟨hu, by omega⟩ h h'

end Heap

end Exemplar
