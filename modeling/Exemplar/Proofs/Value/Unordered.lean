import Exemplar.Proofs.Value.Insertion
import Mathlib.Data.Fintype.Basic

/-!
Unordered collections are multisets up to equality. They are equal if and only if a bijection
between their positions pairs equal elements. Crossing out takes the first equal element for each
element and moves the last one into its place, so it follows no such bijection in particular, but
whenever there is one it comes to an end, in whatever order the elements are listed.
-/

set_option autoImplicit false
set_option relaxedAutoImplicit false

namespace Exemplar

/-! ### Matched multisets and matched positions -/

section Positions

variable {α β : Type} {R : α → β → Prop}

/-- Where nothing is listed twice, a matching is a function. -/
theorem exists_map_eq_of_rel [Nonempty β] {s : Multiset α} {t : Multiset β}
    (h : Multiset.Rel R s t) (hs : s.Nodup) : ∃ f : α → β, s.map f = t ∧ ∀ a ∈ s, R a (f a) := by
  classical
  induction h with
  | zero => exact ⟨fun _ ↦ Classical.arbitrary β, rfl, nofun⟩
  | @cons a b s t hab _ ih =>
    obtain ⟨hnew, hrest⟩ := Multiset.nodup_cons.1 hs
    obtain ⟨f, hmap, hrelated⟩ := ih hrest
    have hother (c : α) (hc : c ∈ s) : Function.update f a b c = f c :=
      Function.update_of_ne (ne_of_mem_of_not_mem hc hnew) b f
    refine ⟨Function.update f a b, ?_, fun c hc ↦ ?_⟩
    · rw [Multiset.map_cons, Function.update_self, Multiset.map_congr rfl hother, hmap]
    · rcases Multiset.mem_cons.1 hc with rfl | hc
      · rwa [Function.update_self]
      · rw [hother c hc]
        exact hrelated c hc

/-- A matching of all members of two finite types is a bijection. -/
theorem exists_equiv_of_rel [Fintype α] [Fintype β]
    (h : Multiset.Rel R (Finset.univ : Finset α).val (Finset.univ : Finset β).val) :
    ∃ σ : α ≃ β, ∀ a, R a (σ a) := by
  rcases isEmpty_or_nonempty β with hempty | hnonempty
  · have hnone : (Finset.univ : Finset β) = ∅ := Finset.univ_eq_empty
    rw [hnone, Finset.empty_val, Multiset.rel_zero_right] at h
    have : IsEmpty α := Finset.univ_eq_empty_iff.1 (Finset.val_eq_zero.1 h)
    exact ⟨Equiv.equivOfIsEmpty α β, fun a ↦ isEmptyElim a⟩
  · obtain ⟨f, hmap, hrelated⟩ := exists_map_eq_of_rel h Finset.univ.nodup
    exact ⟨Equiv.ofBijective f ((Multiset.bijective_iff_map_univ_eq_univ f).2 hmap),
      fun a ↦ hrelated a (Finset.mem_univ a)⟩

theorem coe_eq_map_get (as : List α) :
    (as : Multiset α) = (Finset.univ : Finset (Fin as.length)).val.map as.get := by
  rw [Fin.univ_val_map, List.ofFn_get]

/-- The elements of two lists can be matched if and only if a bijection between their positions
matches them. -/
theorem rel_iff_exists_equiv {as : List α} {bs : List β} :
    Multiset.Rel R (as : Multiset α) (bs : Multiset β) ↔
      ∃ σ : Fin as.length ≃ Fin bs.length, ∀ i : Fin as.length, R as[i] bs[σ i] := by
  rw [coe_eq_map_get as, coe_eq_map_get bs, Multiset.rel_map]
  constructor
  · exact exists_equiv_of_rel
  · rintro ⟨σ, hσ⟩
    rw [← Multiset.map_univ_val_equiv σ, Multiset.rel_map_right]
    exact Multiset.rel_refl_of_refl_on fun i _ ↦ hσ i

end Positions

/-! ### Crossing out -/

/-- A bijection between the positions of two lists pairs equal values. -/
def PairsUp (as bs : List Value) : Prop :=
  ∃ σ : Fin as.length ≃ Fin bs.length, ∀ i : Fin as.length, as[i].equal bs[σ i] = true

section CrossingOut

variable {heap : Heap} {as bs : List Value}

theorem pairsUp_iff_rel :
    PairsUp as bs ↔ Multiset.Rel Value.Equals (as : Multiset Value) (bs : Multiset Value) := by
  rw [rel_iff_exists_equiv]
  rfl

theorem PairsUp.length_eq (h : PairsUp as bs) : as.length = bs.length := by
  obtain ⟨σ, -⟩ := h
  exact Fin.equiv_iff_eq.1 ⟨σ⟩

/-- Whether two lists pair up is not a matter of their order. -/
theorem pairsUp_congr {as' bs' : List Value} (has : as.Perm as') (hbs : bs.Perm bs') :
    PairsUp as bs ↔ PairsUp as' bs' := by
  rw [pairsUp_iff_rel, pairsUp_iff_rel, Multiset.coe_eq_coe.2 has, Multiset.coe_eq_coe.2 hbs]

/-- Crossing out succeeds on lists of one length exactly if they pair up. -/
theorem equalCrossingOut_iff_pairsUp (has : ∀ a ∈ as, heap.Holds a) (hbs : ∀ b ∈ bs, heap.Holds b)
    (hlength : as.length = bs.length) : equalCrossingOut as bs = true ↔ PairsUp as bs := by
  rw [pairsUp_iff_rel]
  exact ⟨rel_of_equalCrossingOut hlength,
    equalCrossingOut_of_rel heap.isPartialEquivalenceOn_holds has hbs⟩

theorem Object.equal_unordered_iff (has : ∀ a ∈ as, heap.Holds a) (hbs : ∀ b ∈ bs, heap.Holds b)
    (container other : String) :
    (collection container false as).equal (collection other false bs) = true ↔
      container = other ∧ as.length = bs.length ∧ PairsUp as bs := by
  have hcrossed := equalCrossingOut_iff_pairsUp has hbs
  simp only [equal, Bool.and_eq_true, decide_eq_true_eq, Bool.false_eq_true, if_false, and_assoc,
    true_and]
  exact and_congr_right fun _ ↦ and_congr_right hcrossed

end CrossingOut

namespace Object

/-- Two unordered collections are equal if and only if they have the same name and the same length,
and a bijection between their positions pairs equal elements. If there is such a bijection then
crossing out succeeds, whichever side asks the other one, and in whatever order the elements of both
collections are listed. -/
theorem unordered_equal_iff_positions_pair_up (heap : Heap) (container other : String)
    (as bs : List Value) (has : ∀ a ∈ as, heap.Makes a) (hbs : ∀ b ∈ bs, heap.Makes b) :
    ((collection container false as).equal (collection other false bs) = true ↔
      container = other ∧ as.length = bs.length ∧ PairsUp as bs) ∧
    ∀ as' bs', as.Perm as' → bs.Perm bs' →
      (PairsUp as bs →
        equalCrossingOut as' bs' = true ∧ crossedOutByCandidates as' bs' = true) ∧
      (collection container false as').equal (collection other false bs') =
        (collection container false as).equal (collection other false bs) := by
  have hleft : ∀ a ∈ as, heap.Holds a := fun a ha ↦ (has a ha).holds
  have hright : ∀ b ∈ bs, heap.Holds b := fun b hb ↦ (hbs b hb).holds
  refine ⟨equal_unordered_iff hleft hright container other, fun as' bs' hperm hperm' ↦ ?_⟩
  have hleft' : ∀ a ∈ as', heap.Holds a := fun a ha ↦ hleft a (hperm.mem_iff.2 ha)
  have hright' : ∀ b ∈ bs', heap.Holds b := fun b hb ↦ hright b (hperm'.mem_iff.2 hb)
  have hpairs := pairsUp_congr hperm hperm'
  refine ⟨fun hpaired ↦ ?_, Bool.eq_iff_iff.2 ?_⟩
  · have hpaired' := hpairs.1 hpaired
    have hcrossed := (equalCrossingOut_iff_pairsUp hleft' hright' hpaired'.length_eq).2 hpaired'
    exact ⟨hcrossed, equalCrossingOut_eq_crossedOutByCandidates hleft' hright' ▸ hcrossed⟩
  · rw [equal_unordered_iff hleft' hright', equal_unordered_iff hleft hright, ← hpairs,
      hperm.length_eq, hperm'.length_eq]

end Object

/-! ### A set of sets, maps and a list that does not equal its copy -/

namespace SharedList

/-- The elements of a set: a set, the list itself and a map to it. -/
def elements : List Value :=
  [first, list, mapFrom 1 zero]

/-- Other elements, none of which has the place of an equal one. -/
def otherElements : List Value :=
  [mapFrom 2 negativeZero, second, list]

theorem makes_elements : ∀ v ∈ elements, heap.Makes v :=
  List.forall_mem_cons.2 ⟨makes_first,
    List.forall_mem_cons.2 ⟨makes_list, List.forall_mem_singleton.2 (makes_mapFrom rfl rfl)⟩⟩

theorem makes_otherElements : ∀ v ∈ otherElements, heap.Makes v :=
  List.forall_mem_cons.2 ⟨makes_mapFrom rfl rfl,
    List.forall_mem_cons.2 ⟨makes_second, List.forall_mem_singleton.2 makes_list⟩⟩

end SharedList

namespace Object

/-- The two sets are equal, so some bijection pairs their elements, and the elements of the one are
crossed out by those of the other in the opposite order too. -/
theorem unordered_equal_for_shared_list :
    (∀ v ∈ SharedList.elements, SharedList.heap.Makes v) ∧
    (∀ v ∈ SharedList.otherElements, SharedList.heap.Makes v) ∧
    PairsUp SharedList.elements SharedList.otherElements ∧
    equalCrossingOut SharedList.elements SharedList.otherElements.reverse = true := by
  obtain ⟨hequal, horders⟩ := unordered_equal_iff_positions_pair_up SharedList.heap "S" "S"
    SharedList.elements SharedList.otherElements SharedList.makes_elements
    SharedList.makes_otherElements
  obtain ⟨-, -, hpaired⟩ := hequal.1 (by decide)
  obtain ⟨hcrossed, -⟩ := horders SharedList.elements SharedList.otherElements.reverse (.refl _)
    (List.reverse_perm _).symm
  exact ⟨SharedList.makes_elements, SharedList.makes_otherElements, hpaired, (hcrossed hpaired).1⟩

end Object

end Exemplar
