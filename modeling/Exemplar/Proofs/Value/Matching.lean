import Exemplar.Proofs.Value.Parts
import Mathlib.Data.List.Forall2
import Mathlib.Data.Multiset.ZeroCons

/-!
Equality of objects in terms of their parts. Crossing out finds a one-to-one matching of equal
elements whenever there is one, although it takes the first equal element each time, because equal
elements can take each other's place. Looking up keys does the same for the entries of maps. What is
needed for both is that equality of the parts is symmetric and transitive.
-/

set_option autoImplicit false
set_option relaxedAutoImplicit false

namespace Exemplar

/-! ### Crossing out -/

theorem perm_swapRemove {α : Type} {items : List α} {index : Nat} (hindex : index < items.length) :
    items.Perm (items[index] :: swapRemove items index) := by
  have hne : items ≠ [] := List.ne_nil_of_length_pos (Nat.zero_lt_of_lt hindex)
  obtain ⟨init, last, rfl⟩ : ∃ init last, items = init ++ [last] :=
    ⟨_, _, (List.dropLast_concat_getLast hne).symm⟩
  simp only [swapRemove, List.getLast?_concat]
  rw [List.length_append, List.length_singleton] at hindex
  rcases Nat.lt_or_ge index init.length with hinit | hinit
  · rw [List.set_append_left _ _ hinit, List.dropLast_concat, List.getElem_append_left hinit]
    calc (init ++ [last]).Perm (last :: init) := List.perm_append_singleton last init
      _ |>.Perm (last :: init[index] :: init.eraseIdx index) :=
        (List.getElem_cons_eraseIdx_perm hinit).symm.cons last
      _ |>.Perm (init[index] :: last :: init.eraseIdx index) := List.Perm.swap _ _ _
      _ |>.Perm (init[index] :: init.set index last) :=
        (List.set_perm_cons_eraseIdx hinit last).symm.cons _
  · obtain rfl : index = init.length := by omega
    rw [List.set_append_right _ _ (Nat.le_refl _), Nat.sub_self, List.set_cons_zero,
      List.dropLast_concat, List.getElem_concat_length]
    · exact List.perm_append_singleton last init
    · rfl

theorem coe_eq_cons_swapRemove {α : Type} {items : List α} {index : Nat}
    (hindex : index < items.length) :
    (items : Multiset α) = items[index] ::ₘ (swapRemove items index : Multiset α) := by
  rw [Multiset.cons_coe]
  exact Multiset.coe_eq_coe.2 (perm_swapRemove hindex)

theorem length_swapRemove {α : Type} {items : List α} {index : Nat}
    (hindex : index < items.length) : (swapRemove items index).length + 1 = items.length := by
  simpa using (perm_swapRemove hindex).length_eq.symm

/-- Two values are equal. -/
def Value.Equals (v w : Value) : Prop :=
  v.equal w = true

/-- Two entries are related if their keys and their values are. -/
def OnEntries (R : Value → Value → Prop) (entry other : Value × Value) : Prop :=
  R entry.1 other.1 ∧ R entry.2 other.2

/-- Two fields are related if they have the same name and their values are related. -/
def OnFields (R : Value → Value → Prop) (field other : String × Value) : Prop :=
  field.1 = other.1 ∧ R field.2 other.2

/-- A symmetric and transitive relation of the values with a property. Values without the property
are left alone. -/
structure IsPartialEquivalenceOn (P : Value → Prop) : Prop where
  symm : ∀ {v w}, P v → P w → v.Equals w → w.Equals v
  trans : ∀ {v w u}, P v → P w → P u → v.Equals w → w.Equals u → v.Equals u

variable {P : Value → Prop}

/-- What is crossed out is matched. -/
theorem rel_of_equalCrossingOut {as bs : List Value} (hlength : as.length = bs.length)
    (hequal : equalCrossingOut as bs = true) :
    Multiset.Rel Value.Equals (as : Multiset Value) (bs : Multiset Value) := by
  induction as generalizing bs with
  | nil =>
    cases List.length_eq_zero_iff.1 hlength.symm
    exact .zero
  | cons a as ih =>
    unfold equalCrossingOut at hequal
    split at hequal
    · cases hequal
    · rename_i index hfound
      obtain ⟨hindex, hmatch, -⟩ := List.findIdx?_eq_some_iff_getElem.1 hfound
      have hrest := length_swapRemove hindex
      rw [coe_eq_cons_swapRemove hindex, ← Multiset.cons_coe]
      exact .cons hmatch (ih (by simp only [List.length_cons] at hlength; omega) hequal)

/-- Whatever can be matched is crossed out. If the first equal element is not the matched one, the
one that is matched with it takes the matched one instead. -/
theorem equalCrossingOut_of_rel (hP : IsPartialEquivalenceOn P) {as bs : List Value}
    (has : ∀ a ∈ as, P a) (hbs : ∀ b ∈ bs, P b)
    (hrel : Multiset.Rel Value.Equals (as : Multiset Value) (bs : Multiset Value)) :
    equalCrossingOut as bs = true := by
  induction as generalizing bs with
  | nil => rfl
  | cons a as ih =>
    rw [← Multiset.cons_coe, Multiset.rel_cons_left] at hrel
    obtain ⟨b, others, hab, hothers, hsplit⟩ := hrel
    have hmem : b ∈ bs := by
      rw [← Multiset.mem_coe, hsplit]
      exact Multiset.mem_cons_self b others
    unfold equalCrossingOut
    cases hfound : bs.findIdx? a.equal with
    | none =>
      exact absurd hab (by simpa [Value.Equals] using List.findIdx?_eq_none_iff.1 hfound b hmem)
    | some index =>
      obtain ⟨hindex, hac, -⟩ := List.findIdx?_eq_some_iff_getElem.1 hfound
      have hrest := coe_eq_cons_swapRemove hindex
      have hsubset : ∀ c ∈ swapRemove bs index, P c := fun c hc ↦
        hbs c ((perm_swapRemove hindex).mem_iff.2 (List.mem_cons_of_mem _ hc))
      refine ih (fun a' ha' ↦ has a' (List.mem_cons_of_mem a ha')) hsubset ?_
      rw [hsplit] at hrest
      rcases Multiset.cons_eq_cons.1 hrest with ⟨-, hsame⟩ | ⟨-, cs, hothers', hrest'⟩
      · rwa [hsame] at hothers
      · rw [hothers', Multiset.rel_cons_right] at hothers
        obtain ⟨a', as', ha'c, hleft, hsplit'⟩ := hothers
        have ha' : P a' := has a' (List.mem_cons_of_mem a (by
          rw [← Multiset.mem_coe, hsplit']
          exact Multiset.mem_cons_self a' as'))
        have ha : P a := has a List.mem_cons_self
        have hc : P bs[index] := hbs _ (List.getElem_mem hindex)
        rw [hrest', hsplit']
        exact .cons (hP.trans ha' ha (hbs b hmem)
          (hP.trans ha' hc ha ha'c (hP.symm ha hc hac)) hab) hleft

/-! ### Looking up keys -/

theorem entryFoundIn_iff {a : Value × Value} {bs : List (Value × Value)} :
    entryFoundIn a bs = true ↔ ∃ before b after, bs = before ++ b :: after ∧
      (∀ c ∈ before, a.1.equal c.1 = false) ∧ OnEntries Value.Equals a b := by
  obtain ⟨key, value⟩ := a
  simp only [entryFoundIn, OnEntries, Value.Equals]
  constructor
  · intro h
    split at h
    · cases h
    · rename_i b hfind
      obtain ⟨hkey, before, after, hsplit, hbefore⟩ := List.find?_eq_some_iff_append.1 hfind
      exact ⟨before, b, after, hsplit, by simpa using hbefore, hkey, h⟩
  · rintro ⟨before, b, after, hsplit, hbefore, hkey, hvalue⟩
    have hfind : bs.find? (fun entry ↦ key.equal entry.1) = some b :=
      List.find?_eq_some_iff_append.2 ⟨hkey, before, after, hsplit, by simpa using hbefore⟩
    rw [hfind]
    exact hvalue

theorem foundIn_iff {as bs : List (Value × Value)} :
    foundIn as bs = true ↔ ∀ a ∈ as, entryFoundIn a bs = true := by
  induction as with
  | nil => simp [foundIn]
  | cons a as ih => simp [foundIn, ih]

theorem entryFoundIn_append_cons {a b : Value × Value} {before after : List (Value × Value)}
    (hkey : a.1.equal b.1 = false) :
    entryFoundIn a (before ++ b :: after) = entryFoundIn a (before ++ after) := by
  obtain ⟨key, value⟩ := a
  simp [entryFoundIn, List.find?_append, hkey]

/-- Entries that are found are matched, if no two of them have equal keys: then no two of them find
the same one. -/
theorem rel_of_foundIn (hP : IsPartialEquivalenceOn P) {as bs : List (Value × Value)}
    (has : ∀ a ∈ as, P a.1) (hbs : ∀ b ∈ bs, P b.1)
    (hkeys : as.Pairwise fun entry later ↦ entry.1.equal later.1 = false)
    (hlength : as.length = bs.length) (hfound : foundIn as bs = true) :
    Multiset.Rel (OnEntries Value.Equals) (as : Multiset _) (bs : Multiset _) := by
  induction as generalizing bs with
  | nil =>
    cases List.length_eq_zero_iff.1 hlength.symm
    exact .zero
  | cons a as ih =>
    rw [foundIn_iff] at hfound
    obtain ⟨before, b, after, rfl, -, hab⟩ := entryFoundIn_iff.1 (hfound a List.mem_cons_self)
    obtain ⟨hfirst, hothers⟩ := List.pairwise_cons.1 hkeys
    have hrest : ∀ c ∈ before ++ after, P c.1 := fun c hc ↦ hbs c (by
      rcases List.mem_append.1 hc with hc | hc <;> simp [hc])
    have hmatched : Multiset.Rel (OnEntries Value.Equals) (as : Multiset _)
        ((before ++ after : List _) : Multiset _) := by
      refine ih (fun c hc ↦ has c (List.mem_cons_of_mem a hc)) hrest hothers ?_
        (foundIn_iff.2 fun c hc ↦ ?_)
      · simp only [List.length_cons, List.length_append] at hlength ⊢
        omega
      · have hother : c.1.equal b.1 = false := by
          refine Bool.eq_false_iff.2 fun hcb ↦ ?_
          have hac : a.1.Equals c.1 := hP.trans (has a List.mem_cons_self) (hbs b (by simp))
            (has c (List.mem_cons_of_mem a hc)) hab.1
            (hP.symm (has c (List.mem_cons_of_mem a hc)) (hbs b (by simp)) hcb)
          rw [Value.Equals, hfirst c hc] at hac
          cases hac
        rw [← entryFoundIn_append_cons hother]
        exact hfound c (List.mem_cons_of_mem a hc)
    have hsplit : ((before ++ b :: after : List _) : Multiset (Value × Value)) =
        b ::ₘ ((before ++ after : List _) : Multiset _) := by
      rw [Multiset.cons_coe]
      exact Multiset.coe_eq_coe.2 List.perm_middle
    rw [hsplit, ← Multiset.cons_coe]
    exact .cons hab hmatched

/-- Entries that are matched are found, if no two of the others have equal keys: then the matched
one is the first one with an equal key. -/
theorem foundIn_of_rel (hP : IsPartialEquivalenceOn P) {as bs : List (Value × Value)}
    (has : ∀ a ∈ as, P a.1) (hbs : ∀ b ∈ bs, P b.1)
    (hkeys : bs.Pairwise fun entry later ↦ entry.1.equal later.1 = false)
    (hrel : Multiset.Rel (OnEntries Value.Equals) (as : Multiset _) (bs : Multiset _)) :
    foundIn as bs = true := by
  refine foundIn_iff.2 fun a ha ↦ entryFoundIn_iff.2 ?_
  obtain ⟨b, hb, hab⟩ := Multiset.exists_mem_of_rel_of_mem hrel (Multiset.mem_coe.2 ha)
  obtain ⟨before, after, rfl⟩ := List.append_of_mem (Multiset.mem_coe.1 hb)
  refine ⟨before, b, after, rfl, fun c hc ↦ Bool.eq_false_iff.2 fun hac ↦ ?_, hab⟩
  have hPc : P c.1 := hbs c (by simp [hc])
  have hPb : P b.1 := hbs b (by simp)
  have hcb : c.1.Equals b.1 :=
    hP.trans hPc (has a ha) hPb (hP.symm (has a ha) hPc hac) hab.1
  rw [Value.Equals, (List.pairwise_append.1 hkeys).2.2 c hc b List.mem_cons_self] at hcb
  cases hcb

/-! ### Objects -/

theorem equalInOrder_iff {as bs : List Value} :
    equalInOrder as bs = true ↔ List.Forall₂ Value.Equals as bs := by
  induction as generalizing bs with
  | nil => cases bs <;> simp [equalInOrder]
  | cons a as ih => cases bs <;> simp [equalInOrder, ih, Value.Equals]

theorem equalFields_iff {as bs : List (String × Value)} :
    equalFields as bs = true ↔ List.Forall₂ (OnFields Value.Equals) as bs := by
  induction as generalizing bs with
  | nil => cases bs <;> simp [equalFields]
  | cons a as ih =>
    cases bs with
    | nil => simp [equalFields]
    | cons b bs =>
      obtain ⟨name, value⟩ := a
      obtain ⟨other, otherValue⟩ := b
      simp [equalFields, equalField, ih, OnFields, Value.Equals]

theorem forall₂_mono {α : Type} {R Q : α → α → Prop} {as bs : List α} (h : List.Forall₂ R as bs)
    (himp : ∀ a ∈ as, ∀ b ∈ bs, R a b → Q a b) : List.Forall₂ Q as bs := by
  induction h with
  | nil => exact .nil
  | @cons a b as bs hab _ ih =>
    exact .cons (himp a List.mem_cons_self b List.mem_cons_self hab)
      (ih fun a' ha' b' hb' ↦ himp a' (List.mem_cons_of_mem a ha') b' (List.mem_cons_of_mem b hb'))

theorem forall₂_trans {α : Type} {R : α → α → Prop} (htrans : ∀ a b c, R a b → R b c → R a c)
    {as bs cs : List α} (h : List.Forall₂ R as bs) (h' : List.Forall₂ R bs cs) :
    List.Forall₂ R as cs := by
  induction h generalizing cs with
  | nil => exact h'
  | cons hab _ ih =>
    cases h' with
    | cons hbc hrest => exact .cons (htrans _ _ _ hab hbc) (ih hrest)

namespace Object

/-- Objects of the same kind and name whose parts are related: in order, by name, or by some
matching. -/
inductive Related (R : Value → Value → Prop) : Object → Object → Prop
  | text (content : String) : Related R (.text content) (.text content)
  | marker (label : String) : Related R (.marker label) (.marker label)
  | enumConstant (enumeration name : String) :
    Related R (.enumConstant enumeration name) (.enumConstant enumeration name)
  | inOrder (container : String) {as bs : List Value} (hparts : List.Forall₂ R as bs) :
    Related R (.collection container true as) (.collection container true bs)
  | inAnyOrder (container : String) {as bs : List Value}
    (hparts : Multiset.Rel R (as : Multiset Value) (bs : Multiset Value)) :
    Related R (.collection container false as) (.collection container false bs)
  | map (container : String) {as bs : List (Value × Value)}
    (hparts : Multiset.Rel (OnEntries R) (as : Multiset _) (bs : Multiset _)) :
    Related R (.map container as) (.map container bs)
  | record (d : Descriptor) {as bs : List (String × Value)}
    (hparts : List.Forall₂ (OnFields R) as bs) : Related R (.record d as) (.record d bs)

variable {R Q : Value → Value → Prop} {a b c : Object}

theorem Related.mono (h : Related R a b)
    (himp : ∀ v ∈ a.parts, ∀ w ∈ b.parts, R v w → Q v w) : Related Q a b := by
  cases h with
  | text content => exact .text content
  | marker label => exact .marker label
  | enumConstant enumeration name => exact .enumConstant enumeration name
  | inOrder container hparts => exact .inOrder container (forall₂_mono hparts himp)
  | inAnyOrder container hparts => exact .inAnyOrder container (hparts.mono himp)
  | map container hparts =>
    exact .map container (hparts.mono fun x hx y hy hxy ↦
      ⟨himp _ (key_mem_parts hx) _ (key_mem_parts hy) hxy.1,
        himp _ (value_mem_parts hx) _ (value_mem_parts hy) hxy.2⟩)
  | record d hparts =>
    exact .record d (forall₂_mono hparts fun x hx y hy hxy ↦
      ⟨hxy.1, himp _ (field_mem_parts hx) _ (field_mem_parts hy) hxy.2⟩)

theorem Related.symm (hsymm : ∀ v w, R v w → R w v) (h : Related R a b) : Related R b a := by
  cases h with
  | text content => exact .text content
  | marker label => exact .marker label
  | enumConstant enumeration name => exact .enumConstant enumeration name
  | inOrder container hparts => exact .inOrder container (hparts.flip.imp fun v w ↦ hsymm w v)
  | inAnyOrder container hparts =>
    exact .inAnyOrder container ((Multiset.rel_flip.2 hparts).mono fun v _ w _ ↦ hsymm w v)
  | map container hparts =>
    exact .map container ((Multiset.rel_flip.2 hparts).mono fun x _ y _ hxy ↦
      ⟨hsymm _ _ hxy.1, hsymm _ _ hxy.2⟩)
  | record d hparts =>
    exact .record d (hparts.flip.imp fun x y hxy ↦ ⟨hxy.1.symm, hsymm _ _ hxy.2⟩)

theorem Related.trans (htrans : ∀ v w u, R v w → R w u → R v u) (h : Related R a b)
    (h' : Related R b c) : Related R a c := by
  have : IsTrans Value R := ⟨htrans⟩
  have : IsTrans (Value × Value) (OnEntries R) :=
    ⟨fun x y z hxy hyz ↦ ⟨htrans _ _ _ hxy.1 hyz.1, htrans _ _ _ hxy.2 hyz.2⟩⟩
  cases h with
  | text content => exact h'
  | marker label => exact h'
  | enumConstant enumeration name => exact h'
  | inOrder container hparts =>
    cases h' with
    | inOrder _ hparts' => exact .inOrder container (forall₂_trans htrans hparts hparts')
  | inAnyOrder container hparts =>
    cases h' with
    | inAnyOrder _ hparts' => exact .inAnyOrder container (hparts.trans R hparts')
  | map container hparts =>
    cases h' with
    | map _ hparts' => exact .map container (hparts.trans (OnEntries R) hparts')
  | record d hparts =>
    cases h' with
    | record _ hparts' =>
      exact .record d (forall₂_trans
        (fun x y z hxy hyz ↦ ⟨hxy.1.trans hyz.1, htrans _ _ _ hxy.2 hyz.2⟩) hparts hparts')

/-- Equal objects are related by the equality of their parts. -/
theorem related_of_equal (hP : IsPartialEquivalenceOn P) (ha : ∀ v ∈ a.parts, P v)
    (hb : ∀ v ∈ b.parts, P v) (hkeys : a.KeysDiffer) (hequal : a.equal b = true) :
    Related Value.Equals a b := by
  cases a with
  | text content =>
    cases b with
    | text other =>
      obtain rfl : content = other := of_decide_eq_true hequal
      exact .text content
    | _ => cases hequal
  | marker label =>
    cases b with
    | marker other =>
      obtain rfl : label = other := of_decide_eq_true hequal
      exact .marker label
    | _ => cases hequal
  | enumConstant enumeration name =>
    cases b with
    | enumConstant other otherName =>
      simp only [Object.equal, Bool.and_eq_true, decide_eq_true_eq] at hequal
      obtain ⟨rfl, rfl⟩ := hequal
      exact .enumConstant enumeration name
    | _ => cases hequal
  | collection container ordered as =>
    cases b with
    | collection other otherOrdered bs =>
      simp only [Object.equal, Bool.and_eq_true, decide_eq_true_eq] at hequal
      obtain ⟨⟨⟨rfl, rfl⟩, hlength⟩, hparts⟩ := hequal
      cases ordered with
      | true => exact .inOrder container (equalInOrder_iff.1 hparts)
      | false => exact .inAnyOrder container (rel_of_equalCrossingOut hlength hparts)
    | _ => cases hequal
  | map container as =>
    cases b with
    | map other bs =>
      simp only [Object.equal, Bool.and_eq_true, decide_eq_true_eq] at hequal
      obtain ⟨⟨rfl, hlength⟩, hparts⟩ := hequal
      exact .map container (rel_of_foundIn hP (fun x hx ↦ ha _ (key_mem_parts hx))
        (fun x hx ↦ hb _ (key_mem_parts hx)) hkeys hlength hparts)
    | _ => cases hequal
  | record d as =>
    cases b with
    | record e bs =>
      simp only [Object.equal, Bool.and_eq_true, decide_eq_true_eq] at hequal
      obtain ⟨rfl, hparts⟩ := hequal
      exact .record d (equalFields_iff.1 hparts)
    | _ => cases hequal
  | hollow d => cases b <;> cases hequal

/-- Objects whose parts are related by equality are equal. -/
theorem equal_of_related (hP : IsPartialEquivalenceOn P) (ha : ∀ v ∈ a.parts, P v)
    (hb : ∀ v ∈ b.parts, P v) (hkeys : b.KeysDiffer) (h : Related Value.Equals a b) :
    a.equal b = true := by
  cases h with
  | text content => simp [Object.equal]
  | marker label => simp [Object.equal]
  | enumConstant enumeration name => simp [Object.equal]
  | inOrder container hparts =>
    simp [Object.equal, hparts.length_eq, equalInOrder_iff.2 hparts]
  | @inAnyOrder container as bs hparts =>
    have hlength : as.length = bs.length := by simpa using Multiset.card_eq_card_of_rel hparts
    have hcrossed : equalCrossingOut as bs = true := equalCrossingOut_of_rel hP ha hb hparts
    simp [Object.equal, hlength, hcrossed]
  | @map container as bs hparts =>
    have hlength : as.length = bs.length := by simpa using Multiset.card_eq_card_of_rel hparts
    have hfound : foundIn as bs = true := foundIn_of_rel hP (fun x hx ↦ ha _ (key_mem_parts hx))
      (fun x hx ↦ hb _ (key_mem_parts hx)) hkeys hparts
    simp [Object.equal, hlength, hfound]
  | record d hparts => simp [Object.equal, equalFields_iff.2 hparts]

end Object

end Exemplar
