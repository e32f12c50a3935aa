import Exemplar.Proofs.Value.Insertion
import Mathlib.Data.Fintype.Card

/-!
A map filled by insertion is a finite map whose keys are taken up to equality. Looking up a key
yields the value of the last insertion of an equal key, while the key that is kept is the one that
was inserted first. Maps of keys that equal themselves are therefore equal if and only if they
answer every lookup equally. The comparison of two maps runs over the entries of one side only; that
it leaves out none of the other is a matter of counting, since keys of one side that differ have
equal keys on the other side that differ too.
-/

set_option autoImplicit false
set_option relaxedAutoImplicit false

namespace Exemplar

theorem Value.not_equal_self_of_isNaN {x : Floating} (hx : x.isNaN = true) :
    (floating x).equal (.floating x) = false := by
  refine Bool.eq_false_iff.2 fun hequal ↦ ?_
  have hnumber := (equal_self_iff _).1 hequal x rfl
  rw [hx] at hnumber
  cases hnumber

namespace Heap

variable {heap : Heap} {v w u : Value}

/-- Values that one value equals are equal. -/
theorem equal_of_left (hu : heap.Holds u) (hv : heap.Holds v) (hw : heap.Holds w)
    (huv : u.equal v = true) (huw : u.equal w = true) : v.equal w = true := by
  have hP := heap.isPartialEquivalenceOn_holds
  exact hP.trans hv hu hw (hP.symm hu hv huv) huw

/-- Values that equal one value are equal. -/
theorem equal_of_right (hu : heap.Holds u) (hv : heap.Holds v) (hw : heap.Holds w)
    (hvu : v.equal u = true) (hwu : w.equal u = true) : v.equal w = true := by
  have hP := heap.isPartialEquivalenceOn_holds
  exact hP.trans hv hu hw hvu (hP.symm hw hu hwu)

end Heap

/-- There are at least as many partners as members if each member has a partner and no two of them
share one. -/
theorem length_le_of_partners {α β : Type} {R : α → β → Prop} {as : List α} {bs : List β}
    (hpartner : ∀ a ∈ as, ∃ b ∈ bs, R a b)
    (hshared : as.Pairwise fun a later ↦ ∀ b ∈ bs, R a b → ¬R later b) :
    as.length ≤ bs.length := by
  have hplace (i : Fin as.length) : ∃ j : Fin bs.length, R as[i] bs[j] := by
    obtain ⟨b, hb, hrelated⟩ := hpartner as[i] (List.getElem_mem i.2)
    obtain ⟨j, hj, rfl⟩ := List.getElem_of_mem hb
    exact ⟨⟨j, hj⟩, hrelated⟩
  choose place hplace using hplace
  have hlater (i j : Fin as.length) (hlt : i < j) : place i ≠ place j := by
    intro hsame
    have hj := hplace j
    rw [← hsame] at hj
    exact List.pairwise_iff_getElem.1 hshared i j i.2 j.2 hlt bs[place i]
      (List.getElem_mem (place i).2) (hplace i) hj
  have hinjective : Function.Injective place := by
    intro i j hsame
    by_contra hne
    rcases lt_or_gt_of_ne hne with hlt | hlt
    · exact hlater i j hlt hsame
    · exact hlater j i hlt hsame.symm
  simpa using Fintype.card_le_of_injective place hinjective

namespace Mapping

variable {heap : Heap} {key value : Value} {entries inserted : List (Value × Value)}

/-- The keys, in the order of the entries. -/
def keys (mapping : Mapping) : List Value :=
  mapping.entries.map Prod.fst

/-- The listed keys that no earlier one equals, neither one listed here nor one given as earlier. -/
def newKeys (earlier : List Value) : List Value → List Value
  | [] => []
  | key :: keys =>
    if earlier.any fun found ↦ found.equal key then newKeys (earlier ++ [key]) keys
    else key :: newKeys (earlier ++ [key]) keys

/-- The value of the last insertion of an equal key. -/
def lastInserted? (inserted : List (Value × Value)) (key : Value) : Option Value :=
  (inserted.reverse.find? fun entry ↦ entry.1.equal key).map Prod.snd

/-- A key is absent from both maps, or both have it and their values are equal. -/
def AgreeAt (mapping other : Mapping) (key : Value) : Prop :=
  (mapping.get? key = none ∧ other.get? key = none) ∨
    ∃ value found, mapping.get? key = some value ∧ other.get? key = some found ∧
      value.equal found = true

/-! ### One insertion -/

/-- Looking up a key after an insertion yields the inserted value if the inserted key equals it, and
what it yielded before otherwise. -/
theorem get?_insert {mapping : Mapping} (hkeys : ∀ entry ∈ mapping.entries, heap.Holds entry.1)
    {sought : Value} (hkey : heap.Holds key) (hsought : heap.Holds sought) :
    (mapping.insert key value).get? sought =
      if key.equal sought then some value else mapping.get? sought := by
  obtain ⟨container, entries⟩ := mapping
  simp only [get?, insert] at hkeys ⊢
  induction entries with
  | nil => by_cases hequal : key.equal sought <;> simp [put, hequal]
  | cons first entries ih =>
    have hfirst : heap.Holds first.1 := hkeys first List.mem_cons_self
    unfold put
    by_cases hreplaced : first.1.equal key = true
    · -- The first key stays and gets the value, which is right because it finds what the inserted
      -- key would find.
      have hsame : first.1.equal sought = key.equal sought := Bool.eq_iff_iff.2
        ⟨heap.equal_of_left hfirst hkey hsought hreplaced,
          heap.isPartialEquivalenceOn_holds.trans hfirst hkey hsought hreplaced⟩
      by_cases hequal : key.equal sought <;> simp [hreplaced, hsame, hequal]
    · rw [if_neg hreplaced]
      by_cases hfound : first.1.equal sought = true
      · have hother : ¬key.equal sought = true := fun hequal ↦
          hreplaced (heap.equal_of_right hsought hfirst hkey hfound hequal)
        simp [hfound, hother]
      · simpa [hfound] using ih fun entry hentry ↦ hkeys entry (List.mem_cons_of_mem first hentry)

theorem map_fst_put (key value : Value) (entries : List (Value × Value)) :
    (put key value entries).map Prod.fst = entries.map Prod.fst ++
      if (entries.map Prod.fst).any fun found ↦ found.equal key then [] else [key] := by
  induction entries with
  | nil => rfl
  | cons first entries ih =>
    unfold put
    by_cases hreplaced : first.1.equal key = true
    · simp [hreplaced]
    · have hsame : ((first :: entries).map Prod.fst).any (fun found ↦ found.equal key) =
          (entries.map Prod.fst).any fun found ↦ found.equal key := by simp [hreplaced]
      rw [if_neg hreplaced, hsame, List.map_cons, ih, List.map_cons, List.cons_append]

/-- An insertion keeps the keys, and adds its own one unless there is an equal one. -/
theorem keys_insert (mapping : Mapping) (key value : Value) :
    (mapping.insert key value).keys =
      mapping.keys ++ if mapping.keys.any fun found ↦ found.equal key then [] else [key] :=
  map_fst_put key value mapping.entries

/-- What holds of all keys and values still does after an insertion of two for which it does. -/
theorem forall_mem_put {P : Value → Prop} (hkey : P key) (hvalue : P value)
    (hentries : ∀ entry ∈ entries, P entry.1 ∧ P entry.2) :
    ∀ entry ∈ put key value entries, P entry.1 ∧ P entry.2 := by
  induction entries with
  | nil => exact List.forall_mem_singleton.2 ⟨hkey, hvalue⟩
  | cons first entries ih =>
    obtain ⟨hfirst, hothers⟩ := List.forall_mem_cons.1 hentries
    unfold put
    split
    · exact List.forall_mem_cons.2 ⟨⟨hfirst.1, hvalue⟩, hothers⟩
    · exact List.forall_mem_cons.2 ⟨hfirst, ih hothers⟩

/-- No entry is replaced by an insertion of a key that differs from all keys. -/
theorem put_of_differs (hdiffers : ∀ entry ∈ entries, entry.1.equal key = false) :
    put key value entries = entries ++ [(key, value)] := by
  induction entries with
  | nil => rfl
  | cons first entries ih =>
    obtain ⟨hfirst, hothers⟩ := List.forall_mem_cons.1 hdiffers
    rw [put, hfirst, ih hothers]
    rfl

/-! ### All insertions -/

theorem ofList_concat (container : String) (inserted : List (Value × Value))
    (entry : Value × Value) :
    ofList container (inserted ++ [entry]) =
      (ofList container inserted).insert entry.1 entry.2 := by
  rw [ofList, List.foldl_concat]
  rfl

@[simp] theorem container_ofList (container : String) (inserted : List (Value × Value)) :
    (ofList container inserted).container = container := by
  induction inserted using List.reverseRecOn with
  | nil => rfl
  | append_singleton inserted entry ih => rwa [ofList_concat]

/-- What holds of all inserted keys and values holds of those of the map. -/
theorem forall_mem_ofList {P : Value → Prop} (container : String)
    (h : ∀ entry ∈ inserted, P entry.1 ∧ P entry.2) :
    ∀ entry ∈ (ofList container inserted).entries, P entry.1 ∧ P entry.2 := by
  induction inserted using List.reverseRecOn with
  | nil => exact nofun
  | append_singleton inserted entry ih =>
    obtain ⟨hothers, hentry⟩ := List.forall_mem_append.1 h
    obtain ⟨hkey, hvalue⟩ := List.forall_mem_singleton.1 hentry
    rw [ofList_concat]
    exact forall_mem_put hkey hvalue (ih hothers)

theorem makes_of_mem_keys (container : String)
    (hinserted : ∀ entry ∈ inserted, heap.Makes entry.1 ∧ heap.Makes entry.2) :
    ∀ key ∈ (ofList container inserted).keys, heap.Makes key := by
  intro key hkey
  obtain ⟨entry, hentry, rfl⟩ := List.mem_map.1 hkey
  exact (forall_mem_ofList container hinserted entry hentry).1

/-- Inserting the entries of a map yields its entries. -/
theorem ofList_of_keysDiffer (container : String)
    (hkeys : entries.Pairwise fun entry later ↦ entry.1.equal later.1 = false) :
    ofList container entries = ⟨container, entries⟩ := by
  induction entries using List.reverseRecOn with
  | nil => rfl
  | append_singleton entries entry ih =>
    obtain ⟨hothers, -, hlast⟩ := List.pairwise_append.1 hkeys
    have hnew : ∀ earlier ∈ entries, earlier.1.equal entry.1 = false := fun earlier hearlier ↦
      hlast earlier hearlier entry (List.mem_singleton_self entry)
    rw [ofList_concat, ih hothers, insert, put_of_differs hnew]

theorem lastInserted?_concat (inserted : List (Value × Value)) (entry : Value × Value)
    (key : Value) :
    lastInserted? (inserted ++ [entry]) key =
      if entry.1.equal key then some entry.2 else lastInserted? inserted key := by
  by_cases hequal : entry.1.equal key <;> simp [lastInserted?, hequal]

/-- A lookup yields the value of the last insertion of an equal key. -/
theorem get?_ofList (container : String)
    (hinserted : ∀ entry ∈ inserted, heap.Holds entry.1 ∧ heap.Holds entry.2)
    (hkey : heap.Holds key) :
    (ofList container inserted).get? key = lastInserted? inserted key := by
  induction inserted using List.reverseRecOn with
  | nil => rfl
  | append_singleton inserted entry ih =>
    obtain ⟨hothers, hlast⟩ := List.forall_mem_append.1 hinserted
    rw [ofList_concat, lastInserted?_concat, ← ih hothers]
    exact get?_insert (fun found hfound ↦ (forall_mem_ofList container hothers found hfound).1)
      (hlast entry (List.mem_singleton_self entry)).1 hkey

theorem isSome_get? (mapping : Mapping) (key : Value) :
    (mapping.get? key).isSome = mapping.keys.any fun found ↦ found.equal key := by
  rw [get?, keys, Option.isSome_map, List.isSome_find?, List.any_map]
  rfl

theorem isSome_lastInserted? (inserted : List (Value × Value)) (key : Value) :
    (lastInserted? inserted key).isSome =
      (inserted.map Prod.fst).any fun found ↦ found.equal key := by
  rw [lastInserted?, Option.isSome_map, List.isSome_find?, List.any_reverse, List.any_map]
  rfl

theorem newKeys_concat (earlier keys : List Value) (key : Value) :
    newKeys earlier (keys ++ [key]) =
      newKeys earlier keys ++
        if (earlier ++ keys).any fun found ↦ found.equal key then [] else [key] := by
  induction keys generalizing earlier with
  | nil => simp [newKeys]
  | cons first keys ih =>
    rw [List.cons_append, newKeys, newKeys, ih]
    split <;> simp

/-- The keys of the map are the inserted ones that no earlier one equals. -/
theorem keys_ofList (container : String)
    (hinserted : ∀ entry ∈ inserted, heap.Holds entry.1 ∧ heap.Holds entry.2) :
    (ofList container inserted).keys = newKeys [] (inserted.map Prod.fst) := by
  induction inserted using List.reverseRecOn with
  | nil => rfl
  | append_singleton inserted entry ih =>
    obtain ⟨hothers, hlast⟩ := List.forall_mem_append.1 hinserted
    have hkey : heap.Holds entry.1 := (hlast entry (List.mem_singleton_self entry)).1
    have hsame := congrArg Option.isSome (get?_ofList container hothers hkey)
    rw [isSome_get?, isSome_lastInserted?] at hsame
    -- A key was inserted before exactly if it is found now, though maybe by another equal key.
    rw [ofList_concat, keys_insert, hsame, ih hothers, List.map_append, List.map_singleton,
      newKeys_concat, List.nil_append]

/-! ### Maps of different keys -/

/-- A map of values that live in a heap, no key of which equals an earlier one. -/
structure LivesIn (mapping : Mapping) (heap : Heap) : Prop where
  entries : ∀ entry ∈ mapping.entries, heap.Holds entry.1 ∧ heap.Holds entry.2
  keysDiffer : mapping.toObject.KeysDiffer

theorem livesIn_ofList (container : String)
    (hinserted : ∀ entry ∈ inserted, heap.Holds entry.1 ∧ heap.Holds entry.2) :
    (ofList container inserted).LivesIn heap :=
  ⟨forall_mem_ofList container hinserted, keysDiffer_ofList container inserted⟩

namespace LivesIn

variable {mapping other : Mapping}

theorem parts (h : mapping.LivesIn heap) : ∀ part ∈ mapping.toObject.parts, heap.Holds part := by
  intro part hpart
  obtain ⟨entry, hentry, hpart⟩ := List.mem_flatMap.1 hpart
  simp only [List.mem_cons, List.not_mem_nil, or_false] at hpart
  rcases hpart with rfl | rfl
  · exact (h.entries entry hentry).1
  · exact (h.entries entry hentry).2

/-- It does not matter which of two keys is compared with the other one. -/
theorem pairwise_entries (h : mapping.LivesIn heap) : mapping.entries.Pairwise fun entry later ↦
    entry.1.equal later.1 = false ∧ later.1.equal entry.1 = false :=
  h.keysDiffer.imp_of_mem fun {entry later} hentry hlater hdiffers ↦ by
    have hcomm := heap.equal_comm (h.entries entry hentry).1 (h.entries later hlater).1
    exact ⟨hdiffers, hcomm ▸ hdiffers⟩

/-- A lookup finds the entry with an equal key, as no other one has an equal key. -/
theorem get?_eq_some_iff (h : mapping.LivesIn heap) (hkey : heap.Holds key) :
    mapping.get? key = some value ↔
      ∃ entry ∈ mapping.entries, entry.1.equal key = true ∧ entry.2 = value := by
  rw [get?, Option.map_eq_some_iff]
  constructor
  · rintro ⟨entry, hfind, rfl⟩
    exact ⟨entry, List.mem_of_find?_eq_some hfind, by simpa using List.find?_some hfind, rfl⟩
  · rintro ⟨entry, hentry, hequal, rfl⟩
    refine ⟨entry, ?_, rfl⟩
    obtain ⟨before, after, hsplit⟩ := List.append_of_mem hentry
    rw [List.find?_eq_some_iff_append]
    refine ⟨hequal, before, after, hsplit, fun earlier hearlier ↦ ?_⟩
    have hmem : earlier ∈ mapping.entries := by simp [hsplit, hearlier]
    have hdiffers : earlier.1.equal entry.1 = false := by
      have hpairwise := h.keysDiffer
      rw [toObject, hsplit] at hpairwise
      exact (List.pairwise_append.1 hpairwise).2.2 earlier hearlier entry List.mem_cons_self
    have hother : ¬earlier.1.equal key = true := fun hfound ↦ Bool.eq_false_iff.1 hdiffers
      (heap.equal_of_right hkey (h.entries earlier hmem).1 (h.entries entry hentry).1 hfound hequal)
    simpa using hother

/-- Equality matches the entries of both maps. -/
theorem equal_iff_rel (h : mapping.LivesIn heap) (hother : other.LivesIn heap) :
    mapping.equal other = true ↔ mapping.container = other.container ∧
      Multiset.Rel (OnEntries Value.Equals) (mapping.entries : Multiset (Value × Value))
        (other.entries : Multiset (Value × Value)) := by
  have hP := heap.isPartialEquivalenceOn_holds
  obtain ⟨container, entries⟩ := mapping
  obtain ⟨otherContainer, otherEntries⟩ := other
  constructor
  · intro hequal
    cases Object.related_of_equal hP h.parts hother.parts h.keysDiffer hequal with
    | map _ hparts => exact ⟨rfl, hparts⟩
  · rintro ⟨rfl, hparts⟩
    exact Object.equal_of_related hP h.parts hother.parts hother.keysDiffer (.map _ hparts)

/-- Equal maps find equal values. -/
theorem exists_get?_of_rel (h : mapping.LivesIn heap) (hother : other.LivesIn heap)
    (hrel : Multiset.Rel (OnEntries Value.Equals) (mapping.entries : Multiset (Value × Value))
      (other.entries : Multiset (Value × Value)))
    (hkey : heap.Holds key) (hfound : mapping.get? key = some value) :
    ∃ found, other.get? key = some found ∧ value.Equals found := by
  obtain ⟨entry, hentry, hequal, rfl⟩ := (h.get?_eq_some_iff hkey).1 hfound
  obtain ⟨partner, hpartner, hkeys, hvalues⟩ :=
    Multiset.exists_mem_of_rel_of_mem hrel (Multiset.mem_coe.2 hentry)
  have hpartner : partner ∈ other.entries := Multiset.mem_coe.1 hpartner
  have hpartnerKey : partner.1.equal key = true :=
    heap.equal_of_left (h.entries entry hentry).1 (hother.entries partner hpartner).1 hkey hkeys
      hequal
  exact ⟨partner.2, (hother.get?_eq_some_iff hkey).2 ⟨partner, hpartner, hpartnerKey, rfl⟩,
    hvalues⟩

/-- Equal maps answer every lookup equally. -/
theorem agreeAt_of_equal (h : mapping.LivesIn heap) (hother : other.LivesIn heap)
    (hequal : mapping.equal other = true) (hkey : heap.Holds key) : mapping.AgreeAt other key := by
  obtain ⟨-, hrel⟩ := (h.equal_iff_rel hother).1 hequal
  have hP := heap.isPartialEquivalenceOn_holds
  have hflip : Multiset.Rel (OnEntries Value.Equals) (other.entries : Multiset (Value × Value))
      (mapping.entries : Multiset (Value × Value)) :=
    (Multiset.rel_flip.2 hrel).mono fun entry hentry partner hpartner hrelated ↦
      ⟨hP.symm (h.entries partner hpartner).1 (hother.entries entry hentry).1 hrelated.1,
        hP.symm (h.entries partner hpartner).2 (hother.entries entry hentry).2 hrelated.2⟩
  cases hfound : mapping.get? key with
  | some value =>
    obtain ⟨found, hget, hvalues⟩ := h.exists_get?_of_rel hother hrel hkey hfound
    exact .inr ⟨value, found, hfound, hget, hvalues⟩
  | none =>
    cases hget : other.get? key with
    | none => exact .inl ⟨hfound, hget⟩
    | some found =>
      obtain ⟨value, hvalue, -⟩ := hother.exists_get?_of_rel h hflip hkey hget
      rw [hfound] at hvalue
      cases hvalue

/-- A key that equals itself finds the value of its own entry. -/
theorem get?_of_mem (h : mapping.LivesIn heap) {entry : Value × Value}
    (hentry : entry ∈ mapping.entries) (hself : entry.1.equal entry.1 = true) :
    mapping.get? entry.1 = some entry.2 :=
  (h.get?_eq_some_iff (h.entries entry hentry).1).2 ⟨entry, hentry, hself, rfl⟩

/-- A key that does not equal itself is never found. -/
theorem get?_of_differs_from_itself (h : mapping.LivesIn heap) (hkey : heap.Holds key)
    (hself : key.equal key = false) : mapping.get? key = none := by
  refine Option.eq_none_iff_forall_ne_some.2 fun value hfound ↦ ?_
  obtain ⟨entry, hentry, hequal, -⟩ := (h.get?_eq_some_iff hkey).1 hfound
  exact Bool.eq_false_iff.1 hself
    (heap.equal_of_left (h.entries entry hentry).1 hkey hkey hequal hequal)

/-- A map has at least as many entries as another one if it finds all keys of that one: keys that
differ are found in different entries. -/
theorem size_le (h : mapping.LivesIn heap) (hother : other.LivesIn heap)
    (hfound : ∀ entry ∈ mapping.entries, ∃ value, other.get? entry.1 = some value) :
    mapping.size ≤ other.size := by
  have hpartner : ∀ entry ∈ mapping.entries, ∃ partner ∈ other.entries,
      partner.1.equal entry.1 = true := by
    intro entry hentry
    obtain ⟨value, hvalue⟩ := hfound entry hentry
    obtain ⟨partner, hpartner, hequal, -⟩ :=
      (hother.get?_eq_some_iff (h.entries entry hentry).1).1 hvalue
    exact ⟨partner, hpartner, hequal⟩
  refine length_le_of_partners hpartner (h.keysDiffer.imp_of_mem ?_)
  intro entry later hentry hlater hdiffers partner hpartner hequal hsame
  exact Bool.eq_false_iff.1 hdiffers (heap.equal_of_left (hother.entries partner hpartner).1
    (h.entries entry hentry).1 (h.entries later hlater).1 hequal hsame)

/-- Maps of one name are equal if they answer the lookups of all their keys equally and these equal
themselves. -/
theorem equal_of_agreeAt (h : mapping.LivesIn heap) (hother : other.LivesIn heap)
    (hcontainer : mapping.container = other.container)
    (hself : ∀ key ∈ mapping.keys, key.equal key = true)
    (hself' : ∀ key ∈ other.keys, key.equal key = true)
    (hagree : ∀ key, key ∈ mapping.keys ∨ key ∈ other.keys → mapping.AgreeAt other key) :
    mapping.equal other = true := by
  have hleft (entry : Value × Value) (hentry : entry ∈ mapping.entries) :
      ∃ value, other.get? entry.1 = some value ∧ entry.2.Equals value := by
    have hkey : entry.1 ∈ mapping.keys := List.mem_map_of_mem hentry
    have hget := h.get?_of_mem hentry (hself _ hkey)
    rcases hagree entry.1 (.inl hkey) with ⟨hnone, -⟩ | ⟨value, found, hvalue, hfound, hequal⟩
    · exact absurd hget (by simp [hnone])
    · obtain rfl : entry.2 = value := Option.some.inj (hget.symm.trans hvalue)
      exact ⟨found, hfound, hequal⟩
  have hright (entry : Value × Value) (hentry : entry ∈ other.entries) :
      ∃ value, mapping.get? entry.1 = some value := by
    have hkey : entry.1 ∈ other.keys := List.mem_map_of_mem hentry
    have hget := hother.get?_of_mem hentry (hself' _ hkey)
    rcases hagree entry.1 (.inr hkey) with ⟨-, hnone⟩ | ⟨value, -, hvalue, -⟩
    · exact absurd hget (by simp [hnone])
    · exact ⟨value, hvalue⟩
  -- The comparison asks for the keys of one side only, so the sizes have to rule out more keys on
  -- the other side.
  have hsize : mapping.size = other.size :=
    Nat.le_antisymm
      (h.size_le hother fun entry hentry ↦ (hleft entry hentry).imp fun _ hvalue ↦ hvalue.1)
      (hother.size_le h hright)
  refine (equal_iff_get? h.parts hother.parts).2 ⟨hcontainer, hsize, fun entry hentry ↦ ?_⟩
  obtain ⟨value, hvalue, hequal⟩ := hleft entry hentry
  have hmem : ∃ found ∈ other.entries, found.1.equal entry.1 = true ∧ found.2 = value :=
    (hother.get?_eq_some_iff (h.entries entry hentry).1).1 hvalue
  obtain ⟨found, hfound, -, rfl⟩ := hmem
  exact ⟨found.2, hvalue, heap.isPartialEquivalenceOn_holds.symm (h.entries entry hentry).2
    (hother.entries found hfound).2 hequal⟩

/-- Maps whose keys equal themselves are equal if and only if they have the same name and answer
every lookup equally. -/
theorem equal_iff_agreeAt (h : mapping.LivesIn heap) (hother : other.LivesIn heap)
    (hself : ∀ key ∈ mapping.keys, key.equal key = true)
    (hself' : ∀ key ∈ other.keys, key.equal key = true)
    (hkeys : ∀ key ∈ mapping.keys, heap.Makes key) (hkeys' : ∀ key ∈ other.keys, heap.Makes key) :
    mapping.equal other = true ↔ mapping.container = other.container ∧
      ∀ key, heap.Makes key → mapping.AgreeAt other key := by
  constructor
  · intro hequal
    exact ⟨((h.equal_iff_rel hother).1 hequal).1, fun key hkey ↦
      h.agreeAt_of_equal hother hequal hkey.holds⟩
  · rintro ⟨hcontainer, hagree⟩
    refine h.equal_of_agreeAt hother hcontainer hself hself' fun key hkey ↦ hagree key ?_
    rcases hkey with hkey | hkey
    · exact hkeys key hkey
    · exact hkeys' key hkey

/-- Inserting the entries of a map in another order yields the map with its entries in that
order. -/
theorem ofList_of_perm (h : mapping.LivesIn heap) {reordered : List (Value × Value)}
    (hperm : reordered.Perm mapping.entries) :
    ofList mapping.container reordered = ⟨mapping.container, reordered⟩ := by
  have hpairwise : reordered.Pairwise fun entry later ↦
      entry.1.equal later.1 = false ∧ later.1.equal entry.1 = false :=
    (hperm.pairwise_iff fun hdiffers ↦ hdiffers.symm).2 h.pairwise_entries
  exact ofList_of_keysDiffer mapping.container (hpairwise.imp And.left)

/-- Equality of two maps is not a matter of the order in which their entries were inserted. -/
theorem equal_of_perm (h : mapping.LivesIn heap) (hother : other.LivesIn heap)
    {reordered otherReordered : List (Value × Value)} (hperm : reordered.Perm mapping.entries)
    (hperm' : otherReordered.Perm other.entries) :
    (ofList mapping.container reordered).equal (ofList other.container otherReordered) =
      mapping.equal other := by
  have hleft := livesIn_ofList mapping.container fun entry hentry ↦
    h.entries entry (hperm.mem_iff.1 hentry)
  have hright := livesIn_ofList other.container fun entry hentry ↦
    hother.entries entry (hperm'.mem_iff.1 hentry)
  rw [Bool.eq_iff_iff, hleft.equal_iff_rel hright, h.equal_iff_rel hother, h.ofList_of_perm hperm,
    hother.ofList_of_perm hperm', Multiset.coe_eq_coe.2 hperm, Multiset.coe_eq_coe.2 hperm']

end LivesIn

/-- A map filled by insertion is a finite map of its keys up to equality. Its keys are the inserted
ones that no earlier one equals, in the order of insertion, and no two of them are equal. A lookup
yields the value of the last insertion of an equal key, so a number that differs from itself is
never found. Two such maps whose keys equal themselves are equal if and only if they have the same
name and every key is absent from both or has equal values in both, and whether two maps are equal
is not a matter of the order in which their entries are inserted. -/
theorem ofList_is_finite_map (heap : Heap) (container : String) (inserted : List (Value × Value))
    (hinserted : ∀ entry ∈ inserted, heap.Makes entry.1 ∧ heap.Makes entry.2) :
    (ofList container inserted).keys = newKeys [] (inserted.map Prod.fst) ∧
    ((ofList container inserted).keys.Pairwise fun key later ↦
      key.equal later = false ∧ later.equal key = false) ∧
    (∀ key, heap.Makes key →
      (ofList container inserted).get? key = lastInserted? inserted key) ∧
    (∀ x : Floating, x.isNaN = true → (ofList container inserted).get? (.floating x) = none) ∧
    ∀ other otherInserted,
      (∀ entry ∈ otherInserted, heap.Makes entry.1 ∧ heap.Makes entry.2) →
      ((∀ key ∈ (ofList container inserted).keys, key.equal key = true) →
        (∀ key ∈ (ofList other otherInserted).keys, key.equal key = true) →
        ((ofList container inserted).equal (ofList other otherInserted) = true ↔
          container = other ∧ ∀ key, heap.Makes key →
            (ofList container inserted).AgreeAt (ofList other otherInserted) key)) ∧
      ∀ reordered otherReordered,
        reordered.Perm (ofList container inserted).entries →
        otherReordered.Perm (ofList other otherInserted).entries →
        (ofList container reordered).equal (ofList other otherReordered) =
          (ofList container inserted).equal (ofList other otherInserted) := by
  have hholds {entries : List (Value × Value)}
      (hmakes : ∀ entry ∈ entries, heap.Makes entry.1 ∧ heap.Makes entry.2) :
      ∀ entry ∈ entries, heap.Holds entry.1 ∧ heap.Holds entry.2 :=
    fun entry hentry ↦ (hmakes entry hentry).imp Heap.Makes.holds Heap.Makes.holds
  have hlives := livesIn_ofList container (hholds hinserted)
  have hnumber (x : Floating) (hx : x.isNaN = true) :
      (ofList container inserted).get? (.floating x) = none :=
    hlives.get?_of_differs_from_itself (.of_inline trivial rfl) (Value.not_equal_self_of_isNaN hx)
  refine ⟨keys_ofList container (hholds hinserted), List.pairwise_map.2 hlives.pairwise_entries,
    fun key hkey ↦ get?_ofList container (hholds hinserted) hkey.holds, hnumber,
    fun other otherInserted hother ↦ ?_⟩
  have hlives' := livesIn_ofList other (hholds hother)
  constructor
  · intro hself hself'
    have hiff := hlives.equal_iff_agreeAt hlives' hself hself'
      (makes_of_mem_keys container hinserted) (makes_of_mem_keys other hother)
    rwa [container_ofList, container_ofList] at hiff
  · intro reordered otherReordered hperm hperm'
    have hsame := hlives.equal_of_perm hlives' hperm hperm'
    rwa [container_ofList, container_ofList] at hsame

end Mapping

/-! ### A map of zeros of both signs and a list that does not equal its copy -/

namespace SharedList

/-- A number that differs from itself. -/
def notANumber : Value :=
  .floating ((Floating.ofBits? .double 0x7ff8000000000000).getD (.zero .double))

/-- Insertions of a zero, of the list and of the zero of the other sign. -/
def insertions : List (Value × Value) :=
  [(zero, zero), (list, negativeZero), (negativeZero, list)]

/-- The entries they make, in the other order and with a zero of the other sign as a value. -/
def otherInsertions : List (Value × Value) :=
  [(list, zero), (zero, list)]

theorem makes_insertions : ∀ entry ∈ insertions, heap.Makes entry.1 ∧ heap.Makes entry.2 :=
  List.forall_mem_cons.2 ⟨⟨makes_inline rfl, makes_inline rfl⟩,
    List.forall_mem_cons.2 ⟨⟨makes_list, makes_inline rfl⟩,
      List.forall_mem_singleton.2 ⟨makes_inline rfl, makes_list⟩⟩⟩

theorem makes_otherInsertions :
    ∀ entry ∈ otherInsertions, heap.Makes entry.1 ∧ heap.Makes entry.2 :=
  List.forall_mem_cons.2 ⟨⟨makes_list, makes_inline rfl⟩,
    List.forall_mem_singleton.2 ⟨makes_inline rfl, makes_list⟩⟩

end SharedList

namespace Mapping

/-- The map keeps the first zero and the last value. It is equal to the map of the other insertions,
in whatever order these are made. -/
theorem ofList_is_finite_map_of_zeros :
    (∀ entry ∈ SharedList.insertions,
      SharedList.heap.Makes entry.1 ∧ SharedList.heap.Makes entry.2) ∧
    (ofList "M" SharedList.insertions).keys = [SharedList.zero, SharedList.list] ∧
    (ofList "M" SharedList.insertions).get? SharedList.zero = some SharedList.list ∧
    (ofList "M" SharedList.insertions).get? SharedList.notANumber = none ∧
    (ofList "M" SharedList.insertions).AgreeAt (ofList "M" SharedList.otherInsertions)
      SharedList.negativeZero ∧
    (ofList "M" (ofList "M" SharedList.insertions).entries.reverse).equal
      (ofList "M" SharedList.otherInsertions) = true := by
  obtain ⟨hkeys, -, hget, hnumber, hequal⟩ := ofList_is_finite_map SharedList.heap "M"
    SharedList.insertions SharedList.makes_insertions
  obtain ⟨hiff, horder⟩ := hequal "M" SharedList.otherInsertions SharedList.makes_otherInsertions
  have hsame : (ofList "M" SharedList.insertions).equal (ofList "M" SharedList.otherInsertions) =
      true := by decide
  have hagree := (hiff (by decide) (by decide)).1 hsame
  exact ⟨SharedList.makes_insertions, hkeys, hget _ (SharedList.makes_inline rfl),
    hnumber _ (by decide), hagree.2 _ (SharedList.makes_inline rfl),
    (horder _ _ (List.reverse_perm _) (.refl _)).trans hsame⟩

end Mapping

end Exemplar
