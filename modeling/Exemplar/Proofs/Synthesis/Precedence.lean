import Exemplar.Proofs.Synthesis.History
import Exemplar.Proofs.Table
import Mathlib.Data.List.TakeWhile

/-!
The order in which types are remembered. It decides what a remembered triple is made of: a required
type that was remembered earlier has given its triple. One that was not was being resolved at that
moment. It has given its placeholder, and it is remembered later, if at all.
-/

set_option autoImplicit false
set_option relaxedAutoImplicit false

namespace Exemplar

theorem Table.keys_insert_of_get?_eq_none {κ ν : Type} [DecidableEq κ] {table : Table κ ν}
    {key : κ} (hkey : table.get? key = none) (value : ν) :
    (table.insert key value).keys = table.keys ++ [key] := by
  rw [keys_insert, if_neg ((get?_eq_none_iff table key).1 hkey)]

namespace Memory

/-- The first type is remembered, and if the second one is remembered too, it was so later. -/
def RememberedBefore (memory : Memory) (e d : Descriptor) : Prop :=
  e ∈ memory.cache.keys.takeWhile (· ≠ d)

variable {memory : Memory} {d e f : Descriptor} {shared : SharedTriple}

/-- Whatever is remembered already is remembered before the next type. -/
theorem rememberedBefore_remember_self (hd : memory.cache.get? d = none) :
    (memory.remember d shared).RememberedBefore e d ↔ memory.cache.contains e = true := by
  have hmissing : d ∉ memory.cache.keys := by rwa [← Table.get?_eq_none_iff]
  have hall : memory.cache.keys.takeWhile (· ≠ d) = memory.cache.keys := by
    rw [List.takeWhile_eq_self_iff]
    intro f hf
    have hne : f ≠ d := fun hsame ↦ hmissing (hsame ▸ hf)
    simpa using hne
  have hkeys := Table.keys_insert_of_get?_eq_none hd shared
  rw [RememberedBefore, remember, hkeys, List.takeWhile_append, if_pos (by rw [hall])]
  simp [Table.contains_iff]

/-- Remembering another type does not change which types were remembered before. -/
theorem rememberedBefore_remember (hf : memory.cache.get? f = none)
    (hd : memory.cache.contains d = true) :
    (memory.remember f shared).RememberedBefore e d ↔ memory.RememberedBefore e d := by
  have hmem : d ∈ memory.cache.keys := (Table.contains_iff memory.cache d).1 hd
  have hshorter : (memory.cache.keys.takeWhile (· ≠ d)).length ≠ memory.cache.keys.length := by
    intro hlength
    have hall := (List.takeWhile_prefix (· ≠ d)).eq_of_length hlength
    rw [List.takeWhile_eq_self_iff] at hall
    simpa using hall d hmem
  have hkeys := Table.keys_insert_of_get?_eq_none hf shared
  rw [RememberedBefore, RememberedBefore, remember, hkeys, List.takeWhile_append, if_neg hshorter]

/-! ### Made in order -/

/-- The memory holds this triple for a type required by another one: its remembered triple if the
required type was remembered first, and otherwise its placeholder. In that case the types lie on a
common cycle. -/
def ProvidesInOrder (memory : Memory) (sources : Sources) (d e : Descriptor)
    (shared : SharedTriple) : Prop :=
  memory.RememberedBefore e d ∧ memory.cache.get? e = some shared ∨
    ¬memory.RememberedBefore e d ∧ memory.hollows.get? e = some shared ∧ sources.Reaches e d

/-- The triple is made by a recipe of the type from what the memory provides in order. -/
def CombinesInOrder (memory : Memory) (sources : Sources) (d : Descriptor) (triple : Triple) :
    Prop :=
  ∃ (recipe : Recipe) (answer : Descriptor → SharedTriple) (number later : Nat),
    sources.recipe d = .ok recipe ∧
    (∀ e ∈ recipe.requirements, memory.ProvidesInOrder sources d e (answer e)) ∧
    recipe.combine (recipe.requirements.map fun e ↦ (answer e).triple) number = (triple, later)

theorem CombinesInOrder.mono {later : Memory} {sources : Sources} {triple : Triple}
    (h : memory.CombinesInOrder sources d triple)
    (hprovides : ∀ e shared, memory.ProvidesInOrder sources d e shared →
      later.ProvidesInOrder sources d e shared) : later.CombinesInOrder sources d triple := by
  obtain ⟨recipe, answer, number, last, hrecipe, hanswer, hcombine⟩ := h
  exact ⟨recipe, answer, number, last, hrecipe, fun e he ↦ hprovides e _ (hanswer e he), hcombine⟩

end Memory

/-- Every run keeps remembered triples made in order. At the moment when a triple is made, the types
remembered first are just the remembered ones. -/
theorem Sources.keeps_combinesInOrder (sources : Sources) :
    sources.Keeps fun progress ↦ ∀ d shared, progress.memory.cache.get? d = some shared →
      progress.memory.CombinesInOrder sources d shared.triple where
  idle h _ := h
  hold {memory unused d} h hhollow := by
    have hgrows : Memory.GrowsOutside RequestPath.empty memory
        (memory.hold d ⟨unused + 2, .placeholder d unused⟩) := Memory.growsOutside_hold hhollow
    refine fun e shared he ↦ (h e shared he).mono fun f given hprovides ↦ ?_
    exact hprovides.imp_right fun hplaced ↦
      ⟨hplaced.1, hgrows.hollows f given hplaced.2.1, hplaced.2.2⟩
  remember {memory unused d recipe triple later answer} h hcache hrecipe hanswer hexact hcombine := by
    have hgrows : Memory.GrowsOutside RequestPath.empty memory
        (memory.remember d ⟨later, triple⟩) :=
      Memory.growsOutside_remember hcache List.not_mem_nil
    intro e shared he
    rcases Memory.get?_of_remember he with ⟨rfl, rfl⟩ | he
    -- The new triple. The types remembered before it are those that were remembered when it was
    -- made, and a remembered type has given its remembered triple.
    · refine ⟨recipe, answer, unused, later, hrecipe, fun e he ↦ ?_, hcombine⟩
      rw [Memory.ProvidesInOrder, Memory.rememberedBefore_remember_self hcache]
      cases hfound : memory.cache.get? e with
      | some given =>
        rw [hexact e he given hfound]
        exact .inl ⟨by simp [Table.contains, hfound], hgrows.cache e given hfound⟩
      | none =>
        rcases hanswer e he with hgiven | ⟨hhollow, hreaches⟩
        · rw [hfound] at hgiven
          cases hgiven
        · exact .inr ⟨by simp [Table.contains, hfound], hhollow, hreaches⟩
    -- An older triple. The new type comes after it, whatever it is.
    · refine (h e shared he).mono fun f given hprovides ↦ ?_
      have hcontains : memory.cache.contains e = true := by simp [Table.contains, he]
      rw [Memory.ProvidesInOrder, Memory.rememberedBefore_remember hcache hcontains]
      exact hprovides.imp_left fun hearlier ↦ ⟨hearlier.1, hgrows.cache f given hearlier.2⟩

/-- After every history, each remembered triple is made of the remembered triples of those required
types that were remembered first, and of the placeholders of the others. -/
theorem Resolver.Reached.combinesInOrder {sources : Sources} {start unused : Nat}
    {resolver : Resolver} (h : Reached sources start resolver unused) {d : Descriptor}
    {shared : SharedTriple} (hcache : resolver.memory.cache.get? d = some shared) :
    resolver.memory.CombinesInOrder sources d shared.triple :=
  h.keeps sources.keeps_combinesInOrder (fun _ _ hfound ↦ by cases hfound) d shared hcache

end Exemplar
