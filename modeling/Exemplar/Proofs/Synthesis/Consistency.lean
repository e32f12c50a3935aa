import Exemplar.Proofs.Synthesis.History

/-!
The memory of a resolver is consistent after every history. A remembered triple is what the factory
or the layout of its type makes of the triples that the resolver itself hands out for the required
types. The only other triples in use are the placeholders of types on a common cycle. Entries are
never replaced, so what was true when a triple was made stays true.
-/

set_option autoImplicit false
set_option relaxedAutoImplicit false

namespace Exemplar

/-- The triple is made by a recipe of the type from what the memory provides. -/
def Memory.Combines (memory : Memory) (sources : Sources) (d : Descriptor) (triple : Triple) :
    Prop :=
  ∃ (recipe : Recipe) (answer : Descriptor → SharedTriple) (number later : Nat),
    sources.recipe d = .ok recipe ∧
    (∀ e ∈ recipe.requirements, memory.Provides sources d e (answer e)) ∧
    recipe.combine (recipe.requirements.map fun e ↦ (answer e).triple) number = (triple, later)

theorem Memory.GrowsOutside.combines {path : RequestPath} {earlier later : Memory}
    (hgrows : GrowsOutside path earlier later) {sources : Sources} {d : Descriptor}
    {triple : Triple} (h : earlier.Combines sources d triple) :
    later.Combines sources d triple := by
  obtain ⟨recipe, answer, number, last, hrecipe, hanswer, hcombine⟩ := h
  exact ⟨recipe, answer, number, last, hrecipe, fun e he ↦ hgrows.provides (hanswer e he), hcombine⟩

/-- Every remembered triple is made from what the memory provides, and the placeholders are hollow
values of their types. -/
structure Memory.Consistent (memory : Memory) (sources : Sources) : Prop where
  cache : ∀ d shared, memory.cache.get? d = some shared → memory.Combines sources d shared.triple
  hollows : ∀ d shared, memory.hollows.get? d = some shared →
    ∃ number, shared.triple = .placeholder d number

theorem Memory.consistent_empty (sources : Sources) : Memory.empty.Consistent sources where
  cache _ _ h := by cases h
  hollows _ _ h := by cases h

namespace Sources

/-- Consistency survives every run. -/
theorem keeps_consistent (sources : Sources) :
    sources.Keeps fun progress ↦ progress.memory.Consistent sources where
  idle h _ := h
  hold {memory unused d} h hhollow := by
    have hgrows : Memory.GrowsOutside RequestPath.empty memory
        (memory.hold d ⟨unused + 2, .placeholder d unused⟩) := Memory.growsOutside_hold hhollow
    refine ⟨fun e shared he ↦ hgrows.combines (h.cache e shared he), fun e shared he ↦ ?_⟩
    rcases Memory.get?_of_hold he with ⟨rfl, rfl⟩ | he
    · exact ⟨unused, rfl⟩
    · exact h.hollows e shared he
  remember {memory unused d recipe triple later answer} h hcache hrecipe hanswer _ hcombine := by
    have hgrows : Memory.GrowsOutside RequestPath.empty memory
        (memory.remember d ⟨later, triple⟩) :=
      Memory.growsOutside_remember hcache List.not_mem_nil
    refine ⟨fun e shared he ↦ ?_, h.hollows⟩
    rcases Memory.get?_of_remember he with ⟨rfl, rfl⟩ | he
    · exact hgrows.combines ⟨recipe, answer, unused, later, hrecipe, hanswer, hcombine⟩
    · exact hgrows.combines (h.cache e shared he)

end Sources

/-- Requests that are answered for the given types only, and change nothing. -/
def Request.answering (types : List Descriptor) (answer : Descriptor → SharedTriple) : Request :=
  fun d ↦ if d ∈ types then pure (answer d) else throw .tooDeep

namespace Request

variable {types : List Descriptor} {answer : Descriptor → SharedTriple}

theorem answering_isFinal (types : List Descriptor) (answer : Descriptor → SharedTriple) :
    (answering types answer).IsFinal := by
  intro d progress fault reached hrun
  unfold answering at hrun
  split at hrun <;> cases hrun

theorem requestAll_answering {ds : List Descriptor} (hds : ∀ d ∈ ds, d ∈ types) :
    requestAll (answering types answer) ds = pure (ds.map answer) := by
  induction ds with
  | nil => rfl
  | cons d ds ih =>
    have hhead : answering types answer d = pure (answer d) := if_pos (hds d List.mem_cons_self)
    rw [requestAll, hhead, ih fun e he ↦ hds e (List.mem_cons_of_mem d he)]
    rfl

end Request

namespace Sources

/-- When only the requirements of a type are answered, the factory or the layout of the type
combines the answers by the recipe of the type. -/
theorem create_answering (sources : Sources) {d : Descriptor} {recipe : Recipe}
    (hrecipe : sources.recipe d = .ok recipe) {answer : Descriptor → SharedTriple}
    {memory : Memory} {number later : Nat} {triple : Triple}
    (hcombine : recipe.combine (recipe.requirements.map fun e ↦ (answer e).triple) number =
      (triple, later)) :
    sources.create (Request.answering recipe.requirements answer) d ⟨memory, number⟩ =
      .ok triple ⟨memory, later⟩ := by
  rw [sources.create_eq_follow (Request.answering_isFinal _ _), hrecipe,
    Resolution.ofExcept_ok_bind]
  have hparts : requestAll (Request.answering recipe.requirements answer) recipe.requirements
      ⟨memory, number⟩ = .ok (recipe.requirements.map answer) ⟨memory, number⟩ := by
    rw [Request.requestAll_answering fun e he ↦ he]
    rfl
  have hcolors : (recipe.requirements.map answer).map SharedTriple.triple =
      recipe.requirements.map fun e ↦ (answer e).triple := List.map_map
  rw [← hcolors] at hcombine
  exact Recipe.follow_of_ok hparts hcombine

end Sources

namespace Resolver

variable {sources : Sources} {start unused : Nat} {resolver : Resolver}

/-- A resolver without any requests to nest remembers nothing. -/
theorem Reached.memory_of_depthLimit_eq_zero (h : Reached sources start resolver unused)
    (hlimit : resolver.depthLimit = 0) : resolver.memory = Memory.empty := by
  induction h with
  | fresh depthLimit => rfl
  | @resolve resolver unused d _ ih =>
    have hrun : resolver.sources.resolveWithin 0 RequestPath.empty d ⟨resolver.memory, unused⟩ =
        .error .tooDeep ⟨resolver.memory, unused⟩ := rfl
    rw [Resolver.resolve, resolveWithin_eq] at hlimit ⊢
    have hsame : resolver.depthLimit = 0 := by
      revert hlimit
      split <;> exact id
    rw [hsame, hrun]
    exact ih hsame
  | idle _ _ ih => exact ih hlimit

/-- A request for a remembered type hands its triple out and changes nothing. -/
theorem resolveWithin_of_cached {d : Descriptor} {shared : SharedTriple}
    (hlimit : resolver.depthLimit ≠ 0) (hcache : resolver.memory.cache.get? d = some shared)
    (path : RequestPath) (unused : Nat) :
    resolver.resolveWithin path d unused = ((.ok shared, resolver), unused) := by
  obtain ⟨limit, hsucc⟩ := Nat.exists_eq_succ_of_ne_zero hlimit
  have hrun : resolver.sources.resolveWithin resolver.depthLimit path d
      ⟨resolver.memory, unused⟩ = .ok shared ⟨resolver.memory, unused⟩ := by
    rw [hsucc]
    exact resolver.sources.resolveWithin_of_cached limit path hcache
  rw [resolveWithin_eq, hrun]

theorem resolve_of_cached {d : Descriptor} {shared : SharedTriple}
    (hlimit : resolver.depthLimit ≠ 0) (hcache : resolver.memory.cache.get? d = some shared)
    (unused : Nat) : resolver.resolve d unused = ((.ok shared, resolver), unused) :=
  resolveWithin_of_cached hlimit hcache RequestPath.empty unused

/-- Where the triple of a required type comes from: it is remembered, so every later request for the
type hands it out again, or it is the placeholder of a type on a common cycle. -/
def Supplies (resolver : Resolver) (d e : Descriptor) (shared : SharedTriple) : Prop :=
  (resolver.memory.cache.get? e = some shared ∧
    ∀ unused, resolver.resolve e unused = ((.ok shared, resolver), unused)) ∨
  (resolver.memory.hollows.get? e = some shared ∧
    (∃ number, shared.triple = .placeholder e number) ∧ resolver.sources.Reaches e d)

/-- After every history, each remembered triple is what the factory or the layout of its type makes
of remembered triples and of placeholders on a common cycle, and of nothing else. -/
theorem Reached.cached_triple_is_made_of_supplied_triples
    (h : Reached sources start resolver unused) {d : Descriptor} {shared : SharedTriple}
    (hcache : resolver.memory.cache.get? d = some shared) :
    ∃ (recipe : Recipe) (answer : Descriptor → SharedTriple) (number later : Nat),
      sources.recipe d = .ok recipe ∧
      (∀ e ∈ recipe.requirements, sources.Requires d e ∧ resolver.Supplies d e (answer e)) ∧
      sources.create (Request.answering recipe.requirements answer) d ⟨resolver.memory, number⟩ =
        .ok shared.triple ⟨resolver.memory, later⟩ := by
  have hlimit : resolver.depthLimit ≠ 0 := by
    intro hzero
    rw [h.memory_of_depthLimit_eq_zero hzero] at hcache
    cases hcache
  have hconsistent : resolver.memory.Consistent sources :=
    h.keeps sources.keeps_consistent (Memory.consistent_empty sources)
  obtain ⟨recipe, answer, number, later, hrecipe, hanswer, hcombine⟩ :=
    hconsistent.cache d shared hcache
  refine ⟨recipe, answer, number, later, hrecipe, fun e he ↦ ⟨⟨recipe, hrecipe, he⟩, ?_⟩,
    sources.create_answering hrecipe hcombine⟩
  rcases hanswer e he with hfound | ⟨hhollow, hreaches⟩
  · exact .inl ⟨hfound, resolve_of_cached hlimit hfound⟩
  · rw [← h.sources_eq] at hreaches
    exact .inr ⟨hhollow, hconsistent.hollows e _ hhollow, hreaches⟩

/-- The root type as a type of maps between root types. Its remembered maps hold its placeholder. -/
theorem Reached.cached_root_map_is_made_of_placeholders :
    ∃ shared : SharedTriple,
      ((Resolver.mk Sources.rootMaps 2 Memory.empty).resolve
        .object 0).1.2.memory.cache.get? .object = some shared ∧
      ∃ (recipe : Recipe) (answer : Descriptor → SharedTriple) (number later : Nat),
        Sources.rootMaps.recipe .object = .ok recipe ∧
        (∀ e ∈ recipe.requirements, Sources.rootMaps.Requires .object e ∧
          Supplies ((Resolver.mk Sources.rootMaps 2 Memory.empty).resolve .object 0).1.2
            .object e (answer e)) ∧
        Sources.rootMaps.create (Request.answering recipe.requirements answer) .object
          ⟨((Resolver.mk Sources.rootMaps 2 Memory.empty).resolve .object 0).1.2.memory, number⟩ =
          .ok shared.triple
            ⟨((Resolver.mk Sources.rootMaps 2 Memory.empty).resolve .object 0).1.2.memory, later⟩ :=
  ⟨_, rfl, Reached.cached_triple_is_made_of_supplied_triples
    (.resolve .object (@Reached.fresh Sources.rootMaps 0 2)) rfl⟩

end Resolver

end Exemplar
