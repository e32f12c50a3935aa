import Exemplar.Proofs.Synthesis.Run

/-!
Histories of a resolver: any number of top-level requests, answered or not, one after the other. A
property of the memory holds after every history if it holds of the empty memory and survives the
two ways in which a run changes the memory (`Sources.Keeps`). When the triple of a type is
remembered, each type it requires was answered by its remembered triple, or by its placeholder if
it was being resolved at that moment, and then it reaches the type in turn.
-/

set_option autoImplicit false
set_option relaxedAutoImplicit false

namespace Exemplar

/-- The memory holds this triple for a type required by another one: it is the remembered triple of
the required type, or its placeholder if the types lie on a common cycle. -/
def Memory.Provides (memory : Memory) (sources : Sources) (d e : Descriptor)
    (shared : SharedTriple) : Prop :=
  memory.cache.get? e = some shared ∨
    memory.hollows.get? e = some shared ∧ sources.Reaches e d

theorem Memory.GrowsOutside.provides {path : RequestPath} {earlier later : Memory}
    (hgrows : GrowsOutside path earlier later) {sources : Sources} {d e : Descriptor}
    {shared : SharedTriple} (h : earlier.Provides sources d e shared) :
    later.Provides sources d e shared := by
  rcases h with hcache | ⟨hhollow, hreaches⟩
  · exact .inl (hgrows.cache e shared hcache)
  · exact .inr ⟨hgrows.hollows e shared hhollow, hreaches⟩

/-- Within the requests on a path, a type on the path is answered by its placeholder, and every
other type by its remembered triple. -/
def Memory.AnswersOn (memory : Memory) (path : RequestPath) (e : Descriptor)
    (shared : SharedTriple) : Prop :=
  e ∉ path.types ∧ memory.cache.get? e = some shared ∨
    e ∈ path.types ∧ memory.hollows.get? e = some shared

theorem Memory.AnswersOn.unique {memory : Memory} {path : RequestPath} {e : Descriptor}
    {shared other : SharedTriple} (hshared : memory.AnswersOn path e shared)
    (hother : memory.AnswersOn path e other) : shared = other := by
  rcases hshared with ⟨hpath, hshared⟩ | ⟨hpath, hshared⟩ <;>
    rcases hother with ⟨hpath', hother⟩ | ⟨hpath', hother⟩
  · exact Option.some.inj (hshared.symm.trans hother)
  · exact absurd hpath' hpath
  · exact absurd hpath hpath'
  · exact Option.some.inj (hshared.symm.trans hother)

theorem Memory.GrowsOutside.answers {path other : RequestPath} {earlier later : Memory}
    (hgrows : GrowsOutside path earlier later) {e : Descriptor} {shared : SharedTriple}
    (h : earlier.AnswersOn other e shared) : later.AnswersOn other e shared := by
  rcases h with ⟨hpath, hcache⟩ | ⟨hpath, hhollow⟩
  · exact .inl ⟨hpath, hgrows.cache e shared hcache⟩
  · exact .inr ⟨hpath, hgrows.hollows e shared hhollow⟩

namespace Sources

/-- A property of progress that survives the creation of other references, a new placeholder, and a
triple that is made from what the memory provides. A type that is remembered by then is provided by
its remembered triple. -/
structure Keeps (sources : Sources) (Inv : Progress → Prop) : Prop where
  idle : ∀ {memory unused later}, Inv ⟨memory, unused⟩ → unused ≤ later → Inv ⟨memory, later⟩
  hold : ∀ {memory unused d}, Inv ⟨memory, unused⟩ → memory.hollows.get? d = none →
    Inv ⟨memory.hold d ⟨unused + 2, .placeholder d unused⟩, unused + 3⟩
  remember : ∀ {memory unused d recipe triple later} {answer : Descriptor → SharedTriple},
    Inv ⟨memory, unused⟩ → memory.cache.get? d = none → sources.recipe d = .ok recipe →
    (∀ e ∈ recipe.requirements, memory.Provides sources d e (answer e)) →
    (∀ e ∈ recipe.requirements, ∀ shared, memory.cache.get? e = some shared → answer e = shared) →
    recipe.combine (recipe.requirements.map fun e ↦ (answer e).triple) unused = (triple, later) →
    Inv ⟨memory.remember d ⟨later, triple⟩, later + 1⟩

/-- The path of a request: each type on it reaches the requested one and is not resolved yet. -/
def Enclosed (sources : Sources) (path : RequestPath) (d : Descriptor) (memory : Memory) : Prop :=
  ∀ e ∈ path.types, sources.Reaches e d ∧ memory.cache.get? e = none

variable {sources : Sources} {path : RequestPath} {d : Descriptor}

theorem enclosed_empty (sources : Sources) (d : Descriptor) (memory : Memory) :
    sources.Enclosed RequestPath.empty d memory :=
  fun _ he ↦ by cases he

/-- A type that is not resolved encloses the requests for what it requires, and so does all that
encloses it. -/
theorem Enclosed.extend {memory : Memory} (hpath : sources.Enclosed path d memory)
    (hcache : memory.cache.get? d = none) {e : Descriptor} (hrequires : sources.Requires d e) :
    sources.Enclosed (path.extend d) e memory := by
  intro f hf
  rcases (path.mem_types_extend d f).1 hf with hf | rfl
  · exact ⟨(hpath f hf).1.tail hrequires, (hpath f hf).2⟩
  · exact ⟨hrequires.reaches, hcache⟩

theorem Enclosed.of_grows {earlier later : Memory} (hpath : sources.Enclosed path d earlier)
    (hgrows : Memory.GrowsOutside path earlier later) : sources.Enclosed path d later :=
  fun e he ↦ ⟨(hpath e he).1, (hgrows.path e he).trans (hpath e he).2⟩

/-- An answer is remembered, or it is the placeholder of a type on the path. -/
theorem get?_of_resolveWithin {depth : Nat} {progress last : Progress} {shared : SharedTriple}
    (hrun : sources.resolveWithin depth path d progress = .ok shared last) :
    last.memory.cache.get? d = some shared ∨
      last.memory.hollows.get? d = some shared ∧ d ∈ path.types := by
  cases depth with
  | zero => cases hrun
  | succ depth =>
    have hanswer := sources.answers_resolveWithin depth path d progress
    rw [hrun] at hanswer
    cases hanswer with
    | cached hcache => exact .inl hcache
    | held hcache hpath hhollow => exact .inr ⟨hhollow, hpath⟩
    | placed hcache hpath hhollow => exact .inr ⟨by simp [Memory.hold], hpath⟩
    | made => exact .inl (by simp [Memory.remember])

/-- Answers that are determined by their types are the values of one function. -/
theorem exists_answer {Good : Descriptor → SharedTriple → Prop}
    (hunique : ∀ e shared other, Good e shared → Good e other → shared = other)
    {ds : List Descriptor} {answers : List SharedTriple} (h : List.Forall₂ Good ds answers) :
    ∃ answer : Descriptor → SharedTriple,
      answers = ds.map answer ∧ ∀ e ∈ ds, Good e (answer e) := by
  classical
  have : Nonempty SharedTriple := ⟨⟨0, ⟨.null, .null, .null⟩⟩⟩
  refine ⟨fun e ↦ Classical.epsilon (Good e), ?_⟩
  induction h with
  | nil => exact ⟨rfl, nofun⟩
  | @cons e shared ds answers hgood _ ih =>
    have hchosen : Good e (Classical.epsilon (Good e)) := Classical.epsilon_spec ⟨shared, hgood⟩
    refine ⟨?_, fun f hf ↦ ?_⟩
    · rw [List.map_cons, ← ih.1, hunique e shared _ hgood hchosen]
    · rcases List.mem_cons.1 hf with rfl | hf
      · exact hchosen
      · exact ih.2 f hf

/-- Within a request for a type, other types are answered by what the memory provides, and equal
types get equal answers. A type that is remembered in the end was not being resolved. -/
theorem provides_of_requestAll {depth : Nat} {ds : List Descriptor} {progress last : Progress}
    {parts : List SharedTriple} (hpath : sources.Enclosed path d progress.memory)
    (hcache : progress.memory.cache.get? d = none)
    (hrun : requestAll (sources.resolveWithin depth (path.extend d)) ds progress =
      .ok parts last) :
    ∃ answer : Descriptor → SharedTriple, parts = ds.map answer ∧
      (∀ e ∈ ds, last.memory.Provides sources d e (answer e)) ∧
      ∀ e ∈ ds, ∀ shared, last.memory.cache.get? e = some shared → answer e = shared := by
  have hgrows := sources.growsOutside_resolveWithin depth (path.extend d)
  have hmissing : ∀ e ∈ (path.extend d).types, progress.memory.cache.get? e = none := by
    intro e he
    rcases (path.mem_types_extend d e).1 he with he | rfl
    · exact (hpath e he).2
    · exact hcache
  have hanswers := requestAll_answers
    (fun later ↦ Memory.GrowsOutside (path.extend d) progress.memory later.memory)
    (fun later ↦ later.memory.AnswersOn (path.extend d))
    (fun e _ before hbefore ↦ hbefore.trans (hgrows e before))
    (fun e _ before shared later hbefore hshared ↦ ?_)
    (fun e _ f shared before _ hanswer ↦ (hgrows e before).answers hanswer) (.refl _ _) hrun
  · obtain ⟨answer, hparts, hanswer⟩ :=
      exists_answer (fun e shared other hshared hother ↦ hshared.unique hother) hanswers
    refine ⟨answer, hparts, fun e he ↦ ?_, fun e he shared hshared ↦ ?_⟩
    · rcases hanswer e he with ⟨_, hfound⟩ | ⟨hmem, hhollow⟩
      · exact .inl hfound
      · refine .inr ⟨hhollow, ?_⟩
        rcases (path.mem_types_extend d e).1 hmem with hmem | rfl
        · exact (hpath e hmem).1
        · exact Relation.ReflTransGen.refl
    · rcases hanswer e he with ⟨_, hfound⟩ | ⟨hmem, _⟩
      · exact Option.some.inj (hfound.symm.trans hshared)
      · have hlast := Memory.growsOutside_requestAll hgrows ds progress
        rw [hrun, Resolution.reached_ok] at hlast
        rw [hlast.path e hmem, hmissing e hmem] at hshared
        cases hshared
  · have hafter := hbefore.trans (hgrows e before)
    rw [hshared, Resolution.reached_ok] at hafter
    rcases get?_of_resolveWithin hshared with hfound | ⟨hhollow, hmem⟩
    · refine .inl ⟨fun hmem ↦ ?_, hfound⟩
      rw [hafter.path e hmem, hmissing e hmem] at hfound
      cases hfound
    · exact .inr ⟨hmem, hhollow⟩

/-- Requests for what a type requires keep what each request keeps, as the path encloses them. -/
theorem keeps_requestAll {Inv : Progress → Prop} {depth : Nat} {progress : Progress}
    (hstep : ∀ path e before, sources.Enclosed path e before.memory → Inv before →
      Inv (Resolution.reached (sources.resolveWithin depth path e before)))
    (hpath : sources.Enclosed path d progress.memory)
    (hcache : progress.memory.cache.get? d = none) {ds : List Descriptor}
    (hds : ∀ e ∈ ds, sources.Requires d e) (hinv : Inv progress) :
    let last := Resolution.reached
      (requestAll (sources.resolveWithin depth (path.extend d)) ds progress)
    Inv last ∧ Memory.GrowsOutside (path.extend d) progress.memory last.memory :=
  requestAll_keeps
    (fun later ↦ Inv later ∧ Memory.GrowsOutside (path.extend d) progress.memory later.memory)
    (fun e he before hbefore ↦
      ⟨hstep (path.extend d) e before ((hpath.extend hcache (hds e he)).of_grows hbefore.2)
          hbefore.1,
        hbefore.2.trans (sources.growsOutside_resolveWithin depth (path.extend d) e before)⟩)
    ⟨hinv, .refl _ _⟩

/-- What survives a new placeholder and a new triple survives every run. -/
theorem Keeps.resolveWithin {Inv : Progress → Prop} (hkeeps : sources.Keeps Inv) (depth : Nat)
    (path : RequestPath) (d : Descriptor) (progress : Progress)
    (hpath : sources.Enclosed path d progress.memory) (hinv : Inv progress) :
    Inv (Resolution.reached (sources.resolveWithin depth path d progress)) := by
  induction depth generalizing path d progress with
  | zero => exact hinv
  | succ depth ih =>
    have hparts {recipe : Recipe} (hrecipe : sources.recipe d = .ok recipe)
        (hcache : progress.memory.cache.get? d = none) :=
      keeps_requestAll ih hpath hcache (fun e he ↦ ⟨recipe, hrecipe, he⟩) hinv
    have hanswer := sources.answers_resolveWithin depth path d progress
    generalize sources.resolveWithin (depth + 1) path d progress = result at hanswer
    cases hanswer with
    | cached hcache => exact hinv
    | held hcache hmem hhollow => exact hinv
    | placed hcache hmem hhollow => exact hkeeps.hold hinv hhollow
    | unmade hcache hmem hrecipe => exact hinv
    | failed hcache hmem hrecipe hrun =>
      have hreached := hparts hrecipe hcache
      rw [hrun] at hreached
      exact hreached.1
    | made hcache hmem hrecipe hrun hcombine =>
      have hreached := hparts hrecipe hcache
      rw [hrun] at hreached
      obtain ⟨hlast, hgrown⟩ := hreached
      obtain ⟨answer, rfl, hanswer, hexact⟩ := provides_of_requestAll hpath hcache hrun
      have hmissing := (hgrown.path d ((path.mem_types_extend d d).2 (.inr rfl))).trans hcache
      rw [List.map_map] at hcombine
      exact hkeeps.remember hlast hmissing hrecipe hanswer hexact hcombine

/-- A property of triples that newly made triples have if the remembered ones they are made of do.
-/
theorem Keeps.and_cached {Inv : Progress → Prop} (hkeeps : sources.Keeps Inv)
    (Good : Descriptor → Triple → Prop)
    (hmade : ∀ {memory unused d recipe triple later} {answer : Descriptor → SharedTriple},
      Inv ⟨memory, unused⟩ →
      (∀ e shared, memory.cache.get? e = some shared → Good e shared.triple) →
      sources.recipe d = .ok recipe →
      (∀ e ∈ recipe.requirements, memory.Provides sources d e (answer e)) →
      recipe.combine (recipe.requirements.map fun e ↦ (answer e).triple) unused =
        (triple, later) → Good d triple) :
    sources.Keeps fun progress ↦ Inv progress ∧
      ∀ e shared, progress.memory.cache.get? e = some shared → Good e shared.triple where
  idle h hle := ⟨hkeeps.idle h.1 hle, h.2⟩
  hold h hhollow := ⟨hkeeps.hold h.1 hhollow, h.2⟩
  remember {memory unused d recipe triple later answer} h hcache hrecipe hanswer hexact hcombine := by
    refine ⟨hkeeps.remember h.1 hcache hrecipe hanswer hexact hcombine, fun e shared he ↦ ?_⟩
    rcases Memory.get?_of_remember he with ⟨rfl, rfl⟩ | he
    · exact hmade h.1 h.2 hrecipe hanswer hcombine
    · exact h.2 e shared he

end Sources

/-! ### Histories -/

/-- A resolver and the next unused reference number, after a history that began with a resolver that
had not resolved anything, when `start` was the next unused number. Requests may end with an answer
or not, and other references may be made between them. -/
inductive Resolver.Reached (sources : Sources) (start : Nat) : Resolver → Nat → Prop
  | fresh (depthLimit : Nat) : Reached sources start ⟨sources, depthLimit, Memory.empty⟩ start
  | resolve {resolver : Resolver} {unused : Nat} (d : Descriptor) :
    Reached sources start resolver unused →
      Reached sources start (resolver.resolve d unused).1.2 (resolver.resolve d unused).2
  | idle {resolver : Resolver} {unused later : Nat} :
    Reached sources start resolver unused → unused ≤ later → Reached sources start resolver later

namespace Resolver

variable {sources : Sources} {start unused : Nat} {resolver : Resolver}

/-- The run of a request, with its answer. -/
theorem resolveWithin_eq (resolver : Resolver) (path : RequestPath) (d : Descriptor)
    (unused : Nat) :
    resolver.resolveWithin path d unused =
      match resolver.sources.resolveWithin resolver.depthLimit path d
        ⟨resolver.memory, unused⟩ with
      | .ok shared last => ((.ok shared, { resolver with memory := last.memory }), last.unused)
      | .error failure last =>
        ((.error failure, { resolver with memory := last.memory }), last.unused) := by
  unfold resolveWithin perform request
  split <;> rename_i hrun <;> rw [hrun]

theorem Reached.sources_eq (h : Reached sources start resolver unused) :
    resolver.sources = sources := by
  induction h with
  | fresh depthLimit => rfl
  | @resolve resolver unused d _ ih =>
    rw [Resolver.resolve, resolveWithin_eq]
    split <;> exact ih
  | idle _ _ ih => exact ih

/-- The triple that a top-level request is answered with is remembered. -/
theorem cached_of_resolve {d : Descriptor} {shared : SharedTriple}
    (hanswer : (resolver.resolve d unused).1.1 = .ok shared) :
    (resolver.resolve d unused).1.2.memory.cache.get? d = some shared := by
  rw [resolve, resolveWithin_eq] at hanswer ⊢
  cases hrun : resolver.sources.resolveWithin resolver.depthLimit RequestPath.empty d
    ⟨resolver.memory, unused⟩ with
  | error failure last => rw [hrun] at hanswer; cases hanswer
  | ok answer last =>
    rw [hrun] at hanswer
    cases hanswer
    rcases Sources.get?_of_resolveWithin hrun with hcache | ⟨-, hpath⟩
    · exact hcache
    · cases hpath

/-- What the empty memory has and every run keeps is so after every history. -/
theorem Reached.keeps {Inv : Progress → Prop} (hkeeps : sources.Keeps Inv)
    (hstart : Inv ⟨Memory.empty, start⟩) (h : Reached sources start resolver unused) :
    Inv ⟨resolver.memory, unused⟩ := by
  induction h with
  | fresh depthLimit => exact hstart
  | @resolve resolver unused d hbefore ih =>
    have hafter := hkeeps.resolveWithin resolver.depthLimit RequestPath.empty d
      ⟨resolver.memory, unused⟩ (sources.enclosed_empty d resolver.memory) ih
    rw [Resolver.resolve, resolveWithin_eq, hbefore.sources_eq]
    generalize sources.resolveWithin resolver.depthLimit RequestPath.empty d
      ⟨resolver.memory, unused⟩ = result at hafter
    cases result <;> exact hafter
  | idle _ hle ih => exact hkeeps.idle ih hle

/-! ### Answers that are checked -/

theorem eq_error_of_map {ε α : Type} {answer : Except ε α} {failure : ε}
    (h : answer.map (fun _ ↦ ()) = .error failure) : answer = .error failure := by
  cases answer with
  | ok a => cases h
  | error stated =>
    cases h
    rfl

theorem exists_ok_of_isSome {ε α : Type} {answer : Except ε α}
    (h : answer.toOption.isSome = true) : ∃ a, answer = .ok a := by
  cases answer with
  | ok a => exact ⟨a, rfl⟩
  | error failure => cases h

/-- Two answers that pass a check together. -/
theorem exists_oks {α β : Type} {check : α → β → Bool} {first : Except Failure α}
    {second : Except Failure β}
    (h : (first.toOption.bind fun a ↦ second.toOption.map (check a)) = some true) :
    ∃ a b, first = .ok a ∧ second = .ok b ∧ check a b = true := by
  cases first with
  | error failure => cases h
  | ok a =>
    cases second with
    | error failure => cases h
    | ok b => exact ⟨a, b, rfl, rfl, Option.some.inj h⟩

end Resolver

end Exemplar
