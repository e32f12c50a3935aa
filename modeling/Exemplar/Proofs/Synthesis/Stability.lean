import Exemplar.Proofs.Synthesis.Consistency
import Exemplar.Proofs.Synthesis.Coverage
import Exemplar.Proofs.Synthesis.Termination

/-!
What requests do to the memory of a resolver, whatever it remembers and whatever path a request is
given. A triple is remembered at the end of its request, without a look at what is remembered by
then. Nothing is replaced all the same, because the nested requests have the type on their path. So
memory only grows, also in the course of a request, and it grows by types that the requested one
reaches.
-/

set_option autoImplicit false
set_option relaxedAutoImplicit false

namespace Exemplar

/-! ### Requests in a row, from one of them on -/

/-- Requests that follow answered ones end where they would end by themselves. -/
theorem reached_requestAll_append {request : Request} {before after : List Descriptor}
    {progress middle : Progress} {parts : List SharedTriple}
    (hbefore : requestAll request before progress = .ok parts middle) :
    Resolution.reached (requestAll request (before ++ after) progress) =
      Resolution.reached (requestAll request after middle) := by
  induction before generalizing progress parts with
  | nil =>
    cases hbefore
    rfl
  | cons d before ih =>
    obtain ⟨shared, next, others, hfirst, hothers, -⟩ := requestAll_cons_eq_ok_iff.1 hbefore
    rw [List.cons_append, requestAll_cons_of_ok hfirst, ← ih hothers]
    cases requestAll request (before ++ after) next <;> rfl

/-- After the first of several requests the others only grow the memory further. -/
theorem Memory.growsOutside_of_first {path : RequestPath} {request : Request}
    (hrequest : ∀ d progress,
      GrowsOutside path progress.memory (Resolution.reached (request d progress)).memory)
    (e : Descriptor) (after : List Descriptor) (middle : Progress) :
    GrowsOutside path (Resolution.reached (request e middle)).memory
      (Resolution.reached (requestAll request (e :: after) middle)).memory := by
  cases hfirst : request e middle with
  | error failure stopped =>
    rw [requestAll_cons_of_error hfirst]
    exact .refl path _
  | ok shared next =>
    have hothers := growsOutside_requestAll hrequest after next
    rw [requestAll_cons_of_ok hfirst]
    cases hrun : requestAll request after next <;> rwa [hrun] at hothers

namespace Sources

variable {sources : Sources} {depth : Nat} {path : RequestPath} {d e : Descriptor}
variable {progress moment : Progress}

/-! ### In the course of a request -/

/-- The states through which a request passes: the one in which it is made, the one in which it
ends, and those through which the requests pass that it makes. Between any two of them only new
references are made. -/
inductive Passes (sources : Sources) :
    Nat → RequestPath → Descriptor → Progress → Progress → Prop
  | start (depth : Nat) (path : RequestPath) (d : Descriptor) (progress : Progress) :
    Passes sources depth path d progress progress
  | finish (depth : Nat) (path : RequestPath) (d : Descriptor) (progress : Progress) :
    Passes sources depth path d progress
      (Resolution.reached (sources.resolveWithin depth path d progress))
  | within {depth : Nat} {path : RequestPath} {d e : Descriptor}
    {progress middle moment : Progress} {recipe : Recipe} {before after : List Descriptor}
    {parts : List SharedTriple} (hcache : progress.memory.cache.get? d = none)
    (hpath : d ∉ path.types) (hrecipe : sources.recipe d = .ok recipe)
    (hsplit : recipe.requirements = before ++ e :: after)
    (hbefore : requestAll (sources.resolveWithin depth (path.extend d)) before progress =
      .ok parts middle)
    (hnested : Passes sources depth (path.extend d) e middle moment) :
    Passes sources (depth + 1) path d progress moment

/-- What a request has reached when the requests it makes have ended is not changed by its own end.
-/
theorem growsOutside_of_requirements {recipe : Recipe}
    (hcache : progress.memory.cache.get? d = none) (hpath : d ∉ path.types)
    (hrecipe : sources.recipe d = .ok recipe) :
    Memory.GrowsOutside path
      (Resolution.reached (requestAll (sources.resolveWithin depth (path.extend d))
        recipe.requirements progress)).memory
      (Resolution.reached (sources.resolveWithin (depth + 1) path d progress)).memory := by
  have hgrown := Memory.growsOutside_requestAll
    (sources.growsOutside_resolveWithin depth (path.extend d)) recipe.requirements progress
  have hanswer := sources.answers_resolveWithin depth path d progress
  generalize sources.resolveWithin (depth + 1) path d progress = result at hanswer
  cases hanswer with
  | cached hfound => rw [hcache] at hfound; cases hfound
  | held _ hmem => exact absurd hmem hpath
  | placed _ hmem => exact absurd hmem hpath
  | unmade _ _ hmissing => rw [hrecipe] at hmissing; cases hmissing
  | failed _ _ hfound hparts =>
    rw [hrecipe] at hfound
    cases hfound
    rw [hparts]
    exact .refl path _
  | made _ _ hfound hparts hcombine =>
    rw [hrecipe] at hfound
    cases hfound
    rw [hparts, Resolution.reached_ok] at hgrown ⊢
    have hmissing := (hgrown.path d ((path.mem_types_extend d d).2 (.inr rfl))).trans hcache
    exact Memory.growsOutside_remember hmissing hpath

/-- At no moment of a request is anything forgotten or replaced that was remembered by then. -/
theorem Passes.growsOutside (h : sources.Passes depth path d progress moment) :
    Memory.GrowsOutside path progress.memory moment.memory ∧
      Memory.GrowsOutside path moment.memory
        (Resolution.reached (sources.resolveWithin depth path d progress)).memory := by
  induction h with
  | start depth path d progress =>
    exact ⟨.refl path _, sources.growsOutside_resolveWithin depth path d progress⟩
  | finish depth path d progress =>
    exact ⟨sources.growsOutside_resolveWithin depth path d progress, .refl path _⟩
  | @within depth path d e progress middle moment recipe before after parts hcache hpath hrecipe
      hsplit hbefore _ ih =>
    have hgrows := sources.growsOutside_resolveWithin depth (path.extend d)
    have hstart := Memory.growsOutside_requestAll hgrows before progress
    rw [hbefore, Resolution.reached_ok] at hstart
    have hrest := Memory.growsOutside_of_first hgrows e after middle
    rw [← reached_requestAll_append hbefore, ← hsplit] at hrest
    exact ⟨(hstart.trans ih.1).of_extend,
      (ih.2.trans hrest).of_extend.trans (growsOutside_of_requirements hcache hpath hrecipe)⟩

/-! ### What a request adds -/

/-- A request adds no type to the remembered ones that the requested type does not reach. -/
theorem reaches_of_get?_ne
    (hchanged : (Resolution.reached
        (sources.resolveWithin depth path d progress)).memory.cache.get? e ≠
      progress.memory.cache.get? e) : sources.Reaches d e := by
  induction depth generalizing path d progress e with
  | zero => exact absurd rfl hchanged
  | succ depth ih =>
    have hparts {recipe : Recipe} (hrecipe : sources.recipe d = .ok recipe) :
        ∀ f, (Resolution.reached (requestAll (sources.resolveWithin depth (path.extend d))
            recipe.requirements progress)).memory.cache.get? f ≠
          progress.memory.cache.get? f → sources.Reaches d f :=
      requestAll_keeps
        (fun later ↦ ∀ f, later.memory.cache.get? f ≠ progress.memory.cache.get? f →
          sources.Reaches d f)
        (fun g hg before hbefore f hf ↦ by
          by_cases hsame : before.memory.cache.get? f = progress.memory.cache.get? f
          · rw [← hsame] at hf
            exact Relation.ReflTransGen.head ⟨recipe, hrecipe, hg⟩ (ih hf)
          · exact hbefore f hsame)
        (fun f hf ↦ absurd rfl hf)
    have hanswer := sources.answers_resolveWithin depth path d progress
    generalize sources.resolveWithin (depth + 1) path d progress = result at hanswer hchanged
    cases hanswer with
    | cached | held | placed | unmade => exact absurd rfl hchanged
    | failed _ _ hrecipe hrun =>
      have hreached := hparts hrecipe
      rw [hrun] at hreached
      exact hreached e hchanged
    | made _ _ hrecipe hrun hcombine =>
      by_cases hsame : d = e
      · exact hsame ▸ Relation.ReflTransGen.refl
      · have hreached := hparts hrecipe
        rw [hrun] at hreached
        exact hreached e (by simpa [Memory.remember, hsame] using hchanged)

/-- After a request the requested type is remembered if it was so before, or if the request was
answered and not for a type on its path. -/
theorem contains_after_resolveWithin_iff (sources : Sources) (depth : Nat) (path : RequestPath)
    (d : Descriptor) (progress : Progress) :
    (Resolution.reached
        (sources.resolveWithin depth path d progress)).memory.cache.contains d = true ↔
      progress.memory.cache.contains d = true ∨
        d ∉ path.types ∧ ∃ shared last,
          sources.resolveWithin depth path d progress = .ok shared last := by
  cases depth with
  | zero =>
    have hrun : sources.resolveWithin 0 path d progress = .error .tooDeep progress := rfl
    simp [hrun]
  | succ depth =>
    have hanswer := sources.answers_resolveWithin depth path d progress
    generalize sources.resolveWithin (depth + 1) path d progress = result at hanswer
    cases hanswer with
    | cached hcache => simp [Table.contains_of_get? hcache]
    | held _ hpath => simp [hpath]
    | placed _ hpath => simp [Memory.hold, hpath]
    | unmade => simp
    | @failed recipe failure stopped hcache hpath hrecipe hparts =>
      have hgrown := Memory.growsOutside_requestAll
        (sources.growsOutside_resolveWithin depth (path.extend d)) recipe.requirements progress
      rw [hparts, Resolution.reached_error] at hgrown
      have hsame := hgrown.path d ((path.mem_types_extend d d).2 (.inr rfl))
      simp [Table.contains, hsame]
    | made _ hpath => simp [Memory.remember, Table.contains, hpath]

end Sources

/-! ### Sequences of requests -/

namespace Resolver

/-- A resolver and the next unused reference number, after requests within any paths that followed
the given state, answered or not. Other references may be made between them. -/
inductive Continues (first : Resolver) (start : Nat) : Resolver → Nat → Prop
  | refl : Continues first start first start
  | resolve {resolver : Resolver} {unused : Nat} (d : Descriptor) :
    Continues first start resolver unused →
      Continues first start (resolver.resolve d unused).1.2 (resolver.resolve d unused).2
  | resolveWithin {resolver : Resolver} {unused : Nat} (path : RequestPath) (d : Descriptor) :
    Continues first start resolver unused →
      Continues first start (resolver.resolveWithin path d unused).1.2
        (resolver.resolveWithin path d unused).2
  | idle {resolver : Resolver} {unused : Nat} (later : Nat) :
    Continues first start resolver unused → Continues first start resolver later

variable {first resolver : Resolver} {start unused : Nat} {path : RequestPath} {d e : Descriptor}

/-- A request changes nothing of a resolver but its memory. -/
theorem resolveWithin_memory (resolver : Resolver) (path : RequestPath) (d : Descriptor)
    (unused : Nat) :
    (resolver.resolveWithin path d unused).1.2 =
      { resolver with memory := (Resolution.reached (resolver.sources.resolveWithin
        resolver.depthLimit path d ⟨resolver.memory, unused⟩)).memory } := by
  rw [resolveWithin_eq]
  split <;> rename_i hrun <;> rw [hrun] <;> rfl

theorem exists_resolveWithin_eq_ok_iff :
    (∃ shared, (resolver.resolveWithin path d unused).1.1 = .ok shared) ↔
      ∃ shared last, resolver.sources.resolveWithin resolver.depthLimit path d
        ⟨resolver.memory, unused⟩ = .ok shared last := by
  rw [resolveWithin_eq]
  split <;> rename_i hrun <;> simp [hrun]

/-- Sequences of requests keep what each request keeps, and they leave the rest of the resolver as
it is. -/
theorem Continues.grows (h : Continues first start resolver unused) :
    resolver.depthLimit = first.depthLimit ∧
      Memory.GrowsOutside RequestPath.empty first.memory resolver.memory := by
  have hstep {resolver : Resolver} {unused : Nat} (path : RequestPath) (d : Descriptor)
      (hbefore : resolver.depthLimit = first.depthLimit ∧
        Memory.GrowsOutside RequestPath.empty first.memory resolver.memory) :
      (resolver.resolveWithin path d unused).1.2.depthLimit = first.depthLimit ∧
        Memory.GrowsOutside RequestPath.empty first.memory
          (resolver.resolveWithin path d unused).1.2.memory := by
    have hgrown := resolver.sources.growsOutside_resolveWithin resolver.depthLimit path d
      ⟨resolver.memory, unused⟩
    rw [resolveWithin_memory]
    exact ⟨hbefore.1, hbefore.2.trans ⟨hgrown.cache, hgrown.hollows, fun _ hmem ↦ by cases hmem⟩⟩
  induction h with
  | refl => exact ⟨rfl, .refl _ _⟩
  | resolve d _ ih => exact hstep .empty d ih
  | resolveWithin path d _ ih => exact hstep path d ih
  | idle later _ ih => exact ih

/-- In any state of a resolver that may make requests at all, and after any further requests within
any paths, answered or not: what was remembered still is, and every request for it is answered by
the same triple. The next request replaces nothing either, not even in its course, adds only types
that the requested one reaches and that were not remembered, and leaves the requested type
remembered exactly if it was so before or the request was answered and not for a type on its path.
-/
theorem Continues.memory_only_grows_by_reachable_types (hlimit : first.depthLimit ≠ 0)
    (h : Continues first start resolver unused) :
    (∀ e shared, first.memory.cache.get? e = some shared →
      resolver.memory.cache.get? e = some shared ∧ ∀ path number,
        resolver.resolveWithin path e number = ((.ok shared, resolver), number)) ∧
    ∀ path d,
      (∀ moment, resolver.sources.Passes resolver.depthLimit path d ⟨resolver.memory, unused⟩
          moment → ∀ e shared,
        (resolver.memory.cache.get? e = some shared →
          moment.memory.cache.get? e = some shared) ∧
        (moment.memory.cache.get? e = some shared →
          (resolver.resolveWithin path d unused).1.2.memory.cache.get? e = some shared)) ∧
      (∀ e, (resolver.resolveWithin path d unused).1.2.memory.cache.get? e ≠
          resolver.memory.cache.get? e →
        resolver.isCached e = false ∧ e ∈ resolver.sources.reachable d) ∧
      ((resolver.resolveWithin path d unused).1.2.isCached d = true ↔
        resolver.isCached d = true ∨ path.contains d = false ∧
          ∃ shared, (resolver.resolveWithin path d unused).1.1 = .ok shared) := by
  obtain ⟨hsame, hgrown⟩ := h.grows
  refine ⟨fun e shared he ↦ ?_, fun path d ↦ ⟨fun moment hmoment e shared ↦ ?_, fun e he ↦ ?_, ?_⟩⟩
  · have hcache := hgrown.cache e shared he
    exact ⟨hcache, resolveWithin_of_cached (hsame ▸ hlimit) hcache⟩
  · obtain ⟨hearlier, hlater⟩ := hmoment.growsOutside
    rw [resolveWithin_memory]
    exact ⟨hearlier.cache e shared, hlater.cache e shared⟩
  · rw [resolveWithin_memory] at he
    refine ⟨?_, Sources.reaches_of_get?_ne he⟩
    cases hcache : resolver.memory.cache.get? e with
    | none => exact Table.contains_eq_false_iff.2 hcache
    | some shared =>
      have hkept := (resolver.sources.growsOutside_resolveWithin resolver.depthLimit path d
        ⟨resolver.memory, unused⟩).cache e shared hcache
      exact absurd (hkept.trans hcache.symm) he
  · have hpath : path.contains d = false ↔ d ∉ path.types := by
      rw [← path.contains_iff_mem_types, Bool.not_eq_true]
    rw [resolveWithin_memory, exists_resolveWithin_eq_ok_iff, hpath]
    exact resolver.sources.contains_after_resolveWithin_iff resolver.depthLimit path d
      ⟨resolver.memory, unused⟩

end Resolver

/-- The resolver that has failed to resolve `A`. -/
def Loop.failedResolver : Resolver :=
  ((newResolver brokenSources).resolve typeA 0).1.2

/-- The failed request for `A` has made `B`. After `A` has failed once more, requests for `B` are
still answered by the same triple, even if they are made within a request for `B`. -/
theorem Resolver.Continues.made_type_outlives_failed_requests :
    Loop.failedResolver.depthLimit ≠ 0 ∧
    (Loop.failedResolver.resolve Loop.typeA 3).1.1 = .error Loop.missing ∧
    ∃ shared : SharedTriple,
      Loop.failedResolver.memory.cache.get? Loop.typeB = some shared ∧
      ∀ number, (Loop.failedResolver.resolve Loop.typeA 3).1.2.resolveWithin
          (.ofList [Loop.typeB]) Loop.typeB number =
        ((.ok shared, (Loop.failedResolver.resolve Loop.typeA 3).1.2), number) := by
  have hlimit : Loop.failedResolver.depthLimit ≠ 0 := by decide +kernel
  have hcached : (Loop.failedResolver.memory.cache.get? Loop.typeB).isSome = true := by
    decide +kernel
  obtain ⟨shared, hshared⟩ := Option.isSome_iff_exists.1 hcached
  have hkept := Continues.memory_only_grows_by_reachable_types hlimit
    ((@Continues.refl Loop.failedResolver 3).resolve Loop.typeA)
  exact ⟨hlimit, eq_error_of_map (by decide +kernel), shared, hshared,
    (hkept.1 Loop.typeB shared hshared).2 (.ofList [Loop.typeB])⟩

end Exemplar
