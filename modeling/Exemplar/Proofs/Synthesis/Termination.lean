import Exemplar.Proofs.Synthesis.History
import Mathlib.Data.Set.Card
import Mathlib.Order.CompletePartialOrder

/-!
Requests end on cyclic types. A nested request is for a type that the outer one reaches, and it is
made only within a request for a type that was not on the path before. So each nested request leaves
fewer reachable types off its path, and a request nests at most one request more than there are
types it reaches. A limit above that number is never met and makes no difference to the answer.
-/

set_option autoImplicit false
set_option relaxedAutoImplicit false

namespace Exemplar

/-! ### Requests in a row -/

section RequestAll

variable {request other : Request} {ds : List Descriptor} {progress stopped : Progress}
variable {failure : Failure}

/-- Requests in a row fail at the first one that fails. -/
theorem requestAll_eq_error_iff :
    requestAll request ds progress = .error failure stopped ↔
      ∃ before e after parts middle, ds = before ++ e :: after ∧
        requestAll request before progress = .ok parts middle ∧
        request e middle = .error failure stopped := by
  induction ds generalizing progress with
  | nil =>
    refine ⟨nofun, ?_⟩
    rintro ⟨before, e, after, parts, middle, hds, -⟩
    simp at hds
  | cons d ds ih =>
    constructor
    · intro hrun
      cases hfirst : request d progress with
      | error first reached =>
        rw [requestAll_cons_of_error hfirst] at hrun
        cases hrun
        exact ⟨[], d, ds, [], progress, rfl, rfl, hfirst⟩
      | ok shared next =>
        rw [requestAll_cons_of_ok hfirst] at hrun
        cases hothers : requestAll request ds next with
        | ok parts last => rw [hothers] at hrun; cases hrun
        | error first reached =>
          rw [hothers] at hrun
          cases hrun
          obtain ⟨before, e, after, parts, middle, rfl, hbefore, hlast⟩ := ih.1 hothers
          refine ⟨d :: before, e, after, shared :: parts, middle, rfl, ?_, hlast⟩
          rw [requestAll_cons_of_ok hfirst, hbefore]
    · rintro ⟨before, e, after, parts, middle, hds, hbefore, hlast⟩
      cases before with
      | nil =>
        cases hds
        cases hbefore
        exact requestAll_cons_of_error hlast
      | cons first before =>
        cases hds
        obtain ⟨shared, next, others, hfirst, hothers, -⟩ := requestAll_cons_eq_ok_iff.1 hbefore
        rw [requestAll_cons_of_ok hfirst,
          ih.2 ⟨before, e, after, others, middle, rfl, hothers, hlast⟩]

/-- Requests in a row give the same answers by other means that agree on each of them, as long as no
limit is met. -/
theorem requestAll_congr
    (hagree : ∀ d progress, (∀ reached, request d progress ≠ .error .tooDeep reached) →
      other d progress = request d progress)
    (hends : ∀ reached, requestAll request ds progress ≠ .error .tooDeep reached) :
    requestAll other ds progress = requestAll request ds progress := by
  induction ds generalizing progress with
  | nil => rfl
  | cons d ds ih =>
    have hsame : other d progress = request d progress :=
      hagree d progress fun reached hrun ↦ hends reached (requestAll_cons_of_error hrun)
    cases hfirst : request d progress with
    | error first reached =>
      rw [requestAll_cons_of_error hfirst, requestAll_cons_of_error (hsame.trans hfirst)]
    | ok shared next =>
      rw [requestAll_cons_of_ok hfirst] at hends ⊢
      rw [requestAll_cons_of_ok (hsame.trans hfirst), ih fun reached hrun ↦ ?_]
      refine hends reached ?_
      rw [hrun]

end RequestAll

namespace Sources

variable {sources : Sources} {depth : Nat} {path : RequestPath} {d e : Descriptor}
variable {progress : Progress}

/-! ### Nested requests -/

/-- A request makes a chain of nested requests of the given length, the request itself included. The
next request of a chain is made when those before it were answered. -/
inductive Nests (sources : Sources) :
    Nat → RequestPath → Descriptor → Progress → Nat → Prop
  | outermost (depth : Nat) (path : RequestPath) (d : Descriptor) (progress : Progress) :
    Nests sources depth path d progress 1
  | within {depth : Nat} {path : RequestPath} {d e : Descriptor} {progress middle : Progress}
    {recipe : Recipe} {before after : List Descriptor} {parts : List SharedTriple} {length : Nat}
    (hcache : progress.memory.cache.get? d = none) (hpath : d ∉ path.types)
    (hrecipe : sources.recipe d = .ok recipe) (hsplit : recipe.requirements = before ++ e :: after)
    (hbefore : requestAll (sources.resolveWithin depth (path.extend d)) before progress =
      .ok parts middle)
    (hnested : Nests sources depth (path.extend d) e middle length) :
    Nests sources (depth + 1) path d progress (length + 1)

theorem resolveWithin_eq_follow (hcache : progress.memory.cache.get? d = none)
    (hpath : d ∉ path.types) :
    sources.resolveWithin (depth + 1) path d progress =
      ((Resolution.ofExcept (sources.recipe d) >>=
        Recipe.follow (sources.resolveWithin depth (path.extend d))) >>=
        Resolution.remember d) progress := by
  rw [resolveWithin_of_not_cached hcache, if_neg hpath,
    create_eq_follow sources (sources.resolveWithin_isFinal depth (path.extend d))]

theorem resolveWithin_of_failed {recipe : Recipe} {failure : Failure} {reached : Progress}
    (hcache : progress.memory.cache.get? d = none) (hpath : d ∉ path.types)
    (hrecipe : sources.recipe d = .ok recipe)
    (hparts : requestAll (sources.resolveWithin depth (path.extend d)) recipe.requirements
      progress = .error failure reached) :
    sources.resolveWithin (depth + 1) path d progress = .error failure reached := by
  rw [resolveWithin_eq_follow hcache hpath, hrecipe, Resolution.ofExcept_ok_bind]
  exact Resolution.bind_of_error (Resolution.bind_of_error hparts _) _

/-- A limit is met exactly by the requests that make a chain longer than the limit. -/
theorem tooDeep_iff_nests :
    (∃ reached, sources.resolveWithin depth path d progress = .error .tooDeep reached) ↔
      sources.Nests depth path d progress (depth + 1) := by
  constructor
  · rintro ⟨reached, hrun⟩
    induction depth generalizing path d progress reached with
    | zero => exact .outermost 0 path d progress
    | succ depth ih =>
      have hanswer := sources.answers_resolveWithin depth path d progress
      rw [hrun] at hanswer
      cases hanswer with
      | failed hcache hpath hrecipe hparts =>
        obtain ⟨before, e, after, parts, middle, hsplit, hbefore, hlast⟩ :=
          requestAll_eq_error_iff.1 hparts
        exact .within hcache hpath hrecipe hsplit hbefore (ih reached hlast)
  · intro hnests
    induction depth generalizing path d progress with
    | zero => exact ⟨progress, rfl⟩
    | succ depth ih =>
      cases hnests with
      | within hcache hpath hrecipe hsplit hbefore hnested =>
        obtain ⟨reached, hlast⟩ := ih hnested
        exact ⟨reached, resolveWithin_of_failed hcache hpath hrecipe
          (requestAll_eq_error_iff.2 ⟨_, _, _, _, _, hsplit, hbefore, hlast⟩)⟩

/-- A request that does not meet its limit is answered alike under every higher limit. -/
theorem resolveWithin_succ_eq
    (hends : ∀ reached, sources.resolveWithin depth path d progress ≠ .error .tooDeep reached) :
    sources.resolveWithin (depth + 1) path d progress =
      sources.resolveWithin depth path d progress := by
  induction depth generalizing path d progress with
  | zero => exact absurd rfl (hends progress)
  | succ depth ih =>
    cases hcache : progress.memory.cache.get? d with
    | some shared => rw [resolveWithin_of_cached _ _ _ hcache, resolveWithin_of_cached _ _ _ hcache]
    | none =>
      by_cases hpath : d ∈ path.types
      · rw [resolveWithin_of_not_cached hcache, resolveWithin_of_not_cached hcache, if_pos hpath,
          if_pos hpath]
      · rw [resolveWithin_eq_follow hcache hpath, resolveWithin_eq_follow hcache hpath]
        cases hrecipe : sources.recipe d with
        | error fault => rfl
        | ok recipe =>
          have hparts := requestAll_congr (fun e before hend ↦ @ih (path.extend d) e before hend)
            (fun reached hrun ↦ hends reached
              (resolveWithin_of_failed hcache hpath hrecipe hrun))
          exact Resolution.bind_congr_run (Resolution.bind_congr_run hparts _) _

theorem resolveWithin_eq_of_le {more : Nat} (hle : depth ≤ more)
    (hends : ∀ reached, sources.resolveWithin depth path d progress ≠ .error .tooDeep reached) :
    sources.resolveWithin more path d progress =
      sources.resolveWithin depth path d progress := by
  induction more, hle using Nat.le_induction with
  | base => rfl
  | succ more _ ih => rw [resolveWithin_succ_eq (by rwa [ih]), ih]

/-! ### The bound -/

/-- The types that a type reaches and that are not on a path. -/
def offPath (sources : Sources) (path : RequestPath) (d : Descriptor) : Set Descriptor :=
  sources.reachable d \ {e | e ∈ path.types}

theorem offPath_subset (sources : Sources) (path : RequestPath) (d : Descriptor) :
    sources.offPath path d ⊆ sources.reachable d :=
  Set.sdiff_subset

/-- A nested request has fewer reachable types off its path: the type of the outer request is one
that it has no more. -/
theorem offPath_ssubset_of_requires (hpath : d ∉ path.types) (hrequires : sources.Requires d e) :
    sources.offPath (path.extend d) e ⊂ sources.offPath path d := by
  refine Set.ssubset_iff_of_subset (fun f hf ↦ ?_) |>.2 ⟨d, ?_, fun hd ↦ hd.2 ?_⟩
  · exact ⟨hrequires.reachable_subset hf.1,
      fun hmem ↦ hf.2 ((path.mem_types_extend d f).2 (.inl hmem))⟩
  · exact ⟨sources.mem_reachable_self d, hpath⟩
  · exact (path.mem_types_extend d d).2 (.inr rfl)

/-- A chain of nested requests enters each reachable type off the path at most once, and may end
with a request for a type that was entered before. -/
theorem Nests.length_le {length : Nat} (hnests : sources.Nests depth path d progress length)
    (hfinite : (sources.reachable d).Finite) :
    length ≤ (sources.offPath path d).ncard + 1 := by
  induction hnests with
  | outermost depth path d progress => omega
  | @within depth path d e progress middle recipe before after parts length hcache hpath hrecipe
      hsplit hbefore hnested ih =>
    have hrequires : sources.Requires d e := ⟨recipe, hrecipe, by simp [hsplit]⟩
    have hinner := ih (hfinite.subset hrequires.reachable_subset)
    have hfewer := Set.ncard_lt_ncard (offPath_ssubset_of_requires hpath hrequires)
      (hfinite.subset (sources.offPath_subset path d))
    omega

theorem Nests.length_le_ncard_reachable {length : Nat}
    (hnests : sources.Nests depth path d progress length)
    (hfinite : (sources.reachable d).Finite) : length ≤ (sources.reachable d).ncard + 1 :=
  (hnests.length_le hfinite).trans
    (Nat.succ_le_succ (Set.ncard_le_ncard (sources.offPath_subset path d) hfinite))

/-- A limit above the number of reachable types is never met. -/
theorem resolveWithin_ne_tooDeep (path : RequestPath) (progress : Progress)
    (hfinite : (sources.reachable d).Finite) (hdepth : (sources.reachable d).ncard < depth)
    (reached : Progress) :
    sources.resolveWithin depth path d progress ≠ .error .tooDeep reached := by
  intro hrun
  have hlength := (tooDeep_iff_nests.1 ⟨reached, hrun⟩).length_le_ncard_reachable hfinite
  omega

end Sources

namespace Resolver

/-- A request for a type that reaches finitely many types ends, whatever the resolver remembers and
whichever requests enclose it. Under every limit above the number of reachable types it ends with
the same answer or the same fault, and no chain of nested requests is longer than that number and
one. -/
theorem resolveWithin_ends_of_finite_reachable (sources : Sources) (memory : Memory)
    (path : RequestPath) (d : Descriptor) (unused : Nat)
    (hfinite : (sources.reachable d).Finite) :
    (∃ (answer : Except Fault SharedTriple) (later : Memory) (last : Nat), ∀ limit,
      (sources.reachable d).ncard < limit →
        (Resolver.mk sources limit memory).resolveWithin path d unused =
          ((answer.mapError Failure.fault, ⟨sources, limit, later⟩), last)) ∧
    ∀ limit length, sources.Nests limit path d ⟨memory, unused⟩ length →
      length ≤ (sources.reachable d).ncard + 1 := by
  refine ⟨?_, fun limit length hnests ↦ hnests.length_le_ncard_reachable hfinite⟩
  have hends := Sources.resolveWithin_ne_tooDeep path ⟨memory, unused⟩ hfinite
    (Nat.lt_succ_self _)
  cases hrun : sources.resolveWithin ((sources.reachable d).ncard + 1) path d
    ⟨memory, unused⟩ with
  | ok shared reached =>
    refine ⟨.ok shared, reached.memory, reached.unused, fun limit hlimit ↦ ?_⟩
    have hsame := Sources.resolveWithin_eq_of_le hlimit hends
    rw [resolveWithin_eq, hsame, hrun]
    rfl
  | error failure reached =>
    cases failure with
    | tooDeep => exact absurd hrun (hends reached)
    | fault fault =>
      refine ⟨.error fault, reached.memory, reached.unused, fun limit hlimit ↦ ?_⟩
      have hsame := Sources.resolveWithin_eq_of_le hlimit hends
      rw [resolveWithin_eq, hsame, hrun]
      rfl

/-- Maps between root types require nothing but themselves, so two nested requests answer them. -/
theorem resolveWithin_ends_for_root_maps :
    (Sources.rootMaps.reachable .object).Finite ∧
    (∃ (answer : Except Fault SharedTriple) (later : Memory) (last : Nat), ∀ limit,
      (Sources.rootMaps.reachable .object).ncard < limit →
        (Resolver.mk Sources.rootMaps limit Memory.empty).resolveWithin .empty .object 0 =
          ((answer.mapError Failure.fault, ⟨Sources.rootMaps, limit, later⟩), last)) ∧
    ∀ limit length, Sources.rootMaps.Nests limit .empty .object ⟨Memory.empty, 0⟩ length →
      length ≤ (Sources.rootMaps.reachable .object).ncard + 1 := by
  have hfinite : (Sources.rootMaps.reachable .object).Finite := by
    rw [Sources.reachable_rootMaps]
    exact Set.finite_singleton _
  exact ⟨hfinite, resolveWithin_ends_of_finite_reachable Sources.rootMaps Memory.empty .empty
    .object 0 hfinite⟩

end Resolver

end Exemplar
