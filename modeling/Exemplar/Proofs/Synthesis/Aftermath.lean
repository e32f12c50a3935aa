import Exemplar.Proofs.Synthesis.Blame

/-!
What a failed request leaves behind. The failed type and those that enclosed the failure are not
remembered, but types that were made before it are, also those that were made around a placeholder
of a type that could not be made in the end. Later requests skip them. So no later request fails for
the failed one, the same request fails again, and a request for another type may find remembered
what it could not have made.
-/

set_option autoImplicit false
set_option relaxedAutoImplicit false

namespace Exemplar

/-! ### Requests to a resolver that remembers types -/

namespace Traversal

variable {sources : Sources} {d e : Descriptor} {visited order : List Descriptor}

/-- A traversal from a type comes to visited types and to what the type reaches outside of them. -/
theorem Leads.reachesOutside {pending : List Descriptor}
    (h : Leads sources ⟨visited, [d]⟩ ⟨order, e :: pending⟩) (he : e ∉ order) :
    sources.ReachesOutside {f | f ∈ visited} d e := by
  have hvisited : e ∉ visited := fun hmem ↦ he (Leads.visited_isPrefix h |>.subset hmem)
  have hmem := h.pending_subset
    {f | f ∈ visited ∨ sources.ReachesOutside {f | f ∈ visited} d f}
    (fun f hf hnew g hg ↦ ?_) (fun f hf ↦ ?_) e List.mem_cons_self
  · exact hmem.resolve_left hvisited
  · by_cases hgvisited : g ∈ visited
    · exact .inl hgvisited
    · exact .inr ((hf.resolve_left hnew).tail hg hgvisited)
  · rw [List.mem_singleton.1 hf]
    by_cases hd : d ∈ visited
    · exact .inl hd
    · exact .inr (.self hd)

end Traversal

namespace Resolver

/-- In any state, a type that reaches finitely many types is resolved exactly if all types can be
made by themselves that it reaches outside of the remembered ones. -/
theorem resolve_succeeds_iff (resolver : Resolver) (d : Descriptor) (unused : Nat)
    (hfinite : (resolver.sources.reachable d).Finite)
    (hlimit : (resolver.sources.reachable d).ncard < resolver.depthLimit) :
    (∃ shared, (resolver.resolve d unused).1.1 = .ok shared) ↔
      ∀ e, resolver.sources.ReachesOutside {f | resolver.isCached f = true} d e →
        resolver.sources.IsBuildable e := by
  have hlists := resolver.memory.lists_keys_append .empty
  have hcached : {f | resolver.isCached f = true} =
      {f | f ∈ resolver.memory.cache.keys ++ RequestPath.empty.types} :=
    Set.ext fun f ↦ hlists.mem_iff.symm
  rw [hcached, resolve, resolveWithin_eq]
  cases hrun : resolver.sources.resolveWithin resolver.depthLimit .empty d
    ⟨resolver.memory, unused⟩ with
  | ok shared last =>
    obtain ⟨order, hwalk⟩ := Sources.walks_resolveWithin hlists hrun
    refine iff_of_true ⟨shared, rfl⟩ fun e he ↦ ?_
    have hmem : e ∈ order := (Traversal.Leads.mem_iff (hwalk.leads [])).2
      (.inr ⟨d, List.mem_singleton_self d, he⟩)
    exact Sources.isBuildable_iff.2 ((hwalk.made e hmem).resolve_left he.not_mem)
  | error failure last =>
    cases failure with
    | tooDeep =>
      exact absurd hrun (Sources.resolveWithin_ne_tooDeep .empty _ hfinite hlimit last)
    | fault fault =>
      obtain ⟨chain, hchain⟩ := Sources.exists_failsThrough hrun
      obtain ⟨order, e, _, hrecipe, he, _, hleads⟩ := hchain.leads hlists
      obtain ⟨pending, hcome⟩ := hleads []
      refine iff_of_false (by simp) fun hall ↦ ?_
      exact Sources.not_isBuildable_of_recipe hrecipe (hall e (hcome.reachesOutside he))

end Resolver

/-! ### The same request again -/

namespace Sources

variable {sources : Sources} {fault : Fault} {depth : Nat} {path : RequestPath}
variable {d : Descriptor} {progress reached : Progress} {chain : List Descriptor}

/-- Within a path, a request for a type would be answered without making anything. -/
def Settled (path : RequestPath) (memory : Memory) (d : Descriptor) : Prop :=
  memory.cache.contains d = true ∨ d ∈ path.types ∧ memory.hollows.contains d = true

theorem Settled.of_grows {other : RequestPath} {earlier later : Memory}
    (h : Settled path earlier d) (hgrows : Memory.GrowsOutside other earlier later) :
    Settled path later d := by
  rcases h with hcache | ⟨hpath, hhollow⟩
  · obtain ⟨shared, hshared⟩ := Option.isSome_iff_exists.1 hcache
    exact .inl (Table.contains_of_get? (hgrows.cache d shared hshared))
  · obtain ⟨shared, hshared⟩ := Option.isSome_iff_exists.1 hhollow
    exact .inr ⟨hpath, Table.contains_of_get? (hgrows.hollows d shared hshared)⟩

/-- A settled request changes nothing. -/
theorem resolveWithin_of_settled (sources : Sources) (depth : Nat)
    (h : Settled path progress.memory d) :
    ∃ shared, sources.resolveWithin (depth + 1) path d progress = .ok shared progress := by
  cases hcache : progress.memory.cache.get? d with
  | some shared => exact ⟨shared, resolveWithin_of_cached sources depth path hcache⟩
  | none =>
    rcases h with hcontains | ⟨hpath, hhollow⟩
    · rw [Table.contains_eq_false_iff.2 hcache] at hcontains
      cases hcontains
    · obtain ⟨shared, hshared⟩ := Option.isSome_iff_exists.1 hhollow
      refine ⟨shared, ?_⟩
      rw [resolveWithin_of_not_cached hcache, if_pos hpath]
      exact Resolution.hollow_of_held hshared

theorem requestAll_of_settled (sources : Sources) (depth : Nat) {ds : List Descriptor}
    (h : ∀ e ∈ ds, Settled path progress.memory e) :
    ∃ parts, requestAll (sources.resolveWithin (depth + 1) path) ds progress =
      .ok parts progress := by
  induction ds with
  | nil => exact ⟨[], rfl⟩
  | cons e ds ih =>
    obtain ⟨shared, hfirst⟩ := resolveWithin_of_settled sources depth (h e List.mem_cons_self)
    obtain ⟨parts, hothers⟩ := ih fun f hf ↦ h f (List.mem_cons_of_mem e hf)
    exact ⟨shared :: parts, by rw [requestAll_cons_of_ok hfirst, hothers]⟩

/-- Answered requests are settled. -/
theorem settled_of_requestAll {ds : List Descriptor} {parts : List SharedTriple}
    (hrun : requestAll (sources.resolveWithin depth path) ds progress = .ok parts reached) :
    ∀ e ∈ ds, Settled path reached.memory e := by
  have hanswers := requestAll_answers (fun _ ↦ True)
    (fun later e _ ↦ Settled path later.memory e) (fun _ _ _ _ ↦ trivial)
    (fun e _ before shared later _ hshared ↦ ?_)
    (fun e _ f _ before _ hsettled ↦
      hsettled.of_grows (sources.growsOutside_resolveWithin depth path e before)) trivial hrun
  · intro e he
    obtain ⟨i, hi, rfl⟩ := List.getElem_of_mem he
    have hlength := hanswers.length_eq
    exact (List.forall₂_iff_get.1 hanswers).2 i hi (hlength ▸ hi)
  · rcases get?_of_resolveWithin hshared with hcache | ⟨hhollow, hpath⟩
    · exact .inl (Table.contains_of_get? hcache)
    · exact .inr ⟨hpath, Table.contains_of_get? hhollow⟩

/-- A failed request fails again with the same fault, and the second time it changes nothing: what
was answered before the failure is settled, and the types of the chain are still not remembered. -/
theorem FailsThrough.again (h : sources.FailsThrough fault reached depth path d progress chain)
    (unused : Nat) :
    Memory.GrowsOutside path progress.memory reached.memory ∧
      sources.resolveWithin depth path d ⟨reached.memory, unused⟩ =
        .error (.fault fault) ⟨reached.memory, unused⟩ := by
  induction h with
  | @itself depth path d hcache hpath hrecipe _ =>
    have hmissing : (Progress.mk reached.memory unused).memory.cache.get? d = none := hcache
    refine ⟨.refl path _, ?_⟩
    rw [resolveWithin_eq_follow hmissing hpath, hrecipe]
    rfl
  | @within depth path d e progress middle recipe before after chain parts hcache hpath hrecipe
      hsplit hbefore hnested _ _ ih =>
    obtain ⟨hgrows, hlast⟩ := ih
    have hpassed := Memory.growsOutside_requestAll
      (sources.growsOutside_resolveWithin depth (path.extend d)) before progress
    rw [hbefore, Resolution.reached_ok] at hpassed
    have hall := hpassed.trans hgrows
    -- The requests within `d` have `d` on their path, so none of them has remembered it.
    have hmissing : reached.memory.cache.get? d = none :=
      (hall.path d ((path.mem_types_extend d d).2 (.inr rfl))).trans hcache
    obtain ⟨depth, rfl⟩ : ∃ more, depth = more + 1 := by
      cases hnested <;> exact ⟨_, rfl⟩
    have hsettled :
        ∀ f ∈ before, Settled (path.extend d) (Progress.mk reached.memory unused).memory f :=
      fun f hf ↦ (settled_of_requestAll hbefore f hf).of_grows hgrows
    obtain ⟨answers, hagain⟩ := requestAll_of_settled sources depth hsettled
    refine ⟨hall.of_extend, resolveWithin_of_failed hmissing hpath hrecipe ?_⟩
    exact requestAll_eq_error_iff.2 ⟨before, e, after, answers, _, hsplit, hagain, hlast⟩

end Sources

/-! ### After a failed request -/

namespace Resolver

variable {resolver : Resolver} {d e : Descriptor} {unused : Nat}

/-- The run behind a failed top-level request. -/
theorem resolveWithin_of_failed_resolve {failure : Failure}
    (hfails : (resolver.resolve d unused).1.1 = .error failure) :
    ∃ last, resolver.sources.resolveWithin resolver.depthLimit .empty d
        ⟨resolver.memory, unused⟩ = .error failure last ∧
      resolver.resolve d unused =
        ((.error failure, { resolver with memory := last.memory }), last.unused) := by
  rw [resolve, resolveWithin_eq] at hfails ⊢
  cases hrun : resolver.sources.resolveWithin resolver.depthLimit .empty d
    ⟨resolver.memory, unused⟩ with
  | ok answer last => rw [hrun] at hfails; cases hfails
  | error stated last =>
    rw [hrun] at hfails
    cases hfails
    exact ⟨last, rfl, rfl⟩

/-- After a request has failed with a fault, the same request fails with it again. A request for
another type succeeds if it would have succeeded in the place of the failed one. Beyond that it
succeeds exactly if all types can be made by themselves that it reaches outside of what is then
remembered, where types made within the failed request count too. -/
theorem resolve_after_failed_resolve {fault : Fault}
    (hfails : (resolver.resolve d unused).1.1 = .error (.fault fault))
    (hfinite : (resolver.sources.reachable e).Finite)
    (hlimit : (resolver.sources.reachable e).ncard < resolver.depthLimit) (number later : Nat) :
    ((resolver.resolve d unused).1.2.resolve d later).1.1 = .error (.fault fault) ∧
    ((∃ shared, (resolver.resolve e number).1.1 = .ok shared) →
      ∃ shared, ((resolver.resolve d unused).1.2.resolve e later).1.1 = .ok shared) ∧
    ((∃ shared, ((resolver.resolve d unused).1.2.resolve e later).1.1 = .ok shared) ↔
      ∀ f, resolver.sources.ReachesOutside
          {g | (resolver.resolve d unused).1.2.isCached g = true} e f →
        resolver.sources.IsBuildable f) := by
  obtain ⟨last, hrun, hresolve⟩ := resolveWithin_of_failed_resolve hfails
  obtain ⟨chain, hchain⟩ := Sources.exists_failsThrough hrun
  obtain ⟨hgrows, hagain⟩ := hchain.again later
  have hremembered : {g | resolver.isCached g = true} ⊆
      {g | (Resolver.mk resolver.sources resolver.depthLimit last.memory).isCached g = true} := by
    intro g hg
    obtain ⟨shared, hshared⟩ := Option.isSome_iff_exists.1 hg
    exact Table.contains_of_get? (hgrows.cache g shared hshared)
  rw [hresolve]
  have hafter := resolve_succeeds_iff ⟨resolver.sources, resolver.depthLimit, last.memory⟩ e later
    hfinite hlimit
  refine ⟨?_, fun hsuccess ↦ hafter.2 fun f hf ↦ ?_, hafter⟩
  · rw [resolve, resolveWithin_eq, hagain]
  · exact (resolve_succeeds_iff resolver e number hfinite hlimit).1 hsuccess f
      (hf.mono hremembered)

/-- A request for `A` fails because of `X`, but before that it has made `B` around a placeholder of
`A`. The request for `B`, which requires `A`, fails in its place and succeeds after it. -/
theorem failed_resolve_makes_a_later_one_succeed :
    Reached Loop.brokenSources 0 (Loop.newResolver Loop.brokenSources) 0 ∧
    ((Loop.newResolver Loop.brokenSources).resolve Loop.typeA 0).1.1 = .error Loop.missing ∧
    ((Loop.newResolver Loop.brokenSources).resolve Loop.typeB 0).1.1 = .error Loop.missing ∧
    ∃ shared, (((Loop.newResolver Loop.brokenSources).resolve Loop.typeA 0).1.2.resolve
      Loop.typeB ((Loop.newResolver Loop.brokenSources).resolve Loop.typeA 0).2).1.1 =
        .ok shared :=
  ⟨.fresh 10, eq_error_of_map (by decide +kernel), eq_error_of_map (by decide +kernel),
    exists_ok_of_isSome (by decide +kernel)⟩

/-- The request for `A` fails again, and the one for `B` finds `B` remembered. -/
theorem loop_resolve_after_failed_resolve :
    ((Loop.newResolver Loop.brokenSources).resolve Loop.typeA 0).1.1 = .error Loop.missing ∧
    (Loop.brokenSources.reachable Loop.typeB).Finite ∧
    (Loop.brokenSources.reachable Loop.typeB).ncard < 10 ∧
    (((Loop.newResolver Loop.brokenSources).resolve Loop.typeA 0).1.2.resolve
      Loop.typeA 3).1.1 = .error Loop.missing ∧
    ∃ shared, (((Loop.newResolver Loop.brokenSources).resolve Loop.typeA 0).1.2.resolve
      Loop.typeB 3).1.1 = .ok shared := by
  have hfails : ((Loop.newResolver Loop.brokenSources).resolve Loop.typeA 0).1.1 =
      .error Loop.missing := eq_error_of_map (by decide +kernel)
  have hfinite := Loop.finite_reachable Loop.typeB (by decide)
  have hlimit := Loop.ncard_reachable_lt Loop.typeB (by decide)
  have hcached : ((Loop.newResolver Loop.brokenSources).resolve Loop.typeA 0).1.2.isCached
      Loop.typeB = true := by decide +kernel
  obtain ⟨hagain, _, hsucceeds⟩ := resolve_after_failed_resolve hfails hfinite hlimit 0 3
  exact ⟨hfails, hfinite, hlimit, hagain, hsucceeds.2 fun f hf ↦ absurd hcached hf.1⟩

end Resolver

end Exemplar
