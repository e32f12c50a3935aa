import Exemplar.Proofs.Synthesis.Buildability
import Exemplar.Proofs.Synthesis.Coverage
import Exemplar.Proofs.Synthesis.Termination

/-!
Why a request fails. A new resolver goes through the reachable types depth first, from left to
right, and fails at the first one that cannot be made by itself. The fault is that of this type
alone. Every request that encloses it ends with the same fault in the same moment, because the way
in which its type is made was chosen before anything was requested.
-/

set_option autoImplicit false
set_option relaxedAutoImplicit false

namespace Exemplar

/-! ### Orders of traversal -/

namespace Traversal

variable {sources : Sources} {d : Descriptor} {order : List Descriptor}
variable {earlier later : Traversal}

/-- What is pending lies in a set that holds what its newly visited types require, if it did so
before. -/
theorem Leads.pending_subset (h : Leads sources earlier later) (types : Set Descriptor)
    (hclosed : ∀ e ∈ types, e ∉ earlier.visited → ∀ f, sources.Requires e f → f ∈ types)
    (hpending : ∀ e ∈ earlier.pending, e ∈ types) : ∀ e ∈ later.pending, e ∈ types := by
  induction h with
  | refl => exact hpending
  | @tail middle last hleads hstep ih =>
    obtain ⟨f, pending, hmiddle, ⟨_, rfl⟩ | ⟨hf, rfl⟩⟩ := step?_eq_some hstep
    · intro e he
      exact ih e (hmiddle ▸ List.mem_cons_of_mem f he)
    · intro e he
      rcases List.mem_append.1 he with he | he
      · exact hclosed f (ih f (hmiddle ▸ List.mem_cons_self))
          (fun hvisited ↦ hf (Leads.visited_isPrefix hleads |>.subset hvisited)) e
          (Sources.mem_requirements_iff.1 he)
      · exact ih e (hmiddle ▸ List.mem_cons_of_mem f he)

/-- A type has one order at most, as each step of a traversal is determined. -/
theorem IsOrder.iff_eq (h : IsOrder sources d order) (other : List Descriptor) :
    IsOrder sources d other ↔ other = order := by
  refine ⟨fun hother ↦ ?_, fun hsame ↦ hsame ▸ h⟩
  have hdetermined : Relator.RightUnique fun earlier later : Traversal ↦
      earlier.step? sources = some later := by
    intro start middle last hmiddle hlast
    exact Option.some.inj (hmiddle.symm.trans hlast)
  have hend {start : List Descriptor} {last : Traversal} (hleads : Leads sources ⟨start, []⟩ last) :
      last = ⟨start, []⟩ := by
    rcases Relation.ReflTransGen.cases_head hleads with hsame | ⟨middle, hstep, _⟩
    · exact hsame.symm
    · cases hstep
  rcases Relation.ReflTransGen.total_of_right_unique hdetermined h hother with hleads | hleads
  · exact congrArg visited (hend hleads)
  · exact congrArg visited (hend hleads).symm

end Traversal

namespace Sources

variable {sources : Sources} {fault : Fault} {depth : Nat} {path : RequestPath}
variable {d e : Descriptor} {progress reached : Progress} {chain visited : List Descriptor}

/-! ### Chains of failed requests -/

/-- The requests of a chain, from the outermost one on, end with the fault, and nothing happens
after the innermost one has ended. The innermost type fails by itself. Each other type requested the
next one of the chain in the one way of making values that serves the type, when the requests
before it were answered. -/
inductive FailsThrough (sources : Sources) (fault : Fault) (reached : Progress) :
    Nat → RequestPath → Descriptor → Progress → List Descriptor → Prop
  | itself {depth : Nat} {path : RequestPath} {d : Descriptor}
    (hcache : reached.memory.cache.get? d = none) (hpath : d ∉ path.types)
    (hrecipe : sources.recipe d = .error fault)
    (hrun : sources.resolveWithin (depth + 1) path d reached = .error (.fault fault) reached) :
    FailsThrough sources fault reached (depth + 1) path d reached [d]
  | within {depth : Nat} {path : RequestPath} {d e : Descriptor} {progress middle : Progress}
    {recipe : Recipe} {before after chain : List Descriptor} {parts : List SharedTriple}
    (hcache : progress.memory.cache.get? d = none) (hpath : d ∉ path.types)
    (hrecipe : sources.recipe d = .ok recipe) (hsplit : recipe.requirements = before ++ e :: after)
    (hbefore : requestAll (sources.resolveWithin depth (path.extend d)) before progress =
      .ok parts middle)
    (hnested : FailsThrough sources fault reached depth (path.extend d) e middle chain)
    (hserve : sources.serve (sources.resolveWithin depth (path.extend d)) d progress =
      .error (.fault fault) reached)
    (hrun : sources.resolveWithin (depth + 1) path d progress = .error (.fault fault) reached) :
    FailsThrough sources fault reached (depth + 1) path d progress (d :: chain)

/-- The requests of the resolver are served in one way only. -/
theorem create_resolveWithin_eq_serve (sources : Sources) (depth : Nat) (path : RequestPath)
    (d : Descriptor) :
    sources.create (sources.resolveWithin depth path) d =
      sources.serve (sources.resolveWithin depth path) d :=
  sources.create_eq_serve (sources.resolveWithin_isFinal depth path) d

/-- A request that fails does so through a chain. -/
theorem exists_failsThrough
    (hrun : sources.resolveWithin depth path d progress = .error (.fault fault) reached) :
    ∃ chain, sources.FailsThrough fault reached depth path d progress chain := by
  induction depth generalizing path d progress with
  | zero => cases hrun
  | succ depth ih =>
    have hanswer := sources.answers_resolveWithin depth path d progress
    rw [hrun] at hanswer
    cases hanswer with
    | unmade hcache hpath hrecipe => exact ⟨[d], .itself hcache hpath hrecipe hrun⟩
    | failed hcache hpath hrecipe hparts =>
      obtain ⟨before, e, after, parts, middle, hsplit, hbefore, hlast⟩ :=
        requestAll_eq_error_iff.1 hparts
      obtain ⟨chain, hnested⟩ := ih hlast
      have hserve : sources.serve (sources.resolveWithin depth (path.extend d)) d progress =
          .error (.fault fault) reached := by
        rw [← sources.create_resolveWithin_eq_serve,
          create_eq_follow sources (sources.resolveWithin_isFinal depth (path.extend d)), hrecipe,
          Resolution.ofExcept_ok_bind]
        exact Resolution.bind_of_error hparts _
      exact ⟨d :: chain, .within hcache hpath hrecipe hsplit hbefore hnested hserve hrun⟩

/-- When a request fails, a traversal has come to the innermost type of the chain, and all types that
it visited on the way have recipes. -/
theorem FailsThrough.leads
    (h : sources.FailsThrough fault reached depth path d progress chain)
    (hlists : progress.memory.Lists path visited) :
    ∃ order e, chain.getLast? = some e ∧ sources.recipe e = .error fault ∧ e ∉ order ∧
      (∀ f ∈ order, f ∈ visited ∨ ∃ recipe, sources.recipe f = .ok recipe) ∧
      ∀ pending, ∃ after, Traversal.Leads sources ⟨visited, d :: pending⟩ ⟨order, e :: after⟩ := by
  induction h generalizing visited with
  | @itself depth path d hcache hpath hrecipe _ =>
    have hd : d ∉ visited := hlists.not_mem hcache hpath
    exact ⟨visited, d, rfl, hrecipe, hd, fun f hf ↦ .inl hf, fun pending ↦ ⟨pending, .refl⟩⟩
  | @within depth path d e progress middle recipe before after chain parts hcache hpath hrecipe
      hsplit hbefore _ _ _ ih =>
    have hd : d ∉ visited := hlists.not_mem hcache hpath
    obtain ⟨passed, hwalk⟩ := walks_requestAll walks_resolveWithin (hlists.extend d) hbefore
    obtain ⟨order, last, hlast, hfault, hmem, hmade, hleads⟩ := ih hwalk.lists
    refine ⟨order, last, ?_, hfault, hmem, fun f hf ↦ ?_, fun pending ↦ ?_⟩
    · rw [List.getLast?_cons, hlast]
      rfl
    · rcases hmade f hf with hf | hf
      · rcases hwalk.made f hf with hf | hf
        · rcases List.mem_append.1 hf with hf | hf
          · exact .inl hf
          · rw [List.mem_singleton.1 hf]
            exact .inr ⟨recipe, hrecipe⟩
        · exact .inr hf
      · exact .inr hf
    · obtain ⟨rest, hrest⟩ := hleads (after ++ pending)
      have hvisit := Traversal.leads_visit sources hd pending
      rw [requirements_eq hrecipe, hsplit, List.append_assoc, List.cons_append] at hvisit
      exact ⟨rest, hvisit.trans ((hwalk.leads _).trans hrest)⟩

/-- The type is the first one in the order that cannot be made by itself, and it fails by itself
with the fault. -/
def FailsFirst (sources : Sources) (order : List Descriptor) (e : Descriptor) (fault : Fault) :
    Prop :=
  ∃ before after, order = before ++ e :: after ∧ (∀ f ∈ before, sources.IsBuildable f) ∧
    ¬sources.IsBuildable e ∧ sources.FailsLocally e fault

theorem FailsFirst.mem {order : List Descriptor} (h : sources.FailsFirst order e fault) :
    e ∈ order := by
  obtain ⟨before, after, rfl, -⟩ := h
  exact List.mem_append_right before List.mem_cons_self

theorem FailsFirst.not_isBuildable {order : List Descriptor}
    (h : sources.FailsFirst order e fault) : ¬sources.IsBuildable e := by
  obtain ⟨_, _, _, _, hunbuildable, _⟩ := h
  exact hunbuildable

/-- A request to a new resolver that fails does so at the first type in the order of its types that
cannot be made by itself. -/
theorem FailsThrough.exists_order {unused : Nat}
    (h : sources.FailsThrough fault reached depth .empty d ⟨Memory.empty, unused⟩ chain)
    (hfinite : (sources.reachable d).Finite) :
    ∃ order e, Traversal.IsOrder sources d order ∧ chain.getLast? = some e ∧
      sources.recipe e = .error fault ∧ sources.FailsFirst order e fault := by
  obtain ⟨before, e, hlast, hfault, hmem, hmade, hleads⟩ := h.leads Memory.lists_empty
  obtain ⟨after, hcome⟩ := hleads []
  have hclosed : ∀ f ∈ sources.reachable d, ∀ g, sources.Requires f g → g ∈ sources.reachable d :=
    fun f hf g hg ↦ Relation.ReflTransGen.tail hf hg
  have hgo : Traversal.Leads sources ⟨[], [d]⟩ _ :=
    hcome.trans (Traversal.leads_visit sources hmem after)
  have hpending := hgo.pending_subset _ (fun f hf _ ↦ hclosed f hf) fun f hf ↦ by
    rw [List.mem_singleton.1 hf]
    exact sources.mem_reachable_self d
  obtain ⟨order, horder⟩ := Traversal.exists_order hfinite hclosed _ _ hpending
  have hprefix : before ++ [e] <+: order := horder.visited_isPrefix
  obtain ⟨rest, hrest⟩ := hprefix
  refine ⟨order, e, hgo.trans horder, hlast, hfault, before, rest, ?_, fun f hf ↦ ?_,
    not_isBuildable_of_recipe hfault, failsLocally_of_recipe hfault⟩
  · rw [← hrest, List.append_assoc, List.singleton_append]
  · rcases hmade f hf with hf | hf
    · cases hf
    · exact isBuildable_iff.2 hf

end Sources

/-! ### Two types that require each other, and one that cannot be made -/

namespace Loop

theorem reachable_subset_types (d : Descriptor) (hd : d ∈ types) :
    brokenSources.reachable d ⊆ {e | e ∈ types} := by
  have hclosed : ∀ e ∈ types, ∀ f ∈ brokenSources.requirements e, f ∈ types := by decide +kernel
  exact Sources.reachable_subset_types hd hclosed

theorem finite_reachable (d : Descriptor) (hd : d ∈ types) : (brokenSources.reachable d).Finite :=
  (List.finite_toSet types).subset (reachable_subset_types d hd)

theorem ncard_reachable_lt (d : Descriptor) (hd : d ∈ types) :
    (brokenSources.reachable d).ncard < (newResolver brokenSources).depthLimit :=
  (Sources.ncard_reachable_le (reachable_subset_types d hd)).trans_lt (by decide)

end Loop

/-! ### Success and blame -/

namespace Resolver

/-- A new resolver resolves a type that reaches finitely many types exactly if each of them can be
made by itself. If it does not, the fault is that of the first type, in the order of a depth-first
traversal from left to right, that cannot. No enclosing request tries another way of making values,
and the fault never states that a factory declined a type. -/
theorem fresh_resolve_succeeds_iff_reachable_buildable (sources : Sources) (limit : Nat)
    (d : Descriptor) (unused : Nat) (hfinite : (sources.reachable d).Finite)
    (hlimit : (sources.reachable d).ncard < limit) :
    ∃ order, (∀ other, Traversal.IsOrder sources d other ↔ other = order) ∧ order.Nodup ∧
      (∀ e, e ∈ order ↔ e ∈ sources.reachable d) ∧
      ((∃ shared, ((Resolver.mk sources limit Memory.empty).resolve d unused).1.1 = .ok shared) ↔
        ∀ e ∈ sources.reachable d, sources.IsBuildable e) ∧
      (∀ failure,
        ((Resolver.mk sources limit Memory.empty).resolve d unused).1.1 = .error failure →
        ∃ fault e chain reached, failure = .fault fault ∧ fault.isUnsupported = false ∧
          sources.FailsFirst order e fault ∧ chain.getLast? = some e ∧
          sources.FailsThrough fault reached limit .empty d ⟨Memory.empty, unused⟩ chain) ∧
      ∀ depth path e, sources.create (sources.resolveWithin depth path) e =
        sources.serve (sources.resolveWithin depth path) e := by
  have hserve := sources.create_resolveWithin_eq_serve
  rw [resolve, resolveWithin_eq]
  cases hrun : sources.resolveWithin limit .empty d ⟨Memory.empty, unused⟩ with
  | ok shared last =>
    obtain ⟨order, hwalk⟩ := Sources.walks_resolveWithin Memory.lists_empty hrun
    have horder : Traversal.IsOrder sources d order := hwalk.leads []
    have hbuildable : ∀ e ∈ sources.reachable d, sources.IsBuildable e := by
      intro e he
      rcases hwalk.made e (horder.mem_iff.2 he) with he | hmade
      · cases he
      · exact Sources.isBuildable_iff.2 hmade
    refine ⟨order, horder.iff_eq, horder.nodup List.nodup_nil, fun e ↦ horder.mem_iff,
      iff_of_true ⟨shared, rfl⟩ hbuildable, ?_, hserve⟩
    intro failure hfailure
    cases hfailure
  | error failure last =>
    cases failure with
    | tooDeep =>
      exact absurd hrun (Sources.resolveWithin_ne_tooDeep .empty _ hfinite hlimit last)
    | fault fault =>
      obtain ⟨chain, hchain⟩ := Sources.exists_failsThrough hrun
      obtain ⟨order, e, horder, hlast, hrecipe, hfirst⟩ := hchain.exists_order hfinite
      have hblamed : ¬∀ e ∈ sources.reachable d, sources.IsBuildable e := fun hall ↦
        hfirst.not_isBuildable (hall e (horder.mem_iff.1 hfirst.mem))
      refine ⟨order, horder.iff_eq, horder.nodup List.nodup_nil, fun e ↦ horder.mem_iff,
        iff_of_false (by simp) hblamed, ?_, hserve⟩
      intro failure hfailure
      cases hfailure
      exact ⟨fault, e, chain, last, rfl, sources.recipe_isFinal e fault hrecipe, hfirst, hlast,
        hchain⟩

/-- Of the types that `A` reaches only `X` cannot be made by itself, so `X` is blamed. -/
theorem fresh_resolve_blames_missing_type :
    (Loop.brokenSources.reachable Loop.typeA).Finite ∧
    (Loop.brokenSources.reachable Loop.typeA).ncard < 10 ∧
    ((Loop.newResolver Loop.brokenSources).resolve Loop.typeA 0).1.1 = .error Loop.missing ∧
    ∃ order fault chain reached, Loop.missing = .fault fault ∧
      Traversal.IsOrder Loop.brokenSources Loop.typeA order ∧
      Loop.brokenSources.FailsFirst order Loop.typeX fault ∧ chain.getLast? = some Loop.typeX ∧
      Loop.brokenSources.FailsThrough fault reached 10 .empty Loop.typeA ⟨Memory.empty, 0⟩
        chain := by
  have hreachable := Loop.reachable_subset_types Loop.typeA (by decide)
  have hfinite := Loop.finite_reachable Loop.typeA (by decide)
  have hlimit := Loop.ncard_reachable_lt Loop.typeA (by decide)
  obtain ⟨order, horder, _, hmem, _, hblame, _⟩ :=
    fresh_resolve_succeeds_iff_reachable_buildable Loop.brokenSources 10 Loop.typeA 0 hfinite hlimit
  have hanswer :
      ((Loop.newResolver Loop.brokenSources).resolve Loop.typeA 0).1.1 = .error Loop.missing :=
    eq_error_of_map (by decide +kernel)
  obtain ⟨fault, e, chain, reached, hfault, _, hfirst, hlast, hchain⟩ := hblame _ hanswer
  have hblamed : e = Loop.typeX := by
    have he : e ∈ Loop.types := hreachable ((hmem e).1 hfirst.mem)
    have hunbuildable := hfirst.not_isBuildable
    rw [Sources.isBuildable_iff] at hunbuildable
    simp only [Loop.types, List.mem_cons, List.not_mem_nil, or_false] at he
    rcases he with rfl | rfl | rfl
    · exact absurd (exists_ok_of_isSome (by decide +kernel)) hunbuildable
    · exact absurd (exists_ok_of_isSome (by decide +kernel)) hunbuildable
    · rfl
  subst hblamed
  exact ⟨hfinite, hlimit, hanswer, order, fault, chain, reached, hfault, (horder order).2 rfl,
    hfirst, hlast, hchain⟩

end Resolver

end Exemplar
