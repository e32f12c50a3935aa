import Exemplar.Proofs.Synthesis.Correspondence
import Exemplar.Proofs.Synthesis.Run

/-!
Resolvers in lockstep. If the recipes of the reachable types correspond under a renumbering, then
both resolvers answer a request in the same way: at each moment the memory of the second one is that
of the first one with renumbered references, so both take the same branch, and either both fail with
the same failure or the second one answers with the renumbered triple.
-/

set_option autoImplicit false
set_option relaxedAutoImplicit false

namespace Exemplar

variable {ρ : Renumbering}

/-! ### Corresponding states and runs -/

/-- The second progress is the first one with renumbered references. -/
structure Progress.Corresponds (ρ : Renumbering) (first second : Progress) : Prop where
  started : ρ.start ≤ first.unused
  unused : second.unused = ρ.image first.unused
  cache : ∀ d, second.memory.cache.get? d =
    (first.memory.cache.get? d).map (SharedTriple.renumber ρ.image)
  hollows : ∀ d, second.memory.hollows.get? d =
    (first.memory.hollows.get? d).map (SharedTriple.renumber ρ.image)

/-- Two runs ended in corresponding states, both with an answer, and the answers are related, or
both with the same failure. -/
inductive ResultsCorrespond {α β : Type} (ρ : Renumbering) (related : α → β → Prop) :
    EStateM.Result Failure Progress α → EStateM.Result Failure Progress β → Prop
  | answered {a : α} {b : β} {progress other : Progress} (hanswers : related a b)
    (hprogress : progress.Corresponds ρ other) :
    ResultsCorrespond ρ related (.ok a progress) (.ok b other)
  | failed (failure : Failure) {progress other : Progress}
    (hprogress : progress.Corresponds ρ other) :
    ResultsCorrespond ρ related (.error failure progress) (.error failure other)

/-- From corresponding states two runs end with corresponding results. -/
def Resolution.Corresponds {α β : Type} (ρ : Renumbering) (related : α → β → Prop)
    (first : Resolution α) (second : Resolution β) : Prop :=
  ∀ progress other, progress.Corresponds ρ other →
    ResultsCorrespond ρ related (first progress) (second other)

/-- Requests that are answered with a shared triple by one resolver, and with the renumbered one by
the other resolver. -/
abbrev Resolution.Renumbers (ρ : Renumbering) (first second : Resolution SharedTriple) : Prop :=
  Corresponds ρ (fun shared other ↦ other = shared.renumber ρ.image) first second

namespace Resolution

variable {α β γ δ : Type}

theorem corresponds_pure {related : α → β → Prop} {a : α} {b : β} (h : related a b) :
    Corresponds ρ related (pure a) (pure b) :=
  fun _ _ hprogress ↦ .answered h hprogress

theorem corresponds_fault (related : α → β → Prop) (fault : Fault) :
    Corresponds ρ related (ofExcept (.error fault)) (ofExcept (.error fault)) :=
  fun _ _ hprogress ↦ .failed (.fault fault) hprogress

theorem Corresponds.bind {related : α → β → Prop} {relatedNext : γ → δ → Prop}
    {first : Resolution α} {second : Resolution β} {next : α → Resolution γ}
    {other : β → Resolution δ} (hfirst : Corresponds ρ related first second)
    (hnext : ∀ a b, related a b → Corresponds ρ relatedNext (next a) (other b)) :
    Corresponds ρ relatedNext (first >>= next) (second >>= other) := by
  intro progress progress' hprogress
  have hresults := hfirst progress progress' hprogress
  generalize hrun : first progress = result at hresults
  generalize hrun' : second progress' = result' at hresults
  cases hresults with
  | answered hanswers hreached =>
    rw [bind_of_ok hrun, bind_of_ok hrun']
    exact hnext _ _ hanswers _ _ hreached
  | failed failure hreached =>
    rw [bind_of_error hrun, bind_of_error hrun']
    exact .failed failure hreached

theorem corresponds_ofFresh {rename : α → α} {first second : Fresh α}
    (h : ρ.Carries rename first second) :
    Corresponds ρ (fun a b ↦ b = rename a) (ofFresh first) (ofFresh second) := by
  intro progress other hprogress
  obtain ⟨hstarted, hsecond⟩ := h progress.unused hprogress.started
  change ResultsCorrespond ρ _
    (.ok (first progress.unused).1 ⟨progress.memory, (first progress.unused).2⟩)
    (.ok (second other.unused).1 ⟨other.memory, (second other.unused).2⟩)
  rw [hprogress.unused, hsecond]
  exact .answered rfl ⟨hstarted, rfl, hprogress.cache, hprogress.hollows⟩

end Resolution

/-! ### Remembering -/

theorem get?_insert_of_map {table other : Table Descriptor SharedTriple}
    {rename : SharedTriple → SharedTriple} (h : ∀ d, other.get? d = (table.get? d).map rename)
    (d : Descriptor) (shared : SharedTriple) (e : Descriptor) :
    (other.insert d (rename shared)).get? e = ((table.insert d shared).get? e).map rename := by
  rw [Table.get?_insert, Table.get?_insert, h]
  split <;> rfl

theorem renumber_placeholder (d : Descriptor) {number : Nat} (hnumber : ρ.start ≤ number) :
    SharedTriple.renumber ρ.image ⟨number + 2, .placeholder d number⟩ =
      ⟨ρ.image number + 2, .placeholder d (ρ.image number)⟩ := by
  rw [SharedTriple.renumber, Triple.placeholder, Triple.placeholder, Triple.renumber,
    Value.renumber_ref, Value.renumber_ref, ρ.image_add 2 hnumber, ρ.image_add 1 hnumber]
  rfl

namespace Resolution

/-- The triple of a type is remembered by both. -/
theorem renumbers_remember (d : Descriptor) (triple : Triple) :
    Renumbers ρ (remember d triple) (remember d (triple.renumber ρ.image)) := by
  refine (corresponds_ofFresh (Renumbering.carries_share triple)).bind fun shared other hother ↦ ?_
  subst hother
  exact fun _ _ h ↦ .answered rfl
    ⟨h.started, h.unused, get?_insert_of_map h.cache d shared, h.hollows⟩

/-- The placeholder of a type is made by both or by none of them. -/
theorem renumbers_hollow (d : Descriptor) : Renumbers ρ (hollow d) (hollow d) := by
  intro progress other h
  have hheld := h.hollows d
  cases hhollow : progress.memory.hollows.get? d with
  | some shared =>
    rw [hhollow] at hheld
    rw [hollow_of_held hhollow, hollow_of_held hheld]
    exact .answered rfl h
  | none =>
    rw [hhollow] at hheld
    rw [hollow_of_not_held hhollow, hollow_of_not_held hheld, h.unused,
      ← renumber_placeholder d h.started]
    exact .answered rfl ⟨Nat.le_add_right_of_le h.started, (ρ.image_add 3 h.started).symm, h.cache,
      get?_insert_of_map h.hollows d _⟩

end Resolution

/-! ### Requests in lockstep -/

section Requests

variable {request other : Request}

theorem corresponds_requestAll {ds : List Descriptor}
    (hrequest : ∀ d ∈ ds, Resolution.Renumbers ρ (request d) (other d)) :
    Resolution.Corresponds ρ
      (fun parts others ↦
        parts.length = ds.length ∧ others = parts.map (SharedTriple.renumber ρ.image))
      (requestAll request ds) (requestAll other ds) := by
  induction ds with
  | nil => exact Resolution.corresponds_pure ⟨rfl, rfl⟩
  | cons d ds ih =>
    have hothers := ih fun e he ↦ hrequest e (List.mem_cons_of_mem d he)
    refine (hrequest d List.mem_cons_self).bind fun shared shared' hshared ↦ ?_
    refine hothers.bind fun parts parts' hparts ↦ Resolution.corresponds_pure ⟨?_, ?_⟩
    · rw [List.length_cons, List.length_cons, hparts.1]
    · rw [List.map_cons, hshared, hparts.2]

/-- Corresponding recipes are followed in lockstep. -/
theorem Recipe.Corresponds.follow {first second : Recipe} (h : first.Corresponds ρ second)
    (hrequest : ∀ d ∈ first.requirements, Resolution.Renumbers ρ (request d) (other d)) :
    Resolution.Corresponds ρ (fun triple triple' ↦ triple' = triple.renumber ρ.image)
      (first.follow request) (second.follow other) := by
  unfold Recipe.follow
  rw [h.requirements]
  refine (corresponds_requestAll hrequest).bind fun parts parts' hparts ↦ ?_
  obtain ⟨hlength, rfl⟩ := hparts
  have hcombine := h.combine (parts.map SharedTriple.triple) ((List.length_map _).trans hlength)
  have htriples : (parts.map (SharedTriple.renumber ρ.image)).map SharedTriple.triple =
      (parts.map SharedTriple.triple).map (Triple.renumber ρ.image) := by
    rw [List.map_map, List.map_map]
    rfl
  rw [htriples]
  exact Resolution.corresponds_ofFresh hcombine

/-- Either both recipes are followed in lockstep, or the same fault is stated in place of both. -/
theorem RecipesCorrespond.follow {first second : Except Fault Recipe}
    (h : RecipesCorrespond ρ first second)
    (hrequest : ∀ recipe, first = .ok recipe → ∀ d ∈ recipe.requirements,
      Resolution.Renumbers ρ (request d) (other d)) :
    Resolution.Corresponds ρ (fun triple triple' ↦ triple' = triple.renumber ρ.image)
      (Resolution.ofExcept first >>= Recipe.follow request)
      (Resolution.ofExcept second >>= Recipe.follow other) := by
  cases h with
  | missing fault => exact Resolution.corresponds_fault _ fault
  | found h => exact h.follow (hrequest _ rfl)

end Requests

namespace Sources

variable {first second : Sources} {d : Descriptor}

/-- If the recipes of all reachable types correspond, requests for a type are answered in lockstep,
whatever types they are within and however deeply they may be nested. -/
theorem renumbers_resolveWithin
    (hrecipes : ∀ e ∈ first.reachable d, RecipesCorrespond ρ (first.recipe e) (second.recipe e))
    (depth : Nat) (path : RequestPath) :
    Resolution.Renumbers ρ (first.resolveWithin depth path d)
      (second.resolveWithin depth path d) := by
  induction depth generalizing path d with
  | zero => exact fun _ _ h ↦ .failed .tooDeep h
  | succ depth ih =>
    intro progress other h
    have hremembered := h.cache d
    cases hcache : progress.memory.cache.get? d with
    | some shared =>
      rw [hcache] at hremembered
      rw [resolveWithin_of_cached first depth path hcache,
        resolveWithin_of_cached second depth path hremembered]
      exact .answered rfl h
    | none =>
      rw [hcache] at hremembered
      rw [resolveWithin_of_not_cached hcache, resolveWithin_of_not_cached hremembered]
      split
      · exact Resolution.renumbers_hollow d progress other h
      · rw [create_eq_follow first (first.resolveWithin_isFinal depth (path.extend d)),
          create_eq_follow second (second.resolveWithin_isFinal depth (path.extend d))]
        have hself := hrecipes d (first.mem_reachable_self d)
        have hmade := hself.follow fun recipe hrecipe e he ↦
          ih (fun f hf ↦ hrecipes f (Requires.reachable_subset ⟨recipe, hrecipe, he⟩ hf))
            (path.extend d)
        refine hmade.bind (fun triple triple' htriple ↦ ?_) progress other h
        subst htriple
        exact Resolution.renumbers_remember d triple

end Sources

end Exemplar
