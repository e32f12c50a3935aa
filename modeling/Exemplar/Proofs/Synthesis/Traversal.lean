import Exemplar.Proofs.Synthesis.Requirement
import Mathlib.Data.List.Infix
import Mathlib.Data.Set.Card

/-!
Depth-first traversals of the graph of requirements. A traversal takes the first pending type. If
the type was visited before it is dropped, and otherwise it is visited, and what it requires is
pending before everything else, from left to right. A traversal that ends has visited each type once
that the pending ones reached without passing a visited one, and no other.
-/

set_option autoImplicit false
set_option relaxedAutoImplicit false

namespace Exemplar

namespace Sources

variable {sources : Sources} {d e : Descriptor}

/-! ### Requirements in order -/

/-- The types whose values are requested to make those of a type, in the order of the requests. A
type that cannot be made for a reason of its own requests nothing. -/
def requirements (sources : Sources) (d : Descriptor) : List Descriptor :=
  match sources.recipe d with
  | .ok recipe => recipe.requirements
  | .error _ => []

theorem requirements_eq {recipe : Recipe} (hrecipe : sources.recipe d = .ok recipe) :
    sources.requirements d = recipe.requirements := by
  rw [requirements, hrecipe]

theorem mem_requirements_iff : e ∈ sources.requirements d ↔ sources.Requires d e := by
  unfold requirements Requires
  cases sources.recipe d <;> simp

/-- A set that holds what its types require holds what they reach. -/
theorem reachable_subset {types : Set Descriptor} (hd : d ∈ types)
    (hclosed : ∀ e ∈ types, ∀ f, sources.Requires e f → f ∈ types) :
    sources.reachable d ⊆ types := by
  intro e he
  induction he with
  | refl => exact hd
  | tail _ hstep ih => exact hclosed _ ih _ hstep

/-- Some types that are closed in this way, each followed by what it requires among them, bound what
is reached from one of them. -/
theorem reachable_subset_types {types : List Descriptor} (hd : d ∈ types)
    (hclosed : ∀ e ∈ types, ∀ f ∈ sources.requirements e, f ∈ types) :
    sources.reachable d ⊆ {e | e ∈ types} :=
  reachable_subset hd fun e he f hf ↦ hclosed e he f (mem_requirements_iff.2 hf)

/-! ### What is reached outside of a set -/

/-- The first type reaches the second one, and neither of them nor any type on the way is in the
set. -/
def ReachesOutside (sources : Sources) (inside : Set Descriptor) (d e : Descriptor) : Prop :=
  d ∉ inside ∧ Relation.ReflTransGen (fun f g ↦ sources.Requires f g ∧ g ∉ inside) d e

namespace ReachesOutside

variable {inside smaller : Set Descriptor} {f : Descriptor}

theorem self (hd : d ∉ inside) : sources.ReachesOutside inside d d :=
  ⟨hd, .refl⟩

theorem tail (h : sources.ReachesOutside inside d e) (hrequires : sources.Requires e f)
    (hf : f ∉ inside) : sources.ReachesOutside inside d f :=
  ⟨h.1, h.2.tail ⟨hrequires, hf⟩⟩

theorem head (hd : d ∉ inside) (hrequires : sources.Requires d e)
    (h : sources.ReachesOutside inside e f) : sources.ReachesOutside inside d f :=
  ⟨hd, h.2.head ⟨hrequires, h.1⟩⟩

theorem reaches (h : sources.ReachesOutside inside d e) : sources.Reaches d e :=
  Relation.ReflTransGen.mono (fun _ _ hstep ↦ hstep.1) _ _ h.2

theorem not_mem (h : sources.ReachesOutside inside d e) : e ∉ inside := by
  obtain ⟨hd, hsteps⟩ := h
  rcases Relation.ReflTransGen.cases_tail hsteps with rfl | ⟨f, _, _, he⟩
  · exact hd
  · exact he

theorem mono (hsubset : smaller ⊆ inside) (h : sources.ReachesOutside inside d e) :
    sources.ReachesOutside smaller d e :=
  ⟨fun hd ↦ h.1 (hsubset hd),
    Relation.ReflTransGen.mono (fun _ _ hstep ↦ ⟨hstep.1, fun hg ↦ hstep.2 (hsubset hg)⟩) _ _ h.2⟩

theorem of_reaches (h : sources.Reaches d e) : sources.ReachesOutside ∅ d e :=
  ⟨nofun, Relation.ReflTransGen.mono (fun _ _ hstep ↦ ⟨hstep, nofun⟩) _ _ h⟩

/-- A way that passes one more type can be cut where it passes that type for the last time. -/
theorem avoid (f : Descriptor) (h : sources.ReachesOutside inside d e) :
    sources.ReachesOutside (insert f inside) d e ∨ e = f ∨
      ∃ g, sources.Requires f g ∧ sources.ReachesOutside (insert f inside) g e := by
  obtain ⟨hd, hsteps⟩ := h
  induction hsteps with
  | refl =>
    by_cases hdf : d = f
    · exact .inr (.inl hdf)
    · exact .inl (self (by simp [hdf, hd]))
  | @tail g k _ hstep ih =>
    by_cases hkf : k = f
    · exact .inr (.inl hkf)
    · have hk : k ∉ insert f inside := by simp [hkf, hstep.2]
      rcases ih with hway | rfl | ⟨l, hl, hway⟩
      · exact .inl (hway.tail hstep.1 hk)
      · exact .inr (.inr ⟨k, hstep.1, self hk⟩)
      · exact .inr (.inr ⟨l, hl, hway.tail hstep.1 hk⟩)

end ReachesOutside

/-- What is reached from a type lies in a set that holds what its types require, or is reached
outside of it. -/
theorem mem_or_reachesOutside {inside : Set Descriptor}
    (hclosed : ∀ f ∈ inside, ∀ g, sources.Requires f g → g ∈ inside) (h : sources.Reaches d e) :
    e ∈ inside ∨ sources.ReachesOutside inside d e := by
  induction h with
  | refl =>
    by_cases hd : d ∈ inside
    · exact .inl hd
    · exact .inr (.self hd)
  | @tail f g _ hstep ih =>
    by_cases hg : g ∈ inside
    · exact .inl hg
    · rcases ih with hf | hway
      · exact absurd (hclosed f hf g hstep) hg
      · exact .inr (hway.tail hstep hg)

end Sources

/-! ### Traversals -/

/-- A traversal under way: the types visited so far, in order, and the pending ones. -/
structure Traversal where
  visited : List Descriptor
  pending : List Descriptor

namespace Traversal

/-- The traversal one step later, unless nothing is pending. -/
def step? (sources : Sources) : Traversal → Option Traversal
  | ⟨_, []⟩ => none
  | ⟨visited, d :: pending⟩ =>
    some (if d ∈ visited then ⟨visited, pending⟩
      else ⟨visited ++ [d], sources.requirements d ++ pending⟩)

/-- The second traversal is the first one after some steps. -/
def Leads (sources : Sources) : Traversal → Traversal → Prop :=
  Relation.ReflTransGen fun earlier later ↦ earlier.step? sources = some later

/-- The traversal from a type visits types in this order and ends. -/
def IsOrder (sources : Sources) (d : Descriptor) (order : List Descriptor) : Prop :=
  Leads sources ⟨[], [d]⟩ ⟨order, []⟩

variable {sources : Sources} {d e : Descriptor} {visited pending order : List Descriptor}
variable {earlier later : Traversal}

theorem leads_drop (hd : d ∈ visited) (pending : List Descriptor) :
    Leads sources ⟨visited, d :: pending⟩ ⟨visited, pending⟩ :=
  .single (by simp [step?, hd])

theorem leads_visit (sources : Sources) (hd : d ∉ visited) (pending : List Descriptor) :
    Leads sources ⟨visited, d :: pending⟩
      ⟨visited ++ [d], sources.requirements d ++ pending⟩ :=
  .single (by simp [step?, hd])

/-- A step drops a visited type or visits a new one. -/
theorem step?_eq_some (hstep : earlier.step? sources = some later) :
    ∃ d pending, earlier.pending = d :: pending ∧
      (d ∈ earlier.visited ∧ later = ⟨earlier.visited, pending⟩ ∨
        d ∉ earlier.visited ∧
          later = ⟨earlier.visited ++ [d], sources.requirements d ++ pending⟩) := by
  obtain ⟨visited, _ | ⟨d, pending⟩⟩ := earlier
  · cases hstep
  · refine ⟨d, pending, rfl, ?_⟩
    by_cases hd : d ∈ visited
    · simp only [step?, hd, if_true, Option.some.injEq] at hstep
      exact .inl ⟨hd, hstep.symm⟩
    · simp only [step?, hd, if_false, Option.some.injEq] at hstep
      exact .inr ⟨hd, hstep.symm⟩

namespace Leads

theorem visited_isPrefix (h : Leads sources earlier later) : earlier.visited <+: later.visited := by
  induction h with
  | refl => exact List.prefix_refl _
  | tail _ hstep ih =>
    obtain ⟨d, pending, _, ⟨_, rfl⟩ | ⟨_, rfl⟩⟩ := step?_eq_some hstep
    · exact ih
    · exact ih.trans (List.prefix_append _ _)

/-- No type is visited twice. -/
theorem nodup (h : Leads sources earlier later) (hvisited : earlier.visited.Nodup) :
    later.visited.Nodup := by
  induction h with
  | refl => exact hvisited
  | tail _ hstep ih =>
    obtain ⟨d, pending, _, ⟨_, rfl⟩ | ⟨hd, rfl⟩⟩ := step?_eq_some hstep
    · exact ih
    · rw [List.nodup_append]
      refine ⟨ih, List.nodup_singleton d, ?_⟩
      intro f hf g hg hfg
      rw [List.mem_singleton] at hg
      exact hd (hg ▸ hfg ▸ hf)

/-- A traversal that ends has visited what was visited at its start, and what the types pending then
reached outside of that. -/
theorem mem_iff (h : Leads sources ⟨visited, pending⟩ ⟨order, []⟩) :
    e ∈ order ↔ e ∈ visited ∨
      ∃ d ∈ pending, sources.ReachesOutside {f | f ∈ visited} d e := by
  generalize hstart : Traversal.mk visited pending = start at h
  induction h using Relation.ReflTransGen.head_induction_on generalizing visited pending with
  | refl =>
    cases hstart
    simp
  | @head _ middle hstep _ ih =>
    subst hstart
    obtain ⟨d, others, rfl, ⟨hd, rfl⟩ | ⟨hd, rfl⟩⟩ := step?_eq_some hstep
    · rw [ih rfl]
      have hnone : ¬sources.ReachesOutside {f | f ∈ visited} d e := fun hway ↦ hway.1 hd
      simp [hnone]
    · have hset : {f | f ∈ visited ++ [d]} = insert d {f | f ∈ visited} := by
        ext f
        simp [or_comm]
      rw [ih rfl, hset]
      constructor
      · rintro (he | ⟨f, hf, hway⟩)
        · rcases List.mem_append.1 he with he | he
          · exact .inl he
          · rw [List.mem_singleton.1 he]
            exact .inr ⟨d, List.mem_cons_self, .self hd⟩
        · have hwider := hway.mono (Set.subset_insert d _)
          rcases List.mem_append.1 hf with hf | hf
          · exact .inr ⟨d, List.mem_cons_self,
              .head hd (Sources.mem_requirements_iff.1 hf) hwider⟩
          · exact .inr ⟨f, List.mem_cons_of_mem d hf, hwider⟩
      · rintro (he | ⟨f, hf, hway⟩)
        · exact .inl (List.mem_append_left _ he)
        -- A way may pass `d`, which is visited now. What follows after the last time it does so
        -- begins at a type that `d` requires, and that one is pending.
        · rcases hway.avoid d with hway | rfl | ⟨g, hg, hway⟩
          · rcases List.mem_cons.1 hf with rfl | hf
            · exact absurd (Set.mem_insert f _) hway.1
            · exact .inr ⟨f, List.mem_append_right _ hf, hway⟩
          · exact .inl (List.mem_append_right _ (List.mem_singleton_self e))
          · exact .inr ⟨g, List.mem_append_left _ (Sources.mem_requirements_iff.2 hg), hway⟩

end Leads

/-- A traversal within finitely many types ends. Each step makes the unvisited ones fewer, or else
the pending ones. -/
theorem exists_order {types : Set Descriptor} (hfinite : types.Finite)
    (hclosed : ∀ d ∈ types, ∀ e, sources.Requires d e → e ∈ types)
    (visited pending : List Descriptor) (hpending : ∀ d ∈ pending, d ∈ types) :
    ∃ order, Leads sources ⟨visited, pending⟩ ⟨order, []⟩ := by
  induction hcount : (types \ {e | e ∈ visited}).ncard using Nat.strong_induction_on
    generalizing visited pending with
  | _ count ih =>
    induction pending with
    | nil => exact ⟨visited, .refl⟩
    | cons d pending ihpending =>
      have hothers : ∀ e ∈ pending, e ∈ types := fun e he ↦ hpending e (List.mem_cons_of_mem d he)
      by_cases hd : d ∈ visited
      · obtain ⟨order, horder⟩ := ihpending hothers
        exact ⟨order, (leads_drop hd pending).trans horder⟩
      · have hdtypes : d ∈ types := hpending d List.mem_cons_self
        have hfewer : (types \ {e | e ∈ visited ++ [d]}).ncard < count := by
          rw [← hcount]
          refine Set.ncard_lt_ncard ?_ (hfinite.subset Set.sdiff_subset)
          refine (Set.ssubset_iff_of_subset fun e he ↦ ?_).2 ⟨d, ⟨hdtypes, hd⟩, ?_⟩
          · exact ⟨he.1, fun hmem ↦ he.2 (List.mem_append_left _ hmem)⟩
          · exact fun hmem ↦ hmem.2 (List.mem_append_right _ (List.mem_singleton_self d))
        have hnext : ∀ e ∈ sources.requirements d ++ pending, e ∈ types := by
          intro e he
          rcases List.mem_append.1 he with he | he
          · exact hclosed d hdtypes e (Sources.mem_requirements_iff.1 he)
          · exact hothers e he
        obtain ⟨order, horder⟩ := ih _ hfewer _ _ hnext rfl
        exact ⟨order, (leads_visit sources hd pending).trans horder⟩

/-- The traversal from a type visits every type that it reaches, and no other. -/
theorem IsOrder.mem_iff (h : IsOrder sources d order) : e ∈ order ↔ e ∈ sources.reachable d := by
  have hvisited := Leads.mem_iff (e := e) h
  rw [hvisited]
  constructor
  · rintro (he | ⟨f, hf, hway⟩)
    · cases he
    · rw [← List.mem_singleton.1 hf]
      exact hway.reaches
  · intro he
    refine .inr ⟨d, List.mem_singleton_self d, ?_⟩
    simpa using Sources.ReachesOutside.of_reaches he

end Traversal

end Exemplar
