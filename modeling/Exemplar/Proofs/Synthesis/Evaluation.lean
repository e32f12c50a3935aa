import Exemplar.Proofs.Synthesis.Requirement
import Mathlib.Data.Set.Card

/-!
Plain evaluation of types. It follows the recipes and nothing else: it remembers nothing and does
not know which types it is within, so it evaluates a type anew wherever it is required. On types
that reach finitely many types and lie on no cycle every evaluation ends, in the same way wherever
it starts.
-/

set_option autoImplicit false
set_option relaxedAutoImplicit false

namespace Exemplar

/-! ### Acyclic types -/

namespace Sources

/-- A type that reaches finitely many types, none of which reaches itself again. -/
structure IsAcyclic (sources : Sources) (d : Descriptor) : Prop where
  finite : (sources.reachable d).Finite
  acyclic : ∀ e ∈ sources.reachable d, ¬Relation.TransGen sources.Requires e e

variable {sources : Sources} {d e : Descriptor}

namespace IsAcyclic

theorem of_requires (hd : sources.IsAcyclic d) (hrequires : sources.Requires d e) :
    sources.IsAcyclic e :=
  ⟨hd.finite.subset hrequires.reachable_subset,
    fun f hf ↦ hd.acyclic f (hrequires.reachable_subset hf)⟩

theorem not_reaches (hd : sources.IsAcyclic d) (hrequires : sources.Requires d e) :
    ¬sources.Reaches e d :=
  fun hreaches ↦ hd.acyclic d (sources.mem_reachable_self d) (.head' hrequires hreaches)

/-- A required type reaches fewer types. -/
theorem ncard_lt (hd : sources.IsAcyclic d) (hrequires : sources.Requires d e) :
    (sources.reachable e).ncard < (sources.reachable d).ncard := by
  refine Set.ncard_lt_ncard ?_ hd.finite
  exact (Set.ssubset_iff_of_subset hrequires.reachable_subset).2
    ⟨d, sources.mem_reachable_self d, hd.not_reaches hrequires⟩

end IsAcyclic

/-- Whether each type of a list is followed by all types that it requires. -/
def listsRequirements (sources : Sources) : List Descriptor → Bool
  | [] => true
  | d :: ds =>
    (match sources.recipe d with
      | .ok recipe => recipe.requirements.all (· ∈ ds)
      | .error _ => true) && sources.listsRequirements ds

theorem Requires.mem_of_listsRequirements {ds : List Descriptor} (hrequires : sources.Requires d e)
    (hlist : sources.listsRequirements (d :: ds) = true) : e ∈ ds := by
  obtain ⟨recipe, hrecipe, he⟩ := hrequires
  simp only [listsRequirements, hrecipe, Bool.and_eq_true, List.all_eq_true,
    decide_eq_true_eq] at hlist
  exact hlist.1 e he

/-- A type that is followed by what it requires is acyclic, and reaches nothing but listed types. -/
theorem isAcyclic_of_listsRequirements {types : List Descriptor}
    (hlist : sources.listsRequirements types = true) (hd : d ∈ types) :
    sources.IsAcyclic d ∧ sources.reachable d ⊆ {e | e ∈ types} := by
  induction types generalizing d with
  | nil => cases hd
  | cons f types ih =>
    have hfollowing : sources.listsRequirements types = true := by
      simp only [listsRequirements, Bool.and_eq_true] at hlist
      exact hlist.2
    rcases List.mem_cons.1 hd with rfl | hd
    · have hrequired {e : Descriptor} (he : sources.Requires d e) :=
        ih hfollowing (he.mem_of_listsRequirements hlist)
      have hsubset : sources.reachable d ⊆ {e | e ∈ d :: types} := by
        intro e he
        rcases he.cases_head with rfl | ⟨f, hf, hreaches⟩
        · exact List.mem_cons_self
        · exact List.mem_cons_of_mem d ((hrequired hf).2 hreaches)
      refine ⟨⟨(List.finite_toSet _).subset hsubset, fun e he hcycle ↦ ?_⟩, hsubset⟩
      rcases he.cases_head with rfl | ⟨f, hf, hreaches⟩
      · obtain ⟨f, hf, hreaches⟩ := Relation.TransGen.head'_iff.1 hcycle
        exact (hrequired hf).1.acyclic d hreaches hcycle
      · exact (hrequired hf).1.acyclic e hreaches hcycle
    · obtain ⟨hacyclic, hsubset⟩ := ih hfollowing hd
      exact ⟨hacyclic, fun e he ↦ List.mem_cons_of_mem f (hsubset he)⟩

theorem ncard_le_of_listsRequirements {types : List Descriptor}
    (hlist : sources.listsRequirements types = true) (hd : d ∈ types) :
    (sources.reachable d).ncard ≤ types.length :=
  ncard_reachable_le (isAcyclic_of_listsRequirements hlist hd).2

end Sources

/-! ### Evaluation -/

/-- Evaluations of types: they may take reference numbers, and end with an answer or a failure. -/
abbrev Evaluation := ExceptT Failure Fresh

/-- The triples of several types, evaluated one after the other. -/
def evaluateAll (evaluate : Descriptor → Evaluation Triple) :
    List Descriptor → Evaluation (List Triple)
  | [] => return []
  | d :: ds => do
    let triple ← evaluate d
    let triples ← evaluateAll evaluate ds
    return triple :: triples

/-- The triple of a type by plain recursion over the recipes, with at most `depth` of them at a
time: the triples of all required types, combined. -/
def Sources.evaluate (sources : Sources) : Nat → Descriptor → Evaluation Triple
  | 0, _ => throw .tooDeep
  | depth + 1, d =>
    match sources.recipe d with
    | .error fault => throw (.fault fault)
    | .ok recipe => do
      let triples ← evaluateAll (sources.evaluate depth) recipe.requirements
      recipe.combine triples

namespace Evaluation

variable {α β : Type} {run : Evaluation α} {number later : Nat}

theorem bind_of_ok {answer : α} (hrun : run number = (.ok answer, later))
    (next : α → Evaluation β) : (run >>= next) number = next answer later := by
  change ExceptT.bindCont next (run number).1 (run number).2 = _
  rw [hrun]
  rfl

theorem bind_of_error {failure : Failure} (hrun : run number = (.error failure, later))
    (next : α → Evaluation β) : (run >>= next) number = (.error failure, later) := by
  change ExceptT.bindCont next (run number).1 (run number).2 = _
  rw [hrun]
  rfl

end Evaluation

section EvaluateAll

variable {evaluate : Descriptor → Evaluation Triple} {d : Descriptor} {ds : List Descriptor}
variable {number middle : Nat}

theorem evaluateAll_cons_of_error {failure : Failure}
    (hfirst : evaluate d number = (.error failure, middle)) :
    evaluateAll evaluate (d :: ds) number = (.error failure, middle) :=
  Evaluation.bind_of_error hfirst _

theorem evaluateAll_cons_of_ok {triple : Triple}
    (hfirst : evaluate d number = (.ok triple, middle)) :
    evaluateAll evaluate (d :: ds) number =
      match evaluateAll evaluate ds middle with
      | (.ok triples, later) => (.ok (triple :: triples), later)
      | (.error failure, later) => (.error failure, later) := by
  refine (Evaluation.bind_of_ok hfirst _).trans ?_
  rcases hothers : evaluateAll evaluate ds middle with ⟨_ | triples, later⟩
  · exact Evaluation.bind_of_error hothers _
  · exact (Evaluation.bind_of_ok hothers _).trans rfl

end EvaluateAll

namespace Sources

variable {sources : Sources} {d : Descriptor} {recipe : Recipe} {depth number middle : Nat}

theorem evaluate_of_unmade {fault : Fault} (hrecipe : sources.recipe d = .error fault)
    (depth number : Nat) :
    sources.evaluate (depth + 1) d number = (.error (.fault fault), number) := by
  rw [evaluate, hrecipe]
  rfl

theorem evaluate_of_error {failure : Failure} (hrecipe : sources.recipe d = .ok recipe)
    (hparts : evaluateAll (sources.evaluate depth) recipe.requirements number =
      (.error failure, middle)) :
    sources.evaluate (depth + 1) d number = (.error failure, middle) := by
  rw [evaluate, hrecipe]
  exact Evaluation.bind_of_error hparts _

theorem evaluate_of_ok {triples : List Triple} (hrecipe : sources.recipe d = .ok recipe)
    (hparts : evaluateAll (sources.evaluate depth) recipe.requirements number =
      (.ok triples, middle)) :
    sources.evaluate (depth + 1) d number =
      (.ok (recipe.combine triples middle).1, (recipe.combine triples middle).2) := by
  rw [evaluate, hrecipe]
  exact (Evaluation.bind_of_ok hparts _).trans rfl

/-! ### How evaluations end -/

/-- Every evaluation of a type that may go deep enough ends with an answer. -/
def Evaluates (sources : Sources) (d : Descriptor) : Prop :=
  ∀ depth number, (sources.reachable d).ncard < depth →
    ∃ triple later, sources.evaluate depth d number = (.ok triple, later)

/-- Every evaluation of a type that may go deep enough ends with a fault. -/
def FailsWith (sources : Sources) (d : Descriptor) (fault : Fault) : Prop :=
  ∀ depth number, (sources.reachable d).ncard < depth →
    ∃ later, sources.evaluate depth d number = (.error (.fault fault), later)

theorem evaluateAll_of_evaluates {ds : List Descriptor} (hds : ∀ e ∈ ds, sources.Evaluates e)
    (hdepth : ∀ e ∈ ds, (sources.reachable e).ncard < depth) (number : Nat) :
    ∃ triples later, evaluateAll (sources.evaluate depth) ds number = (.ok triples, later) := by
  induction ds generalizing number with
  | nil => exact ⟨[], number, rfl⟩
  | cons e ds ih =>
    obtain ⟨triple, middle, hfirst⟩ :=
      hds e List.mem_cons_self depth number (hdepth e List.mem_cons_self)
    obtain ⟨triples, later, hothers⟩ := ih (fun f hf ↦ hds f (List.mem_cons_of_mem e hf))
      (fun f hf ↦ hdepth f (List.mem_cons_of_mem e hf)) middle
    exact ⟨triple :: triples, later, by rw [evaluateAll_cons_of_ok hfirst, hothers]⟩

/-- The types that an acyclic type requires may go as deep as the type itself, without it. -/
theorem IsAcyclic.ncard_lt_of_lt_succ (hd : sources.IsAcyclic d)
    (hrecipe : sources.recipe d = .ok recipe)
    (hdepth : (sources.reachable d).ncard < depth + 1) {e : Descriptor}
    (he : e ∈ recipe.requirements) : (sources.reachable e).ncard < depth := by
  have hfewer := hd.ncard_lt ⟨recipe, hrecipe, he⟩
  omega

theorem IsAcyclic.evaluates (hd : sources.IsAcyclic d) (hrecipe : sources.recipe d = .ok recipe)
    (hparts : ∀ e ∈ recipe.requirements, sources.Evaluates e) : sources.Evaluates d := by
  intro depth number hdepth
  obtain ⟨depth, rfl⟩ := Nat.exists_eq_add_one_of_ne_zero (Nat.ne_zero_of_lt hdepth)
  obtain ⟨triples, middle, htriples⟩ := evaluateAll_of_evaluates hparts
    (fun e ↦ hd.ncard_lt_of_lt_succ hrecipe hdepth) number
  exact ⟨_, _, evaluate_of_ok hrecipe htriples⟩

theorem failsWith_of_unmade {fault : Fault} (hrecipe : sources.recipe d = .error fault) :
    sources.FailsWith d fault := by
  intro depth number hdepth
  obtain ⟨depth, rfl⟩ := Nat.exists_eq_add_one_of_ne_zero (Nat.ne_zero_of_lt hdepth)
  exact ⟨number, evaluate_of_unmade hrecipe depth number⟩

theorem evaluateAll_of_failsWith {fault : Fault} {before after : List Descriptor} {e : Descriptor}
    (hbefore : ∀ f ∈ before, sources.Evaluates f) (he : sources.FailsWith e fault)
    (hdepth : ∀ f ∈ before ++ e :: after, (sources.reachable f).ncard < depth) (number : Nat) :
    ∃ later, evaluateAll (sources.evaluate depth) (before ++ e :: after) number =
      (.error (.fault fault), later) := by
  induction before generalizing number with
  | nil =>
    obtain ⟨later, hlast⟩ := he depth number (hdepth e (by simp))
    exact ⟨later, evaluateAll_cons_of_error hlast⟩
  | cons f before ih =>
    obtain ⟨triple, middle, hfirst⟩ :=
      hbefore f List.mem_cons_self depth number (hdepth f (by simp))
    obtain ⟨later, hothers⟩ := ih (fun g hg ↦ hbefore g (List.mem_cons_of_mem f hg))
      (fun g hg ↦ hdepth g (List.mem_cons_of_mem f hg)) middle
    exact ⟨later, by rw [List.cons_append, evaluateAll_cons_of_ok hfirst, hothers]⟩

/-- An evaluation fails with its first required type that fails. -/
theorem IsAcyclic.failsWith {fault : Fault} (hd : sources.IsAcyclic d)
    (hrecipe : sources.recipe d = .ok recipe) {before after : List Descriptor} {e : Descriptor}
    (hsplit : recipe.requirements = before ++ e :: after)
    (hbefore : ∀ f ∈ before, sources.Evaluates f) (he : sources.FailsWith e fault) :
    sources.FailsWith d fault := by
  intro depth number hdepth
  obtain ⟨depth, rfl⟩ := Nat.exists_eq_add_one_of_ne_zero (Nat.ne_zero_of_lt hdepth)
  obtain ⟨later, hlater⟩ := evaluateAll_of_failsWith hbefore he
    (fun f hf ↦ hd.ncard_lt_of_lt_succ hrecipe hdepth (hsplit ▸ hf)) number
  exact ⟨later, evaluate_of_error hrecipe (hsplit ▸ hlater)⟩

end Sources

end Exemplar
