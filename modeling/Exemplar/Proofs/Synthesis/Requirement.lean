import Exemplar.Proofs.Synthesis.Recipe
import Mathlib.Data.Set.Card
import Mathlib.Logic.Relation

/-!
The graph of requirements. A type requires the types that its recipe names, and reaches what it
requires over any number of steps, itself included. Arguments may grow on the way, so a type can
reach infinitely many types.
-/

set_option autoImplicit false
set_option relaxedAutoImplicit false

namespace Exemplar

namespace Sources

/-- The values of the second type are requested to make those of the first one. -/
def Requires (sources : Sources) (d e : Descriptor) : Prop :=
  ∃ recipe, sources.recipe d = .ok recipe ∧ e ∈ recipe.requirements

/-- The second type is required over any number of steps. -/
def Reaches (sources : Sources) : Descriptor → Descriptor → Prop :=
  Relation.ReflTransGen sources.Requires

/-- All types that a type reaches, itself included. -/
def reachable (sources : Sources) (d : Descriptor) : Set Descriptor :=
  {e | sources.Reaches d e}

/-- Sources in which the root type is a type of maps between values of the root type, so that it
requires itself. -/
def rootMaps : Sources :=
  ⟨Registry.empty.register "Object" .map, Catalog.empty⟩

variable {sources : Sources} {d e : Descriptor}

theorem mem_reachable_self (sources : Sources) (d : Descriptor) : d ∈ sources.reachable d :=
  Relation.ReflTransGen.refl

theorem Requires.reaches (h : sources.Requires d e) : sources.Reaches d e :=
  Relation.ReflTransGen.single h

theorem Requires.reachable_subset (h : sources.Requires d e) :
    sources.reachable e ⊆ sources.reachable d :=
  fun _ he ↦ Relation.ReflTransGen.head h he

/-- A type that reaches listed types only reaches as many at most. -/
theorem ncard_reachable_le {types : List Descriptor}
    (hsubset : sources.reachable d ⊆ {e | e ∈ types}) :
    (sources.reachable d).ncard ≤ types.length :=
  calc (sources.reachable d).ncard
    _ ≤ ((types.toFinset : Finset Descriptor) : Set Descriptor).ncard :=
      Set.ncard_le_ncard (by simpa using hsubset) (Finset.finite_toSet _)
    _ = types.toFinset.card := Set.ncard_coe_finset _
    _ ≤ types.length := List.toFinset_card_le types

theorem recipe_rootMaps : rootMaps.recipe .object = .ok (.pairing "Object" .object .object) :=
  rfl

theorem reachable_rootMaps : rootMaps.reachable .object = {.object} := by
  refine Set.eq_singleton_iff_unique_mem.2 ⟨mem_reachable_self _ _, fun e he ↦ ?_⟩
  induction he with
  | refl => rfl
  | tail _ hstep ih =>
    obtain ⟨recipe, hfound, hmem⟩ := hstep
    rw [ih, recipe_rootMaps] at hfound
    cases hfound
    simpa [Recipe.requirements] using hmem

end Sources

/-! ### Types for small graphs -/

theorem isTypeName_of_forall {text : List Char} (hnonempty : text ≠ [])
    (hspace : ∀ c ∈ text, Text.isSpace c = false) (hplain : ∀ c ∈ text, isDelimiter c = false) :
    IsTypeName text where
  nonempty := hnonempty
  trimmed := ⟨fun c hc ↦ hspace c (List.mem_of_mem_head? hc),
    fun c hc ↦ hspace c (List.mem_of_mem_getLast? hc)⟩
  plain := hplain

/-- A name that is tested character by character. -/
theorem isTypeName_of_all {text : List Char} (hnonempty : text ≠ [])
    (hall : (text.all fun c ↦ !Text.isSpace c && !isDelimiter c) = true) : IsTypeName text := by
  simp only [List.all_eq_true, Bool.and_eq_true, Bool.not_eq_true'] at hall
  exact isTypeName_of_forall hnonempty (fun c hc ↦ (hall c hc).1) fun c hc ↦ (hall c hc).2

/-- A type named by one letter. -/
def Descriptor.ofLetter (c : Char) (hspace : Text.isSpace c = false)
    (hplain : isDelimiter c = false) (arguments : List Descriptor) : Descriptor where
  name := ⟨String.ofList [c], by
    rw [String.toList_ofList]
    exact isTypeName_of_forall (by simp) (by simpa using hspace) (by simpa using hplain)⟩
  arguments := arguments

end Exemplar
