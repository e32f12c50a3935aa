import Exemplar.Proofs.Table
import Exemplar.Proofs.Text.Padding
import Exemplar.Synthesis.Registry
import Mathlib.Logic.Function.Basic

/-!
Registries as finite maps. Whatever was registered, removed, merged or copied, the identities of a
registry are trimmed and not blank, so a registry answers alike for all paddings of an identity
although merging takes the identities over as they are. What it answers was decided by the last
action on it that was about the identity. Merging changes neither of its registries, is associative,
and has the empty registry as a neutral element.
-/

set_option autoImplicit false
set_option relaxedAutoImplicit false

namespace Exemplar

namespace Registry

variable {registry first second : Registry} {identity padded : String}

/-! ### Trimmed identities -/

/-- The identities of a registry are trimmed and not blank. -/
def IsTrimmed (registry : Registry) : Prop :=
  ∀ identity ∈ registry.identities, Text.trim identity = identity ∧ identity ≠ ""

theorem mem_identities_iff :
    identity ∈ registry.identities ↔ (registry.factories.get? identity).isSome = true :=
  (Table.contains_iff registry.factories identity).symm

theorem isTrimmed_empty : empty.IsTrimmed :=
  fun _ h ↦ absurd h List.not_mem_nil

theorem IsTrimmed.register (h : registry.IsTrimmed) (identity : String) (factory : Factory) :
    (registry.register identity factory).IsTrimmed := by
  by_cases hblank : Text.trim identity = ""
  · rwa [Registry.register, if_pos hblank]
  · intro other hother
    rw [Registry.register, if_neg hblank, mem_identities_iff, Table.get?_insert] at hother
    split at hother
    · rename_i heq
      exact heq ▸ ⟨Text.trim_trim identity, hblank⟩
    · exact h other (mem_identities_iff.2 hother)

theorem IsTrimmed.registerAll (h : registry.IsTrimmed) (identities : List String)
    (factory : Factory) : (registry.registerAll identities factory).IsTrimmed := by
  induction identities generalizing registry with
  | nil => exact h
  | cons identity identities ih => exact ih (h.register identity factory)

theorem IsTrimmed.remove (h : registry.IsTrimmed) (identity : String) :
    (registry.remove identity).2.IsTrimmed := by
  intro other hother
  rw [Registry.remove, Registry.erase, mem_identities_iff, Table.get?_erase] at hother
  split at hother
  · cases hother
  · exact h other (mem_identities_iff.2 hother)

theorem IsTrimmed.merge (hfirst : first.IsTrimmed) (hsecond : second.IsTrimmed) :
    (first.merge second).IsTrimmed := by
  intro other hother
  rw [Registry.merge, mem_identities_iff, Table.get?_merge, Option.isSome_or, Bool.or_eq_true]
    at hother
  rcases hother with hother | hother
  · exact hsecond other (mem_identities_iff.2 hother)
  · exact hfirst other (mem_identities_iff.2 hother)

theorem isTrimmed_standard (unused : Nat) : (standard unused).1.IsTrimmed := by
  have hprimitives (primitives : List Primitive) (registry : Registry) (h : registry.IsTrimmed) :
      (primitives.foldl (fun registry primitive ↦
        registry.register primitive.identity (primitiveFactory primitive)) registry).IsTrimmed := by
    induction primitives generalizing registry with
    | nil => exact h
    | cons primitive primitives ih => exact ih _ (h.register primitive.identity _)
  have hbase := hprimitives Primitive.all empty isTrimmed_empty
  exact ((((hbase.register "String" _).register _ _).registerAll orderedContainers _).registerAll
    unorderedContainers _).registerAll mapContainers .map

/-! ### Paddings -/

/-- A registry does not tell an identity from another text. -/
structure AnswersAlike (registry : Registry) (identity padded : String) : Prop where
  lookup : registry.lookup? padded = registry.lookup? identity
  contains : registry.contains padded = registry.contains identity
  remove : registry.remove padded = registry.remove identity
  register : ∀ factory, registry.register padded factory = registry.register identity factory

theorem answersAlike_of_isPadding (registry : Registry) (h : Text.IsPadding identity padded) :
    registry.AnswersAlike identity padded where
  lookup := by rw [lookup?, h.trim_eq, lookup?]
  contains := by rw [contains, h.trim_eq, contains]
  remove := by simp only [Registry.remove, Registry.contains, Registry.erase, h.trim_eq]
  register factory := by rw [Registry.register, h.trim_eq, Registry.register]

theorem contains_eq_isSome_lookup? (registry : Registry) (identity : String) :
    registry.contains identity = (registry.lookup? identity).isSome :=
  rfl

/-- There is a factory for an identity if the identity, trimmed, is one of the registry. -/
theorem contains_iff_mem_identities :
    registry.contains identity = true ↔ Text.trim identity ∈ registry.identities :=
  Table.contains_iff registry.factories (Text.trim identity)

/-- Removing tells whether there was a factory to remove. -/
theorem remove_iff_mem_identities :
    (registry.remove identity).1 = true ↔ Text.trim identity ∈ registry.identities :=
  contains_iff_mem_identities

/-- What is left after removing is the registry without the factory. -/
theorem lookup?_remove (registry : Registry) (identity other : String) :
    (registry.remove identity).2.lookup? other =
      if Text.trim identity = Text.trim other then none else registry.lookup? other :=
  registry.lookup?_erase identity other

/-! ### Laws of merging -/

/-- What merging is. -/
structure MergeLaws (first second third : Registry) : Prop where
  lookup : ∀ identity, (first.merge second).lookup? identity =
    if second.contains identity = true then second.lookup? identity else first.lookup? identity
  assoc : (first.merge second).merge third = first.merge (second.merge third)
  empty_left : empty.merge first = first
  empty_right : first.merge empty = first
  size : (first.merge second).size = (first.identities.toFinset ∪ second.identities.toFinset).card

theorem mergeLaws (first second third : Registry) : MergeLaws first second third where
  lookup identity := by
    rw [lookup?_merge, contains_eq_isSome_lookup?]
    cases second.lookup? identity <;> rfl
  assoc := congrArg Registry.mk (Table.merge_assoc _ _ _)
  empty_left := congrArg Registry.mk (Table.empty_merge _)
  empty_right := congrArg Registry.mk (Table.merge_empty _)
  size := Table.size_merge _ _

end Registry

/-! ### Registries under names -/

/-- Registries that are kept under names. There is an empty one under a name that was never used. -/
abbrev Shelf := String → Registry

/-- What is done to the registries on a shelf. The result of merging or copying may go under any
name. -/
inductive ShelfAction
  | empty (place : String)
  | standard (place : String) (unused : Nat)
  | register (place identity : String) (factory : Factory)
  | remove (place identity : String)
  | merge (first second place : String)
  | copy (source place : String)

namespace ShelfAction

/-- The place of the registry that is changed or replaced. -/
def place : ShelfAction → String
  | empty place | standard place _ | register place _ _ | remove place _ | merge _ _ place
  | copy _ place => place

/-- The registry that is put there. -/
def result (shelf : Shelf) : ShelfAction → Registry
  | empty _ => .empty
  | standard _ unused => (Registry.standard unused).1
  | register place identity factory => (shelf place).register identity factory
  | remove place identity => ((shelf place).remove identity).2
  | merge first second _ => (shelf first).merge (shelf second)
  | copy source _ => shelf source

/-- The shelf after an action. -/
def perform (shelf : Shelf) (action : ShelfAction) : Shelf :=
  Function.update shelf action.place (action.result shelf)

/-- The shelf after several actions, when all registries were empty. -/
def after (actions : List ShelfAction) : Shelf :=
  actions.foldl perform fun _ ↦ .empty

/-- An action decides what a registry answers for an identity. Registering and removing decide it
for their own identity, and a blank identity is not registered. -/
inductive Decides (shelf : Shelf) (place identity : String) : ShelfAction → Option Factory → Prop
  | empty : Decides shelf place identity (empty place) none
  | standard (unused : Nat) : Decides shelf place identity (standard place unused)
    ((Registry.standard unused).1.lookup? identity)
  | register {other : String} (factory : Factory) (hother : Text.trim other = Text.trim identity)
    (hblank : Text.trim other ≠ "") :
    Decides shelf place identity (register place other factory) (some factory)
  | remove {other : String} (hother : Text.trim other = Text.trim identity) :
    Decides shelf place identity (remove place other) none
  | merge (first second : String) : Decides shelf place identity (merge first second place)
    (((shelf second).lookup? identity).or ((shelf first).lookup? identity))
  | copy (source : String) :
    Decides shelf place identity (copy source place) ((shelf source).lookup? identity)

/-- An action is about an identity in a registry. -/
def IsAbout (place identity : String) (action : ShelfAction) : Prop :=
  ∃ shelf answer, action.Decides shelf place identity answer

variable {shelf : Shelf} {place identity : String} {action : ShelfAction} {answer : Option Factory}

theorem perform_of_ne (h : place ≠ action.place) : perform shelf action place = shelf place :=
  Function.update_of_ne h _ _

theorem perform_place : perform shelf action action.place = action.result shelf :=
  Function.update_self _ _ _

/-- A registry answers what the last action has decided. -/
theorem lookup?_perform_of_decides (h : action.Decides shelf place identity answer) :
    (perform shelf action place).lookup? identity = answer := by
  cases h with
  | empty => exact congrArg (Registry.lookup? · identity) perform_place
  | standard unused => exact congrArg (Registry.lookup? · identity) perform_place
  | copy source => exact congrArg (Registry.lookup? · identity) perform_place
  | @register other factory hother hblank =>
    refine (congrArg (Registry.lookup? · identity) perform_place).trans ?_
    rw [result, Registry.lookup?_register, if_pos ⟨hother, hblank⟩]
  | @remove other hother =>
    refine (congrArg (Registry.lookup? · identity) perform_place).trans ?_
    rw [result, Registry.lookup?_remove, if_pos hother]
  | merge first second =>
    refine (congrArg (Registry.lookup? · identity) perform_place).trans ?_
    rw [result, Registry.lookup?_merge]

/-- An action that is not about an identity does not change what is answered for it. -/
theorem lookup?_perform_of_not_isAbout (h : ¬action.IsAbout place identity) :
    (perform shelf action place).lookup? identity = (shelf place).lookup? identity := by
  by_cases hplace : place = action.place
  · subst hplace
    rw [perform_place]
    -- Only registering and removing may leave an identity of their registry alone.
    cases action with
    | empty place => exact absurd ⟨shelf, _, .empty⟩ h
    | standard place unused => exact absurd ⟨shelf, _, .standard unused⟩ h
    | merge first second place => exact absurd ⟨shelf, _, .merge first second⟩ h
    | copy source place => exact absurd ⟨shelf, _, .copy source⟩ h
    | register place other factory =>
      have hother : ¬(Text.trim other = Text.trim identity ∧ Text.trim other ≠ "") :=
        fun hsame ↦ h ⟨shelf, _, .register factory hsame.1 hsame.2⟩
      rw [result, Registry.lookup?_register, if_neg hother, ShelfAction.place]
    | remove place other =>
      have hother : ¬Text.trim other = Text.trim identity :=
        fun hsame ↦ h ⟨shelf, _, .remove hsame⟩
      rw [result, Registry.lookup?_remove, if_neg hother, ShelfAction.place]
  · rw [perform_of_ne hplace]

theorem isTrimmed_result (h : ∀ place, (shelf place).IsTrimmed) (action : ShelfAction) :
    (action.result shelf).IsTrimmed := by
  cases action with
  | empty place => exact Registry.isTrimmed_empty
  | standard place unused => exact Registry.isTrimmed_standard unused
  | register place identity factory => exact (h place).register identity factory
  | remove place identity => exact (h place).remove identity
  | merge first second place => exact (h first).merge (h second)
  | copy source place => exact h source

/-- Actions keep the identities of all registries trimmed. -/
theorem isTrimmed_perform (h : ∀ place, (shelf place).IsTrimmed) (action : ShelfAction)
    (place : String) : (perform shelf action place).IsTrimmed := by
  by_cases hplace : place = action.place
  · subst hplace
    rw [perform_place]
    exact isTrimmed_result h action
  · rw [perform_of_ne hplace]
    exact h place

/-! ### Runs of actions -/

theorem isTrimmed_foldl (actions : List ShelfAction) (h : ∀ place, (shelf place).IsTrimmed) :
    ∀ place, (actions.foldl perform shelf place).IsTrimmed := by
  induction actions generalizing shelf with
  | nil => exact h
  | cons action actions ih => exact ih (isTrimmed_perform h action)

theorem lookup?_foldl_of_forall_not_isAbout {actions : List ShelfAction}
    (h : ∀ action ∈ actions, ¬action.IsAbout place identity) :
    (actions.foldl perform shelf place).lookup? identity = (shelf place).lookup? identity := by
  induction actions generalizing shelf with
  | nil => rfl
  | cons action actions ih =>
    obtain ⟨haction, hactions⟩ := List.forall_mem_cons.1 h
    exact (ih hactions).trans (lookup?_perform_of_not_isAbout haction)

/-- What a registry answers for an identity after actions: what the last action about it decided,
and nothing if there was none. -/
structure AnswersLast (actions : List ShelfAction) (place identity : String) : Prop where
  decided : ∀ before action later answer, actions = before ++ action :: later →
    action.Decides (after before) place identity answer →
      (∀ other ∈ later, ¬other.IsAbout place identity) →
        (after actions place).lookup? identity = answer
  undecided : (∀ action ∈ actions, ¬action.IsAbout place identity) →
    (after actions place).lookup? identity = none

theorem answersLast (actions : List ShelfAction) (place identity : String) :
    AnswersLast actions place identity where
  decided before action later answer hactions hdecides hlater := by
    rw [hactions, after, List.foldl_append, List.foldl_cons, ← after,
      lookup?_foldl_of_forall_not_isAbout hlater, lookup?_perform_of_decides hdecides]
  undecided h := lookup?_foldl_of_forall_not_isAbout h

/-- Registries that were made by any actions: their identities are trimmed, they have a factory for
an identity, and removing it reports one, exactly if the trimmed identity is one of them, they answer
alike for all paddings of an identity, what they answer was decided by the last action about the
identity, merging obeys its laws, and an action changes no other registry than that of its place. -/
theorem registries_are_finite_maps (actions : List ShelfAction) :
    (∀ place, (after actions place).IsTrimmed) ∧
    (∀ place identity, ((after actions place).contains identity = true ↔
        Text.trim identity ∈ (after actions place).identities) ∧
      (((after actions place).remove identity).1 = true ↔
        Text.trim identity ∈ (after actions place).identities) ∧
      ∀ padded, Text.IsPadding identity padded →
        (after actions place).AnswersAlike identity padded) ∧
    (∀ place identity, AnswersLast actions place identity) ∧
    (∀ first second third, Registry.MergeLaws (after actions first) (after actions second)
      (after actions third)) ∧
    ∀ action place, place ≠ action.place →
      after (actions ++ [action]) place = after actions place := by
  refine ⟨isTrimmed_foldl actions fun _ ↦ Registry.isTrimmed_empty, fun place identity ↦
    ⟨Registry.contains_iff_mem_identities, Registry.remove_iff_mem_identities,
      fun padded ↦ Registry.answersAlike_of_isPadding _⟩,
    answersLast actions, fun first second third ↦ Registry.mergeLaws _ _ _,
    fun action place hplace ↦ ?_⟩
  rw [after, List.foldl_append, ← after]
  exact perform_of_ne hplace

/-! ### A merged registry -/

namespace MergedShelf

/-- A factory of one's own for a container. -/
def given : List ShelfAction :=
  [.standard "base" 0, .register "own" " Vec " .map]

/-- It is put before a standard one by merging, and a standard one is removed afterwards. -/
def actions : List ShelfAction :=
  given ++ [.merge "base" "own" "both", .remove "both" "String"]

theorem not_isAbout_remove : ∀ other ∈ [ShelfAction.remove "both" "String"],
    ¬other.IsAbout "both" "Vec" := by
  intro other hother
  obtain rfl := List.mem_singleton.1 hother
  rintro ⟨shelf, answer, hdecides⟩
  cases hdecides with
  | remove hsame => exact absurd hsame (by decide)

end MergedShelf

/-- A merged registry has the factory of the second registry, however the identity is padded, and
not the one that was removed. -/
theorem merged_registry_is_finite_map :
    (after MergedShelf.actions "both").lookup? "\tVec\n" = some .map ∧
    (after MergedShelf.actions "both").lookup? "String" = none := by
  obtain ⟨-, hpadded, hlast, -, -⟩ := registries_are_finite_maps MergedShelf.actions
  obtain ⟨-, -, hgiven, -, -⟩ := registries_are_finite_maps MergedShelf.given
  constructor
  · have hown := (hgiven "own" "Vec").decided [.standard "base" 0] _ [] _ rfl
      (.register .map rfl (by decide)) nofun
    have hboth := (hlast "both" "Vec").decided MergedShelf.given _ [.remove "both" "String"] _ rfl
      (.merge "base" "own") MergedShelf.not_isAbout_remove
    have hspaces : Text.IsPadding "Vec" "\tVec\n" :=
      ⟨['\t'], ['\n'], List.forall_mem_singleton.2 rfl, List.forall_mem_singleton.2 rfl, rfl⟩
    rw [((hpadded "both" "Vec").2.2 _ hspaces).lookup, hboth, hown]
    rfl
  · exact (hlast "both" "String").decided (MergedShelf.given ++ [.merge "base" "own" "both"]) _ [] _
      rfl (.remove rfl) nofun

end ShelfAction

end Exemplar
