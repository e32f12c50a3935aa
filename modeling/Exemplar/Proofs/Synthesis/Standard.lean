import Exemplar.Proofs.Synthesis.Distinction

/-!
The standard registry. What its factories have in common is proved once for each kind of factory:
fixed values of primitive types, texts and markers, containers of one element, and maps. All of them
keep the promises that are made of factories.
-/

set_option autoImplicit false
set_option relaxedAutoImplicit false

namespace Exemplar

namespace Registry

/-! ### Looking factories up -/

/-- Registering one factory for several identities changes the look-ups of these identities, however
padded, and of no other. -/
theorem lookup?_registerAll (registry : Registry) (identities : List String) (factory : Factory)
    (other : String) :
    (registry.registerAll identities factory).lookup? other =
      if ∃ identity ∈ identities, Text.trim identity = Text.trim other ∧ Text.trim identity ≠ ""
      then some factory else registry.lookup? other := by
  induction identities generalizing registry with
  | nil => simp [registerAll]
  | cons identity identities ih =>
    have hfirst : registry.registerAll (identity :: identities) factory =
        (registry.register identity factory).registerAll identities factory := rfl
    rw [hfirst, ih, lookup?_register]
    by_cases hothers : ∃ identity ∈ identities,
        Text.trim identity = Text.trim other ∧ Text.trim identity ≠ ""
    · simp [hothers]
    · simp only [hothers, if_false, List.exists_mem_cons_iff, or_false]

/-- What holds of one more factory, and of all factories before, holds of all factories. -/
theorem forall_lookup?_registerAll {P : Factory → Prop} {registry : Registry} {factory : Factory}
    (identities : List String) (hfactory : P factory)
    (hregistry : ∀ other found, registry.lookup? other = some found → P found) :
    ∀ other found, (registry.registerAll identities factory).lookup? other = some found →
      P found := by
  intro other found hfound
  rw [lookup?_registerAll] at hfound
  split at hfound
  · cases hfound
    exact hfactory
  · exact hregistry other found hfound

/-- The registry with the factories of several primitive types. -/
def registerPrimitives (registry : Registry) (primitives : List Primitive) : Registry :=
  primitives.foldl
    (fun registry primitive ↦ registry.register primitive.identity (primitiveFactory primitive))
    registry

theorem forall_lookup?_registerPrimitives {P : Factory → Prop} {registry : Registry}
    (primitives : List Primitive) (hprimitive : ∀ primitive, P (primitiveFactory primitive))
    (hregistry : ∀ other found, registry.lookup? other = some found → P found) :
    ∀ other found, (registry.registerPrimitives primitives).lookup? other = some found →
      P found := by
  induction primitives generalizing registry with
  | nil => exact hregistry
  | cons primitive primitives ih =>
    exact ih (forall_lookup?_register primitive.identity (hprimitive primitive) hregistry)

/-- What holds of each kind of standard factory holds of all of them. -/
theorem forall_lookup?_standard {P : Factory → Prop}
    (hprimitive : ∀ primitive, P (primitiveFactory primitive))
    (htext : ∀ number, P (textFactory number).1) (hobject : ∀ number, P (objectFactory number).1)
    (hcontainer : ∀ ordered, P (.container ordered)) (hmap : P .map) (unused : Nat) :
    ∀ identity found, (standard unused).1.lookup? identity = some found → P found := by
  have hprimitives := @forall_lookup?_registerPrimitives P empty Primitive.all hprimitive nofun
  refine forall_lookup?_registerAll mapContainers hmap ?_
  refine forall_lookup?_registerAll unorderedContainers (hcontainer false) ?_
  refine forall_lookup?_registerAll orderedContainers (hcontainer true) ?_
  refine forall_lookup?_register TypeName.object.text (hobject _) ?_
  exact forall_lookup?_register "String" (htext unused) hprimitives

/-- The standard factories of the containers of one element. -/
theorem lookup?_standard_container {identity : String}
    (hidentity : identity ∈ orderedContainers ++ unorderedContainers) (unused : Nat) :
    (standard unused).1.lookup? identity =
      some (.container (decide (identity ∈ orderedContainers))) := by
  have hstandard : (standard unused).1 =
      (((((empty.registerPrimitives Primitive.all).register "String" (textFactory unused).1).register
        TypeName.object.text (objectFactory (textFactory unused).2).1).registerAll
          orderedContainers (.container true)).registerAll
            unorderedContainers (.container false)).registerAll mapContainers .map := rfl
  have hnomap : ∀ identity ∈ orderedContainers ++ unorderedContainers, ¬∃ other ∈ mapContainers,
      Text.trim other = Text.trim identity ∧ Text.trim other ≠ "" := by decide +kernel
  have hunordered : ∀ identity ∈ orderedContainers ++ unorderedContainers,
      (∃ other ∈ unorderedContainers, Text.trim other = Text.trim identity ∧ Text.trim other ≠ "") ↔
        identity ∉ orderedContainers := by decide +kernel
  have hordered : ∀ identity ∈ orderedContainers ++ unorderedContainers,
      (∃ other ∈ orderedContainers, Text.trim other = Text.trim identity ∧ Text.trim other ≠ "") ↔
        identity ∈ orderedContainers := by decide +kernel
  rw [hstandard, lookup?_registerAll, lookup?_registerAll, lookup?_registerAll,
    if_neg (hnomap identity hidentity)]
  simp only [hunordered identity hidentity, hordered identity hidentity]
  by_cases hmem : identity ∈ orderedContainers
  · simp [hmem]
  · simp [hmem]

end Registry

/-! ### Promises kept -/

namespace Factory

theorem faithful_primitiveFactory (primitive : Primitive) :
    (Registry.primitiveFactory primitive).Faithful := by
  cases primitive with
  | bool | char => exact ⟨rfl, rfl, rfl⟩
  | integer kind | floating kind => cases kind <;> exact ⟨rfl, rfl, rfl⟩

/-- Three new objects are faithful values if the second one differs from the other two. -/
theorem faithful_newObjects {first second : Object} (hself : first.equal first = true)
    (hdiffer : first.equal second = false) (unused : Nat) :
    (constant ⟨.ref unused first, .ref (unused + 1) second, .ref (unused + 2) first⟩).Faithful := by
  refine ⟨?_, ?_, ?_⟩
  · simp [Triple.isWellFormed, Value.equal, Value.sameReference, hself, hdiffer]
  · simp [Value.equal]
  · simp [Value.equal]

theorem faithful_textFactory (unused : Nat) : (Registry.textFactory unused).1.Faithful :=
  faithful_newObjects rfl rfl unused

theorem faithful_objectFactory (unused : Nat) : (Registry.objectFactory unused).1.Faithful :=
  faithful_newObjects rfl rfl unused

end Factory

/-- The standard factories are faithful. -/
theorem Registry.faithful_standard (unused : Nat) :
    ∀ identity factory, (standard unused).1.lookup? identity = some factory → factory.Faithful :=
  forall_lookup?_standard Factory.faithful_primitiveFactory Factory.faithful_textFactory
    Factory.faithful_objectFactory Factory.faithful_container trivial unused

end Exemplar
