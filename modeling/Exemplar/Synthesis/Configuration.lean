import Exemplar.Synthesis.Resolver

/-!
The configuration of a test: the type under test, its layouts, and the factories that take
precedence over the standard ones. Building it gives the fixture of the test. Settings are given one
after the other. The first one that cannot be accepted is reported when the configuration is checked
or built, after a fault of the type itself.
-/

set_option autoImplicit false
set_option relaxedAutoImplicit false

namespace Exemplar

/-- The settings of a test so far. -/
structure Configuration where
  descriptor : Except Fault Descriptor
  catalog : Catalog
  overrides : Registry
  usesStandardFactories : Bool
  unequalExamples : List Value
  fault : Option Fault

/-- What a test has of its type: a resolver, and values that differ from each other. -/
structure Fixture where
  descriptor : Descriptor
  resolver : Resolver
  unequalExamples : List Value

namespace Configuration

/-- The configuration for a type, without any settings. -/
def forType (descriptor : Except Fault Descriptor) : Configuration where
  descriptor := descriptor
  catalog := Catalog.empty
  overrides := Registry.empty
  usesStandardFactories := true
  unequalExamples := []
  fault := none

/-- The configuration with a fault, unless it has one already. -/
def reject (configuration : Configuration) (fault : Fault) : Configuration :=
  { configuration with fault := configuration.fault.or (some fault) }

/-- The configuration with other layouts. -/
def withCatalog (configuration : Configuration) (catalog : Catalog) : Configuration :=
  { configuration with catalog := catalog }

/-- The fault of an identity that no factory can be given for. -/
def identityFault? (identity : String) : Option Fault :=
  if Text.trim identity = "" then some (.invalidArgument .emptyTypeIdentity) else none

/-- The fault of a pair of examples: they must be two different values, and neither may be null. -/
def examplesFault? (identity : String) (red black : Value) : Option Fault :=
  (identityFault? identity).or <|
    if red.isNull || black.isNull then some (.invalidArgument (.nullExamples identity))
    else if red.equal black then some (.invalidArgument (.equalExamples identity))
    else none

/-- The configuration with a factory for an identity. -/
def withFactory (configuration : Configuration) (identity : String) (factory : Factory) :
    Configuration :=
  match identityFault? identity with
  | some fault => configuration.reject fault
  | none =>
    { configuration with overrides := configuration.overrides.register identity factory }

/-- The configuration with a constructor for a generic type. -/
def withGenericValues (configuration : Configuration) (identity : String)
    (constructor : GenericConstructor) : Configuration :=
  configuration.withFactory identity (.generic constructor)

/-- The configuration with a red and a black example of a type. The red copy is made from red. -/
def withExamples (configuration : Configuration) (identity : String) (red black : Value) :
    Fresh Configuration := do
  match examplesFault? identity red black with
  | some fault => return configuration.reject fault
  | none =>
    let factory ← Factory.examples red black
    return { configuration with overrides := configuration.overrides.register identity factory }

/-- The configuration without the standard factories. -/
def withoutStandardFactories (configuration : Configuration) : Configuration :=
  { configuration with usesStandardFactories := false }

/-- The configuration with further values of the type under test that differ from each other. -/
def withUnequalExamples (configuration : Configuration) (examples : List Value) : Configuration :=
  { configuration with unequalExamples := configuration.unequalExamples ++ examples }

/-- The type under test, if the configuration has no fault. A fault of the type comes first. -/
def validate (configuration : Configuration) : Except Fault Descriptor := do
  let descriptor ← configuration.descriptor
  match configuration.fault with
  | some fault => .error fault
  | none => .ok descriptor

/-- The factories of the test: the given ones, and the standard ones for all other identities unless
they are switched off. -/
def registry (configuration : Configuration) : Fresh Registry := do
  if configuration.usesStandardFactories then
    return (← Registry.standard).merge configuration.overrides
  else return configuration.overrides

/-- The resolver of the test, which has not resolved anything yet. At most `depthLimit` requests may
be nested. -/
def resolver (configuration : Configuration) (depthLimit : Nat) : Fresh Resolver :=
  return { Resolver.ofSources (← configuration.registry) configuration.catalog with
    depthLimit := depthLimit }

/-- The fixture of the test, whose resolver has the given limit. Without given examples, red and
black of the type under test are taken, which resolves the type. -/
def buildWithin (configuration : Configuration) (depthLimit : Nat) :
    Fresh (Except Failure Fixture) := do
  match configuration.validate with
  | .error fault => return .error (.fault fault)
  | .ok descriptor =>
    let resolver ← configuration.resolver depthLimit
    if configuration.unequalExamples.isEmpty then
      match ← resolver.resolve descriptor with
      | (.error failure, _) => return .error failure
      | (.ok shared, resolver) =>
        return .ok ⟨descriptor, resolver, [shared.triple.red, shared.triple.black]⟩
    else return .ok ⟨descriptor, resolver, configuration.unequalExamples⟩

/-- The fixture of the test, whose resolver has the usual limit. -/
def build (configuration : Configuration) : Fresh (Except Failure Fixture) :=
  configuration.buildWithin Resolver.usualDepthLimit

end Configuration

namespace Fixture

/-- The triple of a type, with the fixture as the request leaves it. -/
def resolve (fixture : Fixture) (d : Descriptor) :
    Fresh (Except Failure SharedTriple × Fixture) := do
  let (answer, resolver) ← fixture.resolver.resolve d
  return (answer, { fixture with resolver := resolver })

/-- The triple of the type under test. -/
def triple (fixture : Fixture) :
    Fresh (Except Failure SharedTriple × Fixture) :=
  fixture.resolve fixture.descriptor

/-- One of the values of the type under test. -/
def value (fixture : Fixture) (color : Triple → Value) :
    Fresh (Except Failure Value × Fixture) := do
  let (answer, later) ← fixture.triple
  return (answer.map fun shared ↦ color shared.triple, later)

/-- The red value of the type under test. -/
def red (fixture : Fixture) : Fresh (Except Failure Value × Fixture) :=
  fixture.value Triple.red

/-- The black value of the type under test. -/
def black (fixture : Fixture) : Fresh (Except Failure Value × Fixture) :=
  fixture.value Triple.black

/-- The red copy of the type under test. -/
def redCopy (fixture : Fixture) : Fresh (Except Failure Value × Fixture) :=
  fixture.value Triple.redCopy

end Fixture

end Exemplar
