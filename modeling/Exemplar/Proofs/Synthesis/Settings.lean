import Exemplar.Proofs.Synthesis.Requirement
import Exemplar.Proofs.Synthesis.Stability
import Exemplar.Synthesis.Configuration

/-!
What a fixture has of the settings of its configuration. Settings are given in calls, one after the
other. All that matters of the calls is the first one that is refused, the last catalog, the last
factory for each identity, whether the standard factories are switched off, and the examples in
their order. Factories may be given under padded identities and are found under any of them: they
are registered, merged and looked up by the trimmed one. Values that are resolved for want of given
examples stay the values of the type under test, because they are remembered.
-/

set_option autoImplicit false
set_option relaxedAutoImplicit false

namespace Exemplar

/-! ### Settings -/

/-- A setting of a configuration. -/
inductive Setting
  | catalog (catalog : Catalog)
  | examples (identity : String) (red black : Value)
  | genericValues (identity : String) (constructor : GenericConstructor)
  | factory (identity : String) (factory : Factory)
  | noStandardFactories
  | unequalExamples (examples : List Value)

namespace Setting

/-- The configuration with the setting, which may make new references. -/
def apply (configuration : Configuration) : Setting → Fresh Configuration
  | catalog layouts => return configuration.withCatalog layouts
  | examples identity red black => configuration.withExamples identity red black
  | genericValues identity constructor =>
    return configuration.withGenericValues identity constructor
  | factory identity made => return configuration.withFactory identity made
  | noStandardFactories => return configuration.withoutStandardFactories
  | unequalExamples values => return configuration.withUnequalExamples values

/-- The fault for which the setting is refused. -/
def fault? : Setting → Option Fault
  | examples identity red black => Configuration.examplesFault? identity red black
  | genericValues identity _ | factory identity _ => Configuration.identityFault? identity
  | _ => none

/-- The factory that the setting gives, with the identity it is for. -/
def override? : Setting → Option (String × Fresh Factory)
  | examples identity red black => some (identity, Factory.examples red black)
  | genericValues identity constructor => some (identity, return .generic constructor)
  | factory identity made => some (identity, return made)
  | _ => none

/-- The catalog that the setting gives. -/
def catalog? : Setting → Option Catalog
  | catalog layouts => some layouts
  | _ => none

/-- Whether the setting switches the standard factories off. -/
def isNoStandardFactories : Setting → Bool
  | noStandardFactories => true
  | _ => false

/-- The examples of unequal values that the setting gives. -/
def given : Setting → List Value
  | unequalExamples values => values
  | _ => []

/-- A setting that gives a factory gives nothing else. -/
theorem of_override? {setting : Setting} {override : String × Fresh Factory}
    (h : setting.override? = some override) :
    setting.catalog? = none ∧ setting.isNoStandardFactories = false ∧ setting.given = [] := by
  cases setting with
  | catalog | noStandardFactories | unequalExamples => cases h
  | examples | genericValues | factory => exact ⟨rfl, rfl, rfl⟩

end Setting

/-- A setting that is given when this is the next unused reference number. -/
structure Call where
  setting : Setting
  unused : Nat

namespace Call

/-- The configuration after the call. -/
def perform (configuration : Configuration) (call : Call) : Configuration :=
  (call.setting.apply configuration call.unused).1

/-- The factory that the call gives for an identity. -/
def override? (call : Call) (identity : String) : Option Factory :=
  call.setting.override?.bind fun (name, factory) ↦
    if Text.trim name = Text.trim identity then some (factory call.unused).1 else none

/-- The registry with the factory that the call gives, if it gives one and is not refused. -/
def register (registry : Registry) (call : Call) : Registry :=
  match call.setting.fault?, call.setting.override? with
  | none, some (name, factory) => registry.register name (factory call.unused).1
  | _, _ => registry

end Call

/-! ### Calls in a row -/

section

variable (calls : List Call)

/-- The fault of the first call that is refused. -/
def firstFault? : Option Fault :=
  calls.findSome? fun call ↦ call.setting.fault?

/-- The last catalog given. -/
def lastCatalog? : Option Catalog :=
  calls.reverse.findSome? fun call ↦ call.setting.catalog?

/-- The last factory given for an identity. -/
def lastOverride? (identity : String) : Option Factory :=
  calls.reverse.findSome? fun call ↦ call.override? identity

/-- Whether the standard factories are switched off. -/
def switchedOff : Bool :=
  calls.any fun call ↦ call.setting.isNoStandardFactories

/-- All examples of unequal values given, in order. -/
def allGiven : List Value :=
  calls.flatMap fun call ↦ call.setting.given

end

section

variable (before after : List Call)

theorem firstFault?_append :
    firstFault? (before ++ after) = (firstFault? before).or (firstFault? after) :=
  List.findSome?_append

theorem lastCatalog?_append :
    lastCatalog? (before ++ after) = (lastCatalog? after).or (lastCatalog? before) := by
  rw [lastCatalog?, List.reverse_append]
  exact List.findSome?_append

theorem lastOverride?_append (identity : String) :
    lastOverride? (before ++ after) identity =
      (lastOverride? after identity).or (lastOverride? before identity) := by
  rw [lastOverride?, List.reverse_append]
  exact List.findSome?_append

theorem switchedOff_append :
    switchedOff (before ++ after) = (switchedOff before || switchedOff after) :=
  List.any_append

theorem allGiven_append : allGiven (before ++ after) = allGiven before ++ allGiven after :=
  List.flatMap_append

end

/-- What a check comes to: the fault of the type under test, or that of the first call that is
refused, or else the type. -/
def checked (descriptor : Except Fault Descriptor) (calls : List Call) :
    Except Fault Descriptor :=
  match descriptor, firstFault? calls with
  | .error fault, _ => .error fault
  | .ok _, some fault => .error fault
  | .ok d, none => .ok d

/-- The configuration for a type after calls. -/
def Configuration.ofCalls (descriptor : Except Fault Descriptor) (calls : List Call) :
    Configuration :=
  calls.foldl Call.perform (forType descriptor)

/-- A configuration has the settings that were given in these calls. Factories are only told as long
as no call was refused. -/
structure Configuration.Records (configuration : Configuration)
    (descriptor : Except Fault Descriptor) (calls : List Call) : Prop where
  descriptor : configuration.descriptor = descriptor
  catalog : configuration.catalog = (lastCatalog? calls).getD Catalog.empty
  standard : configuration.usesStandardFactories = !switchedOff calls
  unequalExamples : configuration.unequalExamples = allGiven calls
  fault : configuration.fault = firstFault? calls
  overrides : firstFault? calls = none →
    ∀ identity, configuration.overrides.lookup? identity = lastOverride? calls identity

namespace Configuration

variable {configuration : Configuration} {descriptor : Except Fault Descriptor}
variable {calls : List Call} {call : Call} {name : String} {factory : Fresh Factory}

theorem trim_ne_of_identityFault? {identity : String} (h : identityFault? identity = none) :
    Text.trim identity ≠ "" := by
  intro hblank
  rw [identityFault?, if_pos hblank] at h
  cases h

/-- The identity of an accepted factory is not blank. -/
theorem trim_ne_of_override? (hcall : call.setting.override? = some (name, factory))
    (haccepted : call.setting.fault? = none) : Text.trim name ≠ "" := by
  obtain ⟨setting, unused⟩ := call
  cases setting with
  | catalog | noStandardFactories | unequalExamples => cases hcall
  | examples =>
    cases hcall
    exact trim_ne_of_identityFault? (Option.or_eq_none_iff.1 haccepted).1
  | genericValues | factory =>
    cases hcall
    exact trim_ne_of_identityFault? haccepted

/-- What a call changes of a configuration. -/
theorem perform_eq (configuration : Configuration) (call : Call) :
    call.perform configuration =
      { descriptor := configuration.descriptor
        catalog := call.setting.catalog?.getD configuration.catalog
        overrides := call.register configuration.overrides
        usesStandardFactories :=
          configuration.usesStandardFactories && !call.setting.isNoStandardFactories
        unequalExamples := configuration.unequalExamples ++ call.setting.given
        fault := configuration.fault.or call.setting.fault? } := by
  obtain ⟨setting, unused⟩ := call
  rw [Call.perform, Call.register]
  cases setting with
  | catalog | noStandardFactories | unequalExamples =>
    simp only [Setting.fault?, Setting.isNoStandardFactories, Setting.given, Bool.not_false,
      Bool.not_true, Bool.and_true, Bool.and_false, List.append_nil, Option.or_none]
    rfl
  | examples name red black =>
    simp only [Setting.fault?, Setting.isNoStandardFactories, Setting.given, Bool.not_false,
      Bool.and_true, List.append_nil, Setting.apply, withExamples]
    cases examplesFault? name red black with
    | some fault => rfl
    | none =>
      rw [Option.or_none]
      rfl
  | genericValues name | factory name =>
    simp only [Setting.fault?, Setting.isNoStandardFactories, Setting.given, Bool.not_false,
      Bool.and_true, List.append_nil, Setting.apply, withGenericValues, withFactory]
    cases identityFault? name with
    | some fault => rfl
    | none =>
      rw [Option.or_none]
      rfl

/-- The factories given by accepted calls are found, last call first. -/
theorem lookup?_register (registry : Registry) (haccepted : call.setting.fault? = none)
    (identity : String) :
    (call.register registry).lookup? identity =
      (call.override? identity).or (registry.lookup? identity) := by
  rw [Call.register, haccepted, Call.override?]
  cases hcall : call.setting.override? with
  | none => rfl
  | some override =>
    obtain ⟨name, factory⟩ := override
    have hblank := trim_ne_of_override? hcall haccepted
    dsimp only [Option.bind_some]
    rw [Registry.lookup?_register]
    by_cases hname : Text.trim name = Text.trim identity
    · rw [if_pos ⟨hname, hblank⟩, if_pos hname]
      rfl
    · rw [if_neg fun h ↦ hname h.1, if_neg hname]
      rfl

theorem records_forType (descriptor : Except Fault Descriptor) :
    (forType descriptor).Records descriptor [] :=
  ⟨rfl, rfl, rfl, rfl, rfl, fun _ _ ↦ rfl⟩

/-- One more call. -/
theorem Records.perform (h : configuration.Records descriptor calls) (call : Call) :
    (call.perform configuration).Records descriptor (calls ++ [call]) := by
  rw [perform_eq]
  refine ⟨h.descriptor, ?_, ?_, ?_, ?_, fun haccepted identity ↦ ?_⟩
  · rw [h.catalog, lastCatalog?_append]
    cases hcatalog : call.setting.catalog? <;> simp [lastCatalog?, hcatalog]
  · rw [h.standard, switchedOff_append, Bool.not_or]
    simp [switchedOff]
  · rw [h.unequalExamples, allGiven_append]
    simp [allGiven]
  · rw [h.fault, firstFault?_append]
    simp [firstFault?]
  · rw [firstFault?_append, Option.or_eq_none_iff] at haccepted
    have hcall : call.setting.fault? = none := by simpa [firstFault?] using haccepted.2
    rw [lookup?_register _ hcall, h.overrides haccepted.1, lastOverride?_append]
    simp [lastOverride?]

/-- Calls in a row. -/
theorem Records.foldl (h : configuration.Records descriptor calls) (later : List Call) :
    (later.foldl Call.perform configuration).Records descriptor (calls ++ later) := by
  induction later generalizing configuration calls with
  | nil => simpa using h
  | cons call later ih => simpa using ih (h.perform call)

theorem records_ofCalls (descriptor : Except Fault Descriptor) (calls : List Call) :
    (ofCalls descriptor calls).Records descriptor calls :=
  (records_forType descriptor).foldl calls

/-! ### Building -/

theorem Records.validate (h : configuration.Records descriptor calls) :
    configuration.validate = checked descriptor calls := by
  rw [Configuration.validate, h.descriptor, h.fault]
  unfold checked
  cases descriptor with
  | error fault => rfl
  | ok d => cases firstFault? calls <;> rfl

theorem Records.accepted (h : configuration.Records descriptor calls) {d : Descriptor}
    (hvalid : configuration.validate = .ok d) : firstFault? calls = none := by
  rw [h.validate] at hvalid
  unfold checked at hvalid
  cases hfault : firstFault? calls with
  | none => rfl
  | some fault =>
    rw [hfault] at hvalid
    cases descriptor <;> cases hvalid

theorem registry_eq (configuration : Configuration) (start : Nat) :
    configuration.registry start =
      if configuration.usesStandardFactories then
        ((Registry.standard start).1.merge configuration.overrides, (Registry.standard start).2)
      else (configuration.overrides, start) := by
  rw [registry]
  cases configuration.usesStandardFactories <;> rfl

theorem lookup?_registry (configuration : Configuration) (start : Nat) (identity : String) :
    (configuration.registry start).1.lookup? identity =
      (configuration.overrides.lookup? identity).or
        (if configuration.usesStandardFactories then
          (Registry.standard start).1.lookup? identity else none) := by
  rw [registry_eq]
  cases configuration.usesStandardFactories with
  | true => rw [if_pos rfl, if_pos rfl, Registry.lookup?_merge]
  | false => exact Option.or_none.symm

theorem registry_unused (configuration : Configuration) (start : Nat) :
    (configuration.registry start).2 =
      if configuration.usesStandardFactories then (Registry.standard start).2 else start := by
  rw [registry_eq, apply_ite Prod.snd]

variable {first : Resolver} {d : Descriptor} {depthLimit start unused : Nat}

theorem buildWithin_of_error {fault : Fault} (hinvalid : configuration.validate = .error fault)
    (depthLimit start : Nat) :
    configuration.buildWithin depthLimit start = (.error (.fault fault), start) := by
  rw [buildWithin, hinvalid]
  rfl

/-- What building comes to for a type, with the given examples and with a resolver and a next unused
reference number to begin with: with examples nothing is resolved, and without any the type is,
which may fail. -/
inductive Builds (examples : List Value) (d : Descriptor) (first : Resolver) (unused : Nat) :
    Except Failure Fixture × Nat → Prop
  | given (hsome : examples ≠ []) :
    Builds examples d first unused (.ok ⟨d, first, examples⟩, unused)
  | failed {failure : Failure} {reached : Resolver} {later : Nat} (hnone : examples = [])
    (hrun : first.resolve d unused = ((.error failure, reached), later)) :
    Builds examples d first unused (.error failure, later)
  | resolved {shared : SharedTriple} {reached : Resolver} {later : Nat} (hnone : examples = [])
    (hrun : first.resolve d unused = ((.ok shared, reached), later)) :
    Builds examples d first unused
      (.ok ⟨d, reached, [shared.triple.red, shared.triple.black]⟩, later)

theorem builds (hvalid : configuration.validate = .ok d)
    (hfirst : configuration.resolver depthLimit start = (first, unused)) :
    Builds configuration.unequalExamples d first unused
      (configuration.buildWithin depthLimit start) := by
  by_cases hgiven : configuration.unequalExamples = []
  · rcases hrun : first.resolve d unused with ⟨⟨answer, reached⟩, later⟩
    simp only [buildWithin, hvalid, hgiven, List.isEmpty_nil, if_true]
    rw [Fresh.bind_of_eq hfirst, Fresh.bind_of_eq hrun]
    cases answer with
    | error failure => exact .failed rfl hrun
    | ok shared => exact .resolved rfl hrun
  · have hfilled : configuration.unequalExamples.isEmpty = false :=
      List.isEmpty_eq_false_iff.2 hgiven
    simp only [buildWithin, hvalid, hfilled]
    rw [Fresh.bind_of_eq hfirst]
    exact .given hgiven

end Configuration

/-! ### Calls that come to the same -/

/-- Two sources have the same layouts, and the same factory for each identity. -/
structure Sources.SameFactories (first second : Sources) : Prop where
  lookup : ∀ identity, second.registry.lookup? identity = first.registry.lookup? identity
  catalog : second.catalog = first.catalog

/-- How the registry lists its factories makes no difference to requests. -/
theorem Sources.SameFactories.resolveWithin {first second : Sources}
    (h : first.SameFactories second) (depth : Nat) :
    second.resolveWithin depth = first.resolveWithin depth := by
  induction depth with
  | zero => rfl
  | succ depth ih =>
    funext path d
    rw [Sources.resolveWithin, Sources.resolveWithin, Sources.create, Sources.create,
      Sources.assemble, Sources.assemble, h.lookup, h.catalog, ih]

/-- Two resolvers that have the same factories and remember the same. -/
structure Resolver.Alike (first second : Resolver) : Prop where
  sources : first.sources.SameFactories second.sources
  depthLimit : second.depthLimit = first.depthLimit
  memory : second.memory = first.memory

theorem Resolver.Alike.resolve {first second : Resolver} (h : first.Alike second) (d : Descriptor)
    (unused : Nat) :
    (second.resolve d unused).1.1 = (first.resolve d unused).1.1 ∧
      (first.resolve d unused).1.2.Alike (second.resolve d unused).1.2 ∧
      (second.resolve d unused).2 = (first.resolve d unused).2 := by
  rw [Resolver.resolve, Resolver.resolve, resolveWithin_eq, resolveWithin_eq,
    h.sources.resolveWithin, h.depthLimit, h.memory]
  cases first.sources.resolveWithin first.depthLimit RequestPath.empty d ⟨first.memory, unused⟩ with
  | ok shared last => exact ⟨rfl, .mk h.sources rfl rfl, rfl⟩
  | error failure last => exact ⟨rfl, .mk h.sources rfl rfl, rfl⟩

/-- Two fixtures for one type with the same examples, whose resolvers are alike. -/
structure Fixture.Alike (first second : Fixture) : Prop where
  descriptor : second.descriptor = first.descriptor
  resolver : first.resolver.Alike second.resolver
  unequalExamples : second.unequalExamples = first.unequalExamples

/-- Two configurations are built alike: both into fixtures that are alike, or into none for the same
failure, with the same next unused number. -/
inductive SameOutcome : Except Failure Fixture × Nat → Except Failure Fixture × Nat → Prop
  | failed (failure : Failure) (later : Nat) :
    SameOutcome (.error failure, later) (.error failure, later)
  | built {first second : Fixture} (halike : first.Alike second) (later : Nat) :
    SameOutcome (.ok first, later) (.ok second, later)

/-- Two builds for one type, with the same given examples, come to the same if their resolvers are
alike. -/
theorem Configuration.Builds.sameOutcome {examples : List Value} {d : Descriptor}
    {first second : Resolver} {unused : Nat} {built again : Except Failure Fixture × Nat}
    (halike : first.Alike second) (hbuilt : Builds examples d first unused built)
    (hagain : Builds examples d second unused again) : SameOutcome built again := by
  obtain ⟨hanswer, hlater, hnumber⟩ := halike.resolve d unused
  cases hbuilt with
  | given hsome =>
    cases hagain with
    | given =>
      refine .built ?_ _
      exact ⟨rfl, halike, rfl⟩
    | failed hnone | resolved hnone => exact absurd hnone hsome
  | failed hnone hrun =>
    rw [hrun] at hanswer hnumber
    cases hagain with
    | given hsome => exact absurd hnone hsome
    | failed _ hrerun =>
      rw [hrerun] at hanswer hnumber
      cases hanswer
      cases hnumber
      exact .failed _ _
    | resolved _ hrerun =>
      rw [hrerun] at hanswer
      cases hanswer
  | resolved hnone hrun =>
    rw [hrun] at hanswer hlater hnumber
    cases hagain with
    | given hsome => exact absurd hnone hsome
    | failed _ hrerun =>
      rw [hrerun] at hanswer
      cases hanswer
    | resolved _ hrerun =>
      rw [hrerun] at hanswer hlater hnumber
      cases hanswer
      cases hnumber
      refine .built ?_ _
      exact ⟨rfl, hlater, rfl⟩

/-- Two lists of calls agree in all that matters of calls. -/
structure SameSettings (first second : List Call) : Prop where
  fault : firstFault? second = firstFault? first
  catalog : lastCatalog? second = lastCatalog? first
  standard : switchedOff second = switchedOff first
  given : allGiven second = allGiven first
  override : ∀ identity, lastOverride? second identity = lastOverride? first identity

namespace SameSettings

variable {first second : List Call}

theorem alike_resolver (h : SameSettings first second) {descriptor : Except Fault Descriptor}
    {configuration other : Configuration} (hfirst : configuration.Records descriptor first)
    (hsecond : other.Records descriptor second) (haccepted : firstFault? first = none)
    (depthLimit start : Nat) :
    (configuration.resolver depthLimit start).1.Alike (other.resolver depthLimit start).1 where
  depthLimit := rfl
  memory := rfl
  sources := {
    catalog := by
      change other.catalog = configuration.catalog
      rw [hsecond.catalog, hfirst.catalog, h.catalog]
    lookup := fun identity ↦ by
      change (other.registry start).1.lookup? identity =
        (configuration.registry start).1.lookup? identity
      rw [Configuration.lookup?_registry, Configuration.lookup?_registry,
        hsecond.overrides (h.fault.trans haccepted), hfirst.overrides haccepted, h.override,
        hsecond.standard, hfirst.standard, h.standard] }

/-- Only what matters of the calls decides how the configuration is built. -/
theorem buildWithin (h : SameSettings first second) (descriptor : Except Fault Descriptor)
    (depthLimit start : Nat) :
    SameOutcome ((Configuration.ofCalls descriptor first).buildWithin depthLimit start)
      ((Configuration.ofCalls descriptor second).buildWithin depthLimit start) := by
  have hfirst := Configuration.records_ofCalls descriptor first
  have hsecond := Configuration.records_ofCalls descriptor second
  generalize Configuration.ofCalls descriptor first = configuration at hfirst ⊢
  generalize Configuration.ofCalls descriptor second = other at hsecond ⊢
  have hsame : other.validate = configuration.validate := by
    simp only [hsecond.validate, hfirst.validate, checked, h.fault]
  have hunused : (other.registry start).2 = (configuration.registry start).2 := by
    rw [Configuration.registry_unused, Configuration.registry_unused, hsecond.standard,
      hfirst.standard, h.standard]
  have hgiven : other.unequalExamples = configuration.unequalExamples := by
    rw [hsecond.unequalExamples, hfirst.unequalExamples, h.given]
  cases hvalid : configuration.validate with
  | error fault =>
    rw [Configuration.buildWithin_of_error hvalid,
      Configuration.buildWithin_of_error (hsame.trans hvalid)]
    exact .failed _ _
  | ok d =>
    have halike := h.alike_resolver hfirst hsecond (hfirst.accepted hvalid) depthLimit start
    have hbuilt := Configuration.builds hvalid
      (Prod.eta (configuration.resolver depthLimit start)).symm
    have hagain := Configuration.builds (hsame.trans hvalid)
      (Prod.eta (other.resolver depthLimit start)).symm
    have hnumber : (other.resolver depthLimit start).2 =
        (configuration.resolver depthLimit start).2 := hunused
    rw [hgiven, hnumber] at hagain
    exact hbuilt.sameOutcome halike hagain

/-- Calls may be replaced by others that agree with them, among any calls. -/
theorem among (h : SameSettings first second) (before after : List Call) :
    SameSettings (before ++ (first ++ after)) (before ++ (second ++ after)) where
  fault := by simp only [firstFault?_append, h.fault]
  catalog := by simp only [lastCatalog?_append, h.catalog]
  standard := by simp only [switchedOff_append, h.standard]
  given := by simp only [allGiven_append, h.given]
  override identity := by simp only [lastOverride?_append, h.override]

/-- Two calls that give factories for different identities may change places, unless both of them
are refused. -/
theorem swap {call next : Call} {name other : String} {factory made : Fresh Factory}
    (hcall : call.setting.override? = some (name, factory))
    (hnext : next.setting.override? = some (other, made)) (hne : Text.trim name ≠ Text.trim other)
    (haccepted : call.setting.fault? = none ∨ next.setting.fault? = none) :
    SameSettings [call, next] [next, call] := by
  obtain ⟨hcatalog, hstandard, hgiven⟩ := Setting.of_override? hcall
  obtain ⟨hcatalog', hstandard', hgiven'⟩ := Setting.of_override? hnext
  refine ⟨?_, ?_, ?_, ?_, fun identity ↦ ?_⟩
  · rcases haccepted with hnone | hnone <;> simp [firstFault?, hnone, List.findSome?_cons]
  · simp [lastCatalog?, hcatalog, hcatalog']
  · simp [switchedOff, hstandard, hstandard']
  · simp [allGiven, hgiven, hgiven']
  · -- For no identity does a factory come from both calls.
    by_cases hname : Text.trim name = Text.trim identity
    · have hother : Text.trim other ≠ Text.trim identity := fun h ↦ hne (hname.trans h.symm)
      simp [lastOverride?, Call.override?, hcall, hnext, hname, hother]
    · by_cases hother : Text.trim other = Text.trim identity <;>
        simp [lastOverride?, Call.override?, hcall, hnext, hname, hother]

end SameSettings

/-! ### Fixtures -/

/-- A resolver has the last catalog that the calls give, and for each identity the last factory that
they give for it, or else the standard one, unless the standard factories are switched off. -/
structure Resolver.Serves (resolver : Resolver) (calls : List Call) (start : Nat) : Prop where
  catalog : resolver.sources.catalog = (lastCatalog? calls).getD Catalog.empty
  factory : ∀ identity, resolver.sources.registry.lookup? identity =
    (lastOverride? calls identity).or
      (if switchedOff calls then none else (Registry.standard start).1.lookup? identity)

/-- A resolver to begin with after calls: it serves them under a limit, and it has not resolved
anything. -/
structure Resolver.Begins (resolver : Resolver) (calls : List Call) (limit start : Nat) : Prop
    extends resolver.Serves calls start where
  depthLimit : resolver.depthLimit = limit
  memory : resolver.memory = Memory.empty

theorem Configuration.Records.begins {configuration : Configuration}
    {descriptor : Except Fault Descriptor} {calls : List Call}
    (h : configuration.Records descriptor calls) (haccepted : firstFault? calls = none)
    (limit start : Nat) : (configuration.resolver limit start).1.Begins calls limit start where
  catalog := h.catalog
  factory identity := by
    change (configuration.registry start).1.lookup? identity = _
    rw [lookup?_registry, h.overrides haccepted, h.standard]
    cases switchedOff calls <;> rfl
  depthLimit := rfl
  memory := rfl

/-- An answered request leaves the sources as they are and the answer remembered, and the limit
allows for it. -/
theorem Resolver.of_resolve {resolver reached : Resolver} {d : Descriptor} {unused later : Nat}
    {shared : SharedTriple} (hrun : resolver.resolve d unused = ((.ok shared, reached), later)) :
    reached.sources = resolver.sources ∧ reached.depthLimit ≠ 0 ∧
      reached.memory.cache.get? d = some shared := by
  have hanswer : (resolver.resolve d unused).1.1 = .ok shared := by rw [hrun]
  have hcache := cached_of_resolve hanswer
  have hmemory := resolver.resolveWithin_memory .empty d unused
  rw [← Resolver.resolve, hrun] at hmemory
  rw [hrun] at hcache
  dsimp only at hmemory hcache
  refine ⟨by rw [hmemory], fun hzero ↦ ?_, hcache⟩
  rw [hmemory] at hzero
  rw [Resolver.resolve, resolveWithin_eq, hzero] at hanswer
  cases hanswer

/-- A request does not meet the limit if the type reaches fewer types. -/
theorem Resolver.resolve_ne_tooDeep {resolver reached : Resolver} {d : Descriptor}
    {unused later : Nat} (hfinite : (resolver.sources.reachable d).Finite)
    (hlimit : (resolver.sources.reachable d).ncard < resolver.depthLimit) :
    resolver.resolve d unused ≠ ((.error .tooDeep, reached), later) := by
  intro hrun
  have hends := Sources.resolveWithin_ne_tooDeep .empty ⟨resolver.memory, unused⟩ hfinite hlimit
  rw [Resolver.resolve, resolveWithin_eq] at hrun
  generalize resolver.sources.resolveWithin resolver.depthLimit .empty d
    ⟨resolver.memory, unused⟩ = result at hrun hends
  cases result with
  | ok shared last => cases hrun
  | error failure last =>
    cases hrun
    exact hends last rfl

namespace Fixture

/-- The fixture hands out the values of a triple for the type under test, and stays as it is. -/
structure Hands (fixture : Fixture) (shared : SharedTriple) (unused : Nat) : Prop where
  triple : fixture.triple unused = ((.ok shared, fixture), unused)
  red : fixture.red unused = ((.ok shared.triple.red, fixture), unused)
  black : fixture.black unused = ((.ok shared.triple.black, fixture), unused)
  redCopy : fixture.redCopy unused = ((.ok shared.triple.redCopy, fixture), unused)

variable {fixture : Fixture} {shared : SharedTriple}

theorem hands_of_cached (hlimit : fixture.resolver.depthLimit ≠ 0)
    (hcache : fixture.resolver.memory.cache.get? fixture.descriptor = some shared)
    (unused : Nat) : fixture.Hands shared unused := by
  have htriple : fixture.triple unused = ((.ok shared, fixture), unused) := by
    rw [Fixture.triple, Fixture.resolve,
      Fresh.bind_of_eq (Resolver.resolve_of_cached hlimit hcache unused)]
    rfl
  have hvalue (color : Triple → Value) :
      fixture.value color unused = ((.ok (color shared.triple), fixture), unused) := by
    rw [Fixture.value, Fresh.bind_of_eq htriple]
    rfl
  exact ⟨htriple, hvalue _, hvalue _, hvalue _⟩

/-- After further requests a fixture still hands out what it has remembered for its type. -/
theorem hands_of_continues {resolver : Resolver} {later unused : Nat}
    (hlimit : fixture.resolver.depthLimit ≠ 0)
    (hcache : fixture.resolver.memory.cache.get? fixture.descriptor = some shared)
    (h : fixture.resolver.Continues later resolver unused) :
    ({ fixture with resolver := resolver } : Fixture).Hands shared unused := by
  obtain ⟨hsame, hgrown⟩ := h.grows
  exact hands_of_cached (hsame ▸ hlimit) (hgrown.cache _ _ hcache) unused

end Fixture

namespace Configuration

variable {configuration : Configuration} {descriptor : Except Fault Descriptor}
variable {calls : List Call} {examples : List Value} {d : Descriptor} {first : Resolver}
variable {depthLimit start unused : Nat} {built : Except Failure Fixture × Nat}

/-- What a build comes to for a type, with the given examples and with a resolver and a next unused
reference number to begin with. Given examples make a fixture without any request. If there are
none, the build fails exactly if the request for the type does, and with the same failure. If the
request is answered, the fixture has red and black of the answer for examples, and it hands out the
values of this answer ever after, whatever else is requested. A limit above the number of types to
be reached is not what a build fails for. -/
structure Outcome (examples : List Value) (d : Descriptor) (first : Resolver) (unused : Nat)
    (built : Except Failure Fixture × Nat) : Prop where
  given : examples ≠ [] → built = (.ok ⟨d, first, examples⟩, unused)
  failed : ∀ failure later, built = (.error failure, later) ↔
    examples = [] ∧ ∃ reached, first.resolve d unused = ((.error failure, reached), later)
  resolved : examples = [] → ∀ shared reached later,
    first.resolve d unused = ((.ok shared, reached), later) →
      built = (.ok ⟨d, reached, [shared.triple.red, shared.triple.black]⟩, later) ∧
      ∀ last number, reached.Continues later last number →
        Fixture.Hands ⟨d, last, [shared.triple.red, shared.triple.black]⟩ shared number
  ends : (first.sources.reachable d).Finite →
    (first.sources.reachable d).ncard < first.depthLimit → ∀ later, built ≠ (.error .tooDeep, later)

/-- A build fails just as the request for the type does. -/
theorem Builds.failed_iff (h : Builds examples d first unused built) (failure : Failure)
    (later : Nat) : built = (.error failure, later) ↔
      examples = [] ∧ ∃ reached, first.resolve d unused = ((.error failure, reached), later) := by
  constructor
  · rintro rfl
    cases h with
    | failed hnone hrun => exact ⟨hnone, _, hrun⟩
  · rintro ⟨hnone, reached, hanswer⟩
    cases h with
    | given hsome => exact absurd hnone hsome
    | failed _ hrun =>
      cases hrun.symm.trans hanswer
      rfl
    | resolved _ hrun => cases hrun.symm.trans hanswer

theorem Builds.outcome (h : Builds examples d first unused built) :
    Outcome examples d first unused built where
  given hsome := by
    cases h with
    | given => rfl
    | failed hnone | resolved hnone => exact absurd hnone hsome
  failed := h.failed_iff
  resolved := by
    rintro hnone shared reached later hanswer
    cases h with
    | given hsome => exact absurd hnone hsome
    | failed _ hrun => cases hrun.symm.trans hanswer
    | resolved _ hrun =>
      cases hrun.symm.trans hanswer
      obtain ⟨-, hlimit, hcache⟩ := Resolver.of_resolve hanswer
      exact ⟨rfl, fun last number hcontinues ↦ @Fixture.hands_of_continues
        ⟨d, reached, [shared.triple.red, shared.triple.black]⟩ shared last later number hlimit
        hcache hcontinues⟩
  ends hfinite hlimit later hfails := by
    obtain ⟨-, reached, hrun⟩ := (h.failed_iff .tooDeep later).1 hfails
    exact Resolver.resolve_ne_tooDeep hfinite hlimit hrun

/-- A fixture serves the calls that its resolver began with. -/
theorem Builds.serves {fixture : Fixture} {later : Nat}
    (h : Builds examples d first unused (.ok fixture, later)) (hfirst : first.Serves calls start) :
    fixture.descriptor = d ∧ fixture.resolver.Serves calls start := by
  cases h with
  | given => exact ⟨rfl, hfirst⟩
  | resolved _ hrun =>
    obtain ⟨hsources, -⟩ := Resolver.of_resolve hrun
    exact ⟨rfl, hsources ▸ hfirst.catalog, hsources ▸ hfirst.factory⟩

/-- A configuration for any type after any calls, under any limit, of which `build` has the usual
one. A check reports the fault of the type, or else that of the first call that is refused, and a
configuration with a fault is not built, for this fault. Otherwise a build begins with a resolver
that has not resolved anything and that has the last catalog, and the last factory for each identity
or else the standard one unless these are switched off. It comes to what this resolver answers for
the type under test, which is only requested if there are no examples: these are all given ones, in
their order. A fixture is for this type and serves the calls. Two calls in a row that give factories
for different identities may change places. -/
theorem build_ofCalls (descriptor : Except Fault Descriptor) (calls : List Call)
    (depthLimit start : Nat) :
    (ofCalls descriptor calls).validate = checked descriptor calls ∧
    (∀ fault, checked descriptor calls = .error fault →
      (ofCalls descriptor calls).buildWithin depthLimit start = (.error (.fault fault), start)) ∧
    (∀ d, checked descriptor calls = .ok d → ∃ first unused,
      (ofCalls descriptor calls).resolver depthLimit start = (first, unused) ∧
      first.Begins calls depthLimit start ∧
      Outcome (allGiven calls) d first unused
        ((ofCalls descriptor calls).buildWithin depthLimit start)) ∧
    (∀ fixture later,
      (ofCalls descriptor calls).buildWithin depthLimit start = (.ok fixture, later) →
        checked descriptor calls = .ok fixture.descriptor ∧
        fixture.resolver.Serves calls start) ∧
    (∀ before call next after name other factory made, calls = before ++ call :: next :: after →
      call.setting.override? = some (name, factory) →
      next.setting.override? = some (other, made) → Text.trim name ≠ Text.trim other →
      call.setting.fault? = none ∨ next.setting.fault? = none →
        SameOutcome ((ofCalls descriptor calls).buildWithin depthLimit start)
          ((ofCalls descriptor (before ++ next :: call :: after)).buildWithin
            depthLimit start)) := by
  have h := records_ofCalls descriptor calls
  have hbegins (d : Descriptor) (hchecked : checked descriptor calls = .ok d) :=
    h.begins (h.accepted (h.validate.trans hchecked)) depthLimit start
  have hbuilds (d : Descriptor) (hchecked : checked descriptor calls = .ok d) :=
    h.unequalExamples ▸ builds (h.validate.trans hchecked)
      (Prod.eta ((ofCalls descriptor calls).resolver depthLimit start)).symm
  refine ⟨h.validate, fun fault hinvalid ↦ ?_, fun d hchecked ↦ ?_, fun fixture later hbuild ↦ ?_,
    ?_⟩
  · exact buildWithin_of_error (h.validate.trans hinvalid) depthLimit start
  · exact ⟨_, _, rfl, hbegins d hchecked, (hbuilds d hchecked).outcome⟩
  · cases hchecked : checked descriptor calls with
    | error fault =>
      rw [buildWithin_of_error (h.validate.trans hchecked)] at hbuild
      cases hbuild
    | ok d =>
      have hbuilt := hbuilds d hchecked
      rw [hbuild] at hbuilt
      obtain ⟨rfl, hserves⟩ := hbuilt.serves (hbegins d hchecked).toServes
      exact ⟨rfl, hserves⟩
  · rintro before call next after name other factory made rfl hcall hnext hne haccepted
    exact ((SameSettings.swap hcall hnext hne haccepted).among before after).buildWithin descriptor
      depthLimit start

end Configuration

/-! ### A factory under a padded identity -/

namespace Padded

def typeU : Descriptor :=
  .ofLetter 'U' rfl rfl []

/-- No standard factories, and then none at all or one for `U`. -/
def bareCalls : List Call :=
  [⟨.noStandardFactories, 0⟩]

def calls : List Call :=
  bareCalls ++ [⟨.factory " U " (Registry.primitiveFactory (.integer .i32)), 0⟩]

/-- The fault of a type that cannot be made. -/
def missing : Failure :=
  .fault (.cannotSynthesize "U" .noFactoryOrLayout)

end Padded

/-- The values of `U` are found, and they stay what the fixture hands out. Without the factory the
fixture is not built, for the fault of the request. -/
theorem Configuration.build_ofCalls_padded :
    (∃ (reached : Resolver) (shared : SharedTriple),
      (ofCalls (.ok Padded.typeU) Padded.calls).build 0 =
        (.ok ⟨Padded.typeU, reached, [shared.triple.red, shared.triple.black]⟩, 1) ∧
      reached.sources.registry.lookup? "U" =
        some (Registry.primitiveFactory (.integer .i32)) ∧
      ∀ last number, reached.Continues 1 last number →
        Fixture.Hands ⟨Padded.typeU, last, [shared.triple.red, shared.triple.black]⟩ shared
          number) ∧
    (ofCalls (.ok Padded.typeU) Padded.bareCalls).build 0 = (.error Padded.missing, 0) := by
  constructor
  · obtain ⟨-, -, hbuilt, hserved, -⟩ :=
      build_ofCalls (.ok Padded.typeU) Padded.calls Resolver.usualDepthLimit 0
    obtain ⟨first, unused, hfirst, -, houtcome⟩ := hbuilt Padded.typeU rfl
    obtain ⟨shared, reached, hrun⟩ : ∃ shared reached,
        first.resolve Padded.typeU unused = ((.ok shared, reached), 1) := by
      cases hfirst
      exact ⟨_, _, rfl⟩
    obtain ⟨hbuild, hhands⟩ := houtcome.resolved rfl shared reached 1 hrun
    obtain ⟨-, hserves⟩ := hserved _ 1 hbuild
    exact ⟨reached, shared, hbuild, hserves.factory "U", hhands⟩
  · obtain ⟨-, -, hbuilt, -⟩ :=
      build_ofCalls (.ok Padded.typeU) Padded.bareCalls Resolver.usualDepthLimit 0
    obtain ⟨first, unused, hfirst, -, houtcome⟩ := hbuilt Padded.typeU rfl
    refine (houtcome.failed Padded.missing 0).2 ⟨rfl, ?_⟩
    cases hfirst
    exact ⟨_, rfl⟩

end Exemplar
