import Exemplar.Proofs.Synthesis.Settings
import Exemplar.Proofs.Value.Duplication

/-!
Given examples. A pair of examples is accepted if the two values differ and neither of them is null,
and a fixture answers requests for their type with this pair and a duplicate of red. What is not
checked is whether red equals its duplicate. It does unless it is a number that differs from itself
or an object that has one right inside of it, so these are the accepted pairs that do not make a
well-formed triple.
-/

set_option autoImplicit false
set_option relaxedAutoImplicit false

namespace Exemplar

/-! ### Fixed values -/

namespace Sources

variable {sources : Sources} {d : Descriptor} {triple : Triple}

/-- A factory that gives fixed values gives them for all arguments. -/
theorem recipe_of_constant
    (hfactory : sources.registry.lookup? d.identity = some (.constant triple)) :
    sources.recipe d = .ok (.fixed triple) := by
  rw [recipe, hfactory]
  rfl

/-- What is remembered for a type with fixed values are these values. -/
def RemembersFixed (d : Descriptor) (triple : Triple) (memory : Memory) : Prop :=
  ∀ shared, memory.cache.get? d = some shared → shared.triple = triple

/-- No request, within any path, remembers other values for it. -/
theorem remembersFixed_resolveWithin (hrecipe : sources.recipe d = .ok (.fixed triple))
    (depth : Nat) (path : RequestPath) (e : Descriptor) (progress : Progress)
    (hbefore : RemembersFixed d triple progress.memory) :
    RemembersFixed d triple
      (Resolution.reached (sources.resolveWithin depth path e progress)).memory := by
  induction depth generalizing path e progress with
  | zero => exact hbefore
  | succ depth ih =>
    have hparts (recipe : Recipe) : RemembersFixed d triple
        (Resolution.reached (requestAll (sources.resolveWithin depth (path.extend e))
          recipe.requirements progress)).memory :=
      requestAll_keeps (fun later ↦ RemembersFixed d triple later.memory)
        (fun f _ before ↦ ih (path.extend e) f before) hbefore
    have hanswer := sources.answers_resolveWithin depth path e progress
    generalize sources.resolveWithin (depth + 1) path e progress = result at hanswer
    cases hanswer with
    | cached | held | placed | unmade => exact hbefore
    | @failed recipe failure reached _ _ _ hrun =>
      have hreached := hparts recipe
      rwa [hrun] at hreached
    | @made recipe parts reached made unused _ _ hfound hrun hcombine =>
      have hreached := hparts recipe
      rw [hrun] at hreached
      intro shared hshared
      rcases Memory.get?_of_remember hshared with ⟨rfl, rfl⟩ | hshared
      · cases hrecipe.symm.trans hfound
        exact (congrArg Prod.fst hcombine).symm
      · exact hreached shared hshared

/-- A request for a type with fixed values is answered with these. -/
theorem resolveWithin_of_fixed (hrecipe : sources.recipe d = .ok (.fixed triple))
    {progress : Progress} (hbefore : RemembersFixed d triple progress.memory) (depth : Nat) :
    ∃ shared last, sources.resolveWithin (depth + 1) RequestPath.empty d progress =
      .ok shared last ∧ shared.triple = triple := by
  have hanswer := sources.answers_resolveWithin depth RequestPath.empty d progress
  generalize sources.resolveWithin (depth + 1) RequestPath.empty d progress = result at hanswer ⊢
  cases hanswer with
  | cached hcache => exact ⟨_, _, rfl, hbefore _ hcache⟩
  | held _ hmem => cases hmem
  | placed _ hmem => cases hmem
  | unmade _ _ hmissing => cases hrecipe.symm.trans hmissing
  | failed _ _ hfound hrun =>
    cases hrecipe.symm.trans hfound
    cases hrun
  | made _ _ hfound hrun hcombine =>
    cases hrecipe.symm.trans hfound
    exact ⟨_, _, rfl, (congrArg Prod.fst hcombine).symm⟩

end Sources

namespace Resolver

variable {first resolver : Resolver} {start unused : Nat} {d : Descriptor} {triple : Triple}

/-- What every request keeps is so after all of them. -/
theorem Continues.keeps {Inv : Resolver → Prop}
    (hstep : ∀ resolver path e unused, Inv resolver →
      Inv (resolver.resolveWithin path e unused).1.2)
    (hfirst : Inv first) (h : first.Continues start resolver unused) : Inv resolver := by
  induction h with
  | refl => exact hfirst
  | resolve e _ ih => exact hstep _ .empty e _ ih
  | resolveWithin path e _ ih => exact hstep _ path e _ ih
  | idle later _ ih => exact ih

/-- A resolver answers requests for a type with fixed values. -/
structure GivesFixed (d : Descriptor) (triple : Triple) (resolver : Resolver) : Prop where
  depthLimit : resolver.depthLimit ≠ 0
  recipe : resolver.sources.recipe d = .ok (.fixed triple)
  memory : Sources.RemembersFixed d triple resolver.memory

theorem GivesFixed.continues (hfirst : first.GivesFixed d triple)
    (h : first.Continues start resolver unused) : resolver.GivesFixed d triple := by
  refine h.keeps (fun before path e number hbefore ↦ ?_) hfirst
  rw [resolveWithin_memory]
  exact ⟨hbefore.depthLimit, hbefore.recipe, Sources.remembersFixed_resolveWithin hbefore.recipe
    before.depthLimit path e ⟨before.memory, number⟩ hbefore.memory⟩

theorem GivesFixed.resolve (h : resolver.GivesFixed d triple) (unused : Nat) :
    ∃ shared, (resolver.resolve d unused).1.1 = .ok shared ∧ shared.triple = triple := by
  obtain ⟨limit, hlimit⟩ := Nat.exists_eq_succ_of_ne_zero h.depthLimit
  have hbefore : Sources.RemembersFixed d triple (Progress.mk resolver.memory unused).memory :=
    h.memory
  obtain ⟨shared, last, hrun, htriple⟩ := Sources.resolveWithin_of_fixed h.recipe hbefore limit
  refine ⟨shared, ?_, htriple⟩
  rw [Resolver.resolve, resolveWithin_eq, hlimit, hrun]

end Resolver

/-! ### The last factory given -/

/-- No call after this one gives a factory for the identity. -/
theorem lastOverride?_of_last {before after : List Call} {call : Call} {name identity : String}
    {factory : Fresh Factory} (hcall : call.setting.override? = some (name, factory))
    (hname : Text.trim name = Text.trim identity)
    (hafter : ∀ later ∈ after, ∀ other made, later.setting.override? = some (other, made) →
      Text.trim other ≠ Text.trim identity) :
    lastOverride? (before ++ call :: after) identity = some (factory call.unused).1 := by
  have hnone : lastOverride? after identity = none := by
    refine List.findSome?_eq_none_iff.2 fun later hlater ↦ ?_
    rw [Call.override?]
    cases hoverride : later.setting.override? with
    | none => rfl
    | some override =>
      exact if_neg (hafter later (List.mem_reverse.1 hlater) override.1 override.2 hoverride)
  have hlast : lastOverride? [call] identity = some (factory call.unused).1 := by
    simp [lastOverride?, Call.override?, hcall, hname]
  rw [← List.singleton_append, lastOverride?_append, lastOverride?_append, hnone, hlast]
  rfl

/-- A fixture goes on from the resolver that its build begins with. -/
theorem Configuration.Builds.continues {examples : List Value} {d : Descriptor} {first : Resolver}
    {fixture : Fixture} {unused later : Nat}
    (h : Builds examples d first unused (.ok fixture, later)) :
    first.Continues unused fixture.resolver later := by
  cases h with
  | given => exact .refl
  | resolved _ hrun =>
    have hrequest := Resolver.Continues.resolve d (@Resolver.Continues.refl first unused)
    rwa [hrun] at hrequest

/-! ### Well-formed triples -/

/-- Given examples and a duplicate of red are well formed if and only if no number that differs from
itself is nearby red. -/
theorem isWellFormed_examples_iff {heap : Heap} {red black : Value} {unused : Nat}
    (hfresh : heap.FreshFrom unused) (hred : heap.Holds red)
    (hunique : ∀ number object, red = .ref number object → object.isUnique = false)
    (hdiffer : red.equal black = false) :
    (Triple.mk red black (red.duplicate unused).1).isWellFormed = true ↔ red.IsNumberNearby := by
  rw [Triple.isWellFormed, ← Value.equal_duplicate_iff hfresh hred]
  simp [hdiffer, Value.sameReference_duplicate hfresh hred hunique]

namespace Configuration

variable {descriptor : Except Fault Descriptor} {before after : List Call}
variable {identity : String} {red black : Value} {unused : Nat}

theorem differ_of_examplesFault? (haccepted : examplesFault? identity red black = none) :
    red.equal black = false := by
  have hpair := (Option.or_eq_none_iff.1 haccepted).2
  by_contra hequal
  rw [Bool.not_eq_false] at hequal
  rw [hequal] at hpair
  split at hpair <;> cases hpair

/-- A resolver that has not resolved anything gives examples that no later call replaces. -/
theorem givesFixed_resolver {d : Descriptor} {depthLimit : Nat} (hlimit : depthLimit ≠ 0)
    (haccepted : firstFault? (before ++ ⟨.examples identity red black, unused⟩ :: after) = none)
    (hafter : ∀ call ∈ after, ∀ other made, call.setting.override? = some (other, made) →
      Text.trim other ≠ Text.trim identity)
    (hd : d.identity = Text.trim identity) (start : Nat) :
    ((ofCalls descriptor (before ++ ⟨.examples identity red black, unused⟩ :: after)).resolver
      depthLimit start).1.GivesFixed d ⟨red, black, (red.duplicate unused).1⟩ := by
  have hname : Text.trim identity = Text.trim d.identity := by
    rw [hd, Text.trim_trim]
  refine ⟨hlimit, Sources.recipe_of_constant ?_, fun shared hshared ↦ ?_⟩
  · rw [((records_ofCalls descriptor _).begins haccepted depthLimit start).factory,
      lastOverride?_of_last rfl hname (hname ▸ hafter)]
    rfl
  · cases hshared

/-- A fixture gives examples that no later call replaces. -/
theorem givesFixed_of_build {fixture : Fixture} {depthLimit start later : Nat} {d : Descriptor}
    (hlimit : depthLimit ≠ 0)
    (hbuild : (ofCalls descriptor
      (before ++ ⟨.examples identity red black, unused⟩ :: after)).buildWithin depthLimit start =
        (.ok fixture, later))
    (hafter : ∀ call ∈ after, ∀ other made, call.setting.override? = some (other, made) →
      Text.trim other ≠ Text.trim identity)
    (hd : d.identity = Text.trim identity) :
    examplesFault? identity red black = none ∧
      fixture.resolver.GivesFixed d ⟨red, black, (red.duplicate unused).1⟩ := by
  cases hvalid : (ofCalls descriptor
      (before ++ ⟨.examples identity red black, unused⟩ :: after)).validate with
  | error fault =>
    rw [buildWithin_of_error hvalid] at hbuild
    cases hbuild
  | ok e =>
    have haccepted := (records_ofCalls descriptor _).accepted hvalid
    have hbuilds := builds hvalid (Prod.eta ((ofCalls descriptor
      (before ++ ⟨.examples identity red black, unused⟩ :: after)).resolver depthLimit start)).symm
    rw [hbuild] at hbuilds
    exact ⟨List.findSome?_eq_none_iff.1 haccepted ⟨.examples identity red black, unused⟩ (by simp),
      (givesFixed_resolver hlimit haccepted hafter hd start).continues hbuilds.continues⟩

/-- A configuration whose type has fixed values is built. -/
theorem exists_build {configuration : Configuration} {d : Descriptor} {triple : Triple}
    {depthLimit start : Nat} (hvalid : configuration.validate = .ok d)
    (hfixed : (configuration.resolver depthLimit start).1.GivesFixed d triple) :
    ∃ fixture later, configuration.buildWithin depthLimit start = (.ok fixture, later) := by
  have hbuilds := builds hvalid (Prod.eta (configuration.resolver depthLimit start)).symm
  generalize configuration.buildWithin depthLimit start = result at hbuilds ⊢
  cases hbuilds with
  | given => exact ⟨_, _, rfl⟩
  | failed _ hrun =>
    obtain ⟨shared, hanswer, -⟩ := hfixed.resolve (configuration.resolver depthLimit start).2
    rw [hrun] at hanswer
    cases hanswer
  | resolved => exact ⟨_, _, rfl⟩

/-- Given examples of a type, that no later call replaces, are its values in a fixture with any
limit that allows for a request, whatever else is requested. Red and black differ. The triple is well
formed if and only if neither red nor a part right inside of red is a number that differs from
itself, provided that red is not one of the objects that exist only once. -/
theorem examples_well_formed_iff {heap : Heap} {fixture : Fixture} {resolver : Resolver}
    {depthLimit start later number : Nat} {d : Descriptor} (hfresh : heap.FreshFrom unused)
    (hred : heap.Makes red)
    (hunique : ∀ number object, red = .ref number object → object.isUnique = false)
    (hlimit : depthLimit ≠ 0)
    (hbuild : (ofCalls descriptor
      (before ++ ⟨.examples identity red black, unused⟩ :: after)).buildWithin depthLimit start =
        (.ok fixture, later))
    (hafter : ∀ call ∈ after, ∀ other made, call.setting.override? = some (other, made) →
      Text.trim other ≠ Text.trim identity)
    (hcontinues : fixture.resolver.Continues later resolver number)
    (hd : d.identity = Text.trim identity) :
    ∃ shared, (resolver.resolve d number).1.1 = .ok shared ∧
      shared.triple = ⟨red, black, (red.duplicate unused).1⟩ ∧ red.equal black = false ∧
      (shared.triple.isWellFormed = true ↔ red.IsNumberNearby) := by
  obtain ⟨haccepted, hfixed⟩ := givesFixed_of_build hlimit hbuild hafter hd
  obtain ⟨shared, hanswer, htriple⟩ := (hfixed.continues hcontinues).resolve number
  have hdiffer := differ_of_examplesFault? haccepted
  refine ⟨shared, hanswer, htriple, hdiffer, ?_⟩
  rw [htriple]
  exact isWellFormed_examples_iff hfresh hred.holds hunique hdiffer

end Configuration

/-! ### Examples of one type -/

namespace GivenPair

/-- The type under test. -/
def typeY : Descriptor :=
  .ofLetter 'Y' rfl rfl []

/-- Another type of the same name. -/
def typeYOfY : Descriptor :=
  .ofLetter 'Y' rfl rfl [typeY]

/-- A number that differs from itself. -/
def nan : Value :=
  .floating ⟨.single, 0x7fc00000, by decide⟩

def one : Value :=
  .floating (.one .single)

/-- A list of one number. -/
def list (number : Nat) (item : Value) : Value :=
  .ref number (.collection "Y" true [item])

/-- Examples of `Y`, with no call before them, and no standard factories. -/
def calls (red black : Value) : List Call :=
  [] ++ ⟨.examples "Y" red black, 2⟩ :: [⟨.noStandardFactories, 3⟩]

/-- The red list, which is the only object. -/
def heap : Heap :=
  Heap.empty.allocate 0 (.collection "Y" true [one])

theorem freshFrom_heap : heap.FreshFrom 2 :=
  (Heap.freshFrom_allocate (Heap.freshFrom_empty 0) _).mono (by decide)

theorem makes_red : heap.Makes (list 0 one) :=
  .of_ref ⟨rfl, trivial⟩ (List.forall_mem_singleton.2 (.of_inline trivial rfl))

theorem isNumberNearby_red : (list 0 one).IsNumberNearby := by
  refine ⟨trivial, ?_⟩
  rintro _ _ h part hpart
  cases h
  cases List.mem_singleton.1 hpart
  exact (rfl : (Floating.one .single).isNaN = false)

/-- No other call gives a factory. -/
theorem keeps_examples : ∀ call ∈ [Call.mk .noStandardFactories 3], ∀ other made,
    call.setting.override? = some (other, made) → Text.trim other ≠ Text.trim "Y" := by
  intro call hcall other made hoverride
  cases List.mem_singleton.1 hcall
  cases hoverride

theorem exists_build {red black : Value}
    (haccepted : Configuration.examplesFault? "Y" red black = none) :
    ∃ fixture later, (Configuration.ofCalls (.ok typeY) (calls red black)).build 3 =
      (.ok fixture, later) := by
  have hnone : firstFault? (calls red black) = none := by
    simp [firstFault?, calls, Setting.fault?, haccepted]
  have hvalid : (Configuration.ofCalls (.ok typeY) (calls red black)).validate = .ok typeY := by
    rw [(Configuration.records_ofCalls _ _).validate]
    simp only [checked, hnone]
  exact Configuration.exists_build hvalid
    (Configuration.givesFixed_resolver (Nat.succ_ne_zero _) hnone keeps_examples rfl 3)

end GivenPair

namespace Configuration

/-- Lists of one number are examples of `Y` with any arguments. The red one equals its copy although
the black one would not. -/
theorem examples_well_formed_for_list : ∃ fixture later shared,
    (ofCalls (.ok GivenPair.typeY) (GivenPair.calls (GivenPair.list 0 GivenPair.one)
      (GivenPair.list 1 GivenPair.nan))).build 3 = (.ok fixture, later) ∧
    (fixture.resolver.resolve GivenPair.typeYOfY later).1.1 = .ok shared ∧
    shared.triple.isWellFormed = true := by
  have haccepted : examplesFault? "Y" (GivenPair.list 0 GivenPair.one)
      (GivenPair.list 1 GivenPair.nan) = none := rfl
  obtain ⟨fixture, later, hbuild⟩ := GivenPair.exists_build haccepted
  have hidentity : GivenPair.typeYOfY.identity = Text.trim "Y" := rfl
  obtain ⟨shared, hanswer, -, -, hformed⟩ := examples_well_formed_iff GivenPair.freshFrom_heap
    GivenPair.makes_red (fun _ _ h ↦ by cases h; rfl) (Nat.succ_ne_zero _) hbuild
    GivenPair.keeps_examples .refl hidentity
  exact ⟨fixture, later, shared, hbuild, hanswer, hformed.2 GivenPair.isNumberNearby_red⟩

/-- A number that differs from itself and another number are accepted as examples. Red is neither a
constant of an enumeration nor a hollow object, and the triple is not well formed. -/
theorem accepted_examples_not_well_formed :
    examplesFault? "Y" GivenPair.nan GivenPair.one = none ∧ GivenPair.nan.object? = none ∧
    ∃ fixture later shared,
      (ofCalls (.ok GivenPair.typeY) (GivenPair.calls GivenPair.nan GivenPair.one)).build 3 =
        (.ok fixture, later) ∧
      (fixture.resolver.resolve GivenPair.typeY later).1.1 = .ok shared ∧
      shared.triple.isWellFormed = false := by
  have haccepted : examplesFault? "Y" GivenPair.nan GivenPair.one = none := rfl
  obtain ⟨fixture, later, hbuild⟩ := GivenPair.exists_build haccepted
  have hidentity : GivenPair.typeY.identity = Text.trim "Y" := rfl
  obtain ⟨-, hfixed⟩ := givesFixed_of_build (Nat.succ_ne_zero _) hbuild GivenPair.keeps_examples
    hidentity
  obtain ⟨shared, hanswer, htriple⟩ := hfixed.resolve later
  refine ⟨haccepted, rfl, fixture, later, shared, hbuild, hanswer, ?_⟩
  rw [htriple]
  rfl

end Configuration

end Exemplar
