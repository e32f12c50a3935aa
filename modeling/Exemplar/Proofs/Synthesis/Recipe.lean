import Exemplar.Synthesis.Resolver

/-!
What a type is made of, and how. The recipe of a type names the types whose values are requested, in
order, and says how their triples are combined. It exists unless the type cannot be made for a
reason of its own, and finding it requests nothing. The values of a type are made by following its
recipe (`Sources.create_eq`), so a statement about all factories and about the assembly is a
statement about recipes.
-/

set_option autoImplicit false
set_option relaxedAutoImplicit false

namespace Exemplar

/-- How the values of a type come about: fixed values, the first constants of an enumeration, the
same construction from each color of some types, the colors of one type converted one by one, or
maps from keys to values. -/
inductive Recipe
  | fixed (triple : Triple)
  | constants (layout : Layout) (first : Constant) (others : List Constant)
  | parts (types : List Descriptor) (build : List Value → Fresh Value)
  | conversion (source : Descriptor) (convert : Value → Fresh Value)
  | pairing (container : String) (key value : Descriptor)

namespace Recipe

/-- The types whose triples are requested, in the order of the requests. -/
def requirements : Recipe → List Descriptor
  | fixed _ => []
  | constants _ _ _ => []
  | parts types _ => types
  | conversion source _ => [source]
  | pairing _ key value => [key, value]

/-- The triple made from the triples of the required types, which are given in order. No other
number of triples is ever combined. -/
def combine : Recipe → List Triple → Fresh Triple
  | fixed triple, _ => return triple
  | constants layout first others, _ =>
    return ⟨layout.constantValue first, layout.constantValue (others.headD first),
      layout.constantValue first⟩
  | parts _ build, triples => do
    let red ← build (triples.map Triple.red)
    let black ← build (triples.map Triple.black)
    let redCopy ← build (triples.map Triple.red)
    return ⟨red, black, redCopy⟩
  | conversion _ convert, [source] => source.map convert
  | pairing container _ _, [keys, values] => do
    let red ← (Object.map container [(keys.red, values.black)]).alloc
    let black ← (Object.map container
      (if keys.red.equal keys.black then [] else [(keys.black, values.black)])).alloc
    let redCopy ← (Object.map container [(keys.red, values.black)]).alloc
    return ⟨red, black, redCopy⟩
  | _, _ => return ⟨.null, .null, .null⟩

end Recipe

/-- Three calls in a row, which make red, black and red copy. -/
def threeCalls {α : Type} (call : α → Fresh Value) (a b c : α) : Fresh Triple := do
  let red ← call a
  let black ← call b
  let redCopy ← call c
  return ⟨red, black, redCopy⟩

namespace Recipe

theorem combine_parts (types : List Descriptor) (build : List Value → Fresh Value)
    (triples : List Triple) :
    (parts types build).combine triples = threeCalls build (triples.map Triple.red)
      (triples.map Triple.black) (triples.map Triple.red) :=
  rfl

theorem combine_conversion (source : Descriptor) (convert : Value → Fresh Value)
    (triple : Triple) :
    (conversion source convert).combine [triple] =
      threeCalls convert triple.red triple.black triple.redCopy :=
  rfl

/-- The entries of the map for black, which has none if the keys do not differ. -/
def blackEntries (keys values : Triple) : List (Value × Value) :=
  if keys.red.equal keys.black then [] else [(keys.black, values.black)]

theorem combine_pairing (container : String) (key value : Descriptor) (keys values : Triple) :
    (pairing container key value).combine [keys, values] =
      threeCalls (fun entries ↦ (Object.map container entries).alloc)
        [(keys.red, values.black)] (blackEntries keys values) [(keys.red, values.black)] :=
  rfl

end Recipe

/-- The constructor called with a list of arguments, as many as it takes. -/
def GenericConstructor.call : GenericConstructor → List Value → Fresh Value
  | unary build, [first] => build first
  | binary build, [first, second] => build first second
  | _, _ => return .null

/-- The types that stand for the first type parameters, as many as a factory takes. -/
def Descriptor.firstArguments (d : Descriptor) (count : Nat) : List Descriptor :=
  (List.range count).map d.argumentOrObject

/-- The recipe of a factory for a type, unless the factory declines the type or would have to rename
it to something that is no name. -/
def Factory.recipe (factory : Factory) (d : Descriptor) : Except Fault Recipe :=
  match factory with
  | constant triple => .ok (.fixed triple)
  | collection build =>
    if 1 < d.arguments.length then
      .error (.unsupportedType d.display (.tooManyArguments 1 d.arguments.length))
    else .ok (.parts (d.firstArguments 1) (build d))
  | copy underlying convert => do return .conversion (← d.rename underlying) convert
  | map =>
    if 2 < d.arguments.length then
      .error (.unsupportedType d.display (.tooManyArguments 2 d.arguments.length))
    else .ok (.pairing d.identity (d.argumentOrObject 0) (d.argumentOrObject 1))
  | generic constructor =>
    if constructor.arity < d.arguments.length then
      .error (.unsupportedType d.display
        (.tooManyArguments constructor.arity d.arguments.length))
    else .ok (.parts (d.firstArguments constructor.arity) constructor.call)

/-- The record of a type with the given fields, from the values of its fields. -/
def Assembly.record (d : Descriptor) (fields : List Field) (values : List Value) : Fresh Value :=
  (Object.record d ((fields.map Field.name).zip values)).alloc

/-- The recipe of a type by its layout. -/
def Assembly.recipe (catalog : Catalog) (d : Descriptor) : Except Fault Recipe :=
  match catalog.layout? d.identity with
  | none => .error (.cannotSynthesize d.display .noFactoryOrLayout)
  | some layout =>
    match layout.kind with
    | .enumeration [] => .error (.cannotSynthesize d.display .noConstants)
    | .enumeration (first :: others) => .ok (.constants layout first others)
    | .interface => .error (.cannotSynthesize d.display .interfaceStorage)
    | .ordinary | .abstract => do
      let fields ← catalog.fields d
      return .parts (fields.map Field.type) (Assembly.record d fields)

/-- The recipe of a type: that of its factory, or that of its layout if there is no factory or the
factory declines the type. -/
def Sources.recipe (sources : Sources) (d : Descriptor) : Except Fault Recipe :=
  match sources.registry.lookup? d.identity with
  | none => Assembly.recipe sources.catalog d
  | some factory =>
    match factory.recipe d with
    | .ok recipe => .ok recipe
    | .error fault =>
      if fault.isUnsupported then Assembly.recipe sources.catalog d else .error fault

/-! ### Which recipes there are -/

/-- What holds of one more factory, and of all factories before, holds of all factories. -/
theorem Registry.forall_lookup?_register {P : Factory → Prop} {registry : Registry}
    {factory : Factory} (identity : String) (hfactory : P factory)
    (hregistry : ∀ other found, registry.lookup? other = some found → P found) :
    ∀ other found, (registry.register identity factory).lookup? other = some found → P found := by
  intro other found hfound
  rw [lookup?_register] at hfound
  split at hfound
  · cases hfound
    exact hfactory
  · exact hregistry other found hfound

@[simp]
theorem Descriptor.length_firstArguments (d : Descriptor) (count : Nat) :
    (d.firstArguments count).length = count := by
  simp [firstArguments]

/-- The recipe of a factory, if it has one for a type. -/
theorem Factory.recipe_eq_ok {factory : Factory} {d : Descriptor} {recipe : Recipe}
    (hrecipe : factory.recipe d = .ok recipe) :
    match factory with
    | constant triple => recipe = .fixed triple
    | collection build => recipe = .parts (d.firstArguments 1) (build d)
    | copy _ convert => ∃ source, recipe = .conversion source convert
    | map => recipe = .pairing d.identity (d.argumentOrObject 0) (d.argumentOrObject 1)
    | generic constructor =>
      recipe = .parts (d.firstArguments constructor.arity) constructor.call := by
  cases factory with
  | constant triple => cases hrecipe; rfl
  | copy underlying convert =>
    simp only [Factory.recipe] at hrecipe
    cases hsource : d.rename underlying with
    | error fault => rw [hsource] at hrecipe; cases hrecipe
    | ok source => rw [hsource] at hrecipe; cases hrecipe; exact ⟨source, rfl⟩
  | collection build | map | generic constructor =>
    simp only [Factory.recipe] at hrecipe
    split at hrecipe <;> cases hrecipe
    rfl

/-- The recipe of a layout is that of an enumeration or that of a record. -/
theorem Assembly.recipe_eq_ok {catalog : Catalog} {d : Descriptor} {recipe : Recipe}
    (hrecipe : Assembly.recipe catalog d = .ok recipe) :
    (∃ layout first others, catalog.layout? d.identity = some layout ∧
      layout.kind = .enumeration (first :: others) ∧ recipe = .constants layout first others) ∨
    ∃ fields, catalog.fields d = .ok fields ∧
      recipe = .parts (fields.map Field.type) (record d fields) := by
  unfold Assembly.recipe at hrecipe
  split at hrecipe
  · cases hrecipe
  · rename_i layout hlayout
    split at hrecipe
    · cases hrecipe
    · rename_i first others hkind
      cases hrecipe
      exact .inl ⟨layout, first, others, hlayout, hkind, rfl⟩
    · cases hrecipe
    all_goals
      cases hfields : catalog.fields d with
      | error fault => rw [hfields] at hrecipe; cases hrecipe
      | ok fields =>
        rw [hfields] at hrecipe
        cases hrecipe
        exact .inr ⟨fields, rfl, rfl⟩

/-- A type without a factory that has an ordinary layout is made of its fields. -/
theorem Sources.recipe_of_fields {sources : Sources} {d : Descriptor} {layout : Layout}
    {fields : List Field} (hfactory : sources.registry.lookup? d.identity = none)
    (hlayout : sources.catalog.layout? d.identity = some layout)
    (hkind : layout.kind = .ordinary) (hfields : sources.catalog.fields d = .ok fields) :
    sources.recipe d = .ok (.parts (fields.map Field.type) (Assembly.record d fields)) := by
  rw [recipe, hfactory]
  simp only [Assembly.recipe, hlayout, hkind, hfields]
  rfl

/-- The recipe of a type comes from its factory or from its layout. -/
theorem Sources.recipe_eq_ok {sources : Sources} {d : Descriptor} {recipe : Recipe}
    (hrecipe : sources.recipe d = .ok recipe) :
    (∃ factory, sources.registry.lookup? d.identity = some factory ∧
      factory.recipe d = .ok recipe) ∨
    Assembly.recipe sources.catalog d = .ok recipe := by
  unfold Sources.recipe at hrecipe
  split at hrecipe
  · exact .inr hrecipe
  · rename_i factory hfactory
    split at hrecipe
    · rename_i found hfound
      cases hrecipe
      exact .inl ⟨factory, hfactory, hfound⟩
    · split at hrecipe
      · exact .inr hrecipe
      · cases hrecipe

/-! ### Following a recipe -/

/-- The triples of several types, requested one after the other. -/
def requestAll (request : Request) : List Descriptor → Resolution (List SharedTriple)
  | [] => pure []
  | d :: ds => do
    let shared ← request d
    let others ← requestAll request ds
    return shared :: others

/-- Follows a recipe: requests what it requires and combines the answers. -/
def Recipe.follow (request : Request) (recipe : Recipe) : Resolution Triple := do
  let parts ← requestAll request recipe.requirements
  Resolution.ofFresh (recipe.combine (parts.map SharedTriple.triple))

/-! ### Final faults -/

namespace Resolution

variable {α β : Type}

/-- Every fault of the run is final: no other way of making values could still help. -/
def IsFinal (run : Resolution α) : Prop :=
  ∀ progress fault reached, run progress = .error (.fault fault) reached →
    fault.isUnsupported = false

theorem isFinal_pure (answer : α) : IsFinal (pure answer : Resolution α) := by
  intro progress fault reached hrun
  cases hrun

theorem isFinal_ofFresh (action : Fresh α) : (ofFresh action).IsFinal := by
  intro progress fault reached hrun
  cases hrun

theorem isFinal_ofExcept {answer : Except Fault α}
    (hanswer : ∀ fault, answer = .error fault → fault.isUnsupported = false) :
    (ofExcept answer).IsFinal := by
  intro progress fault reached hrun
  cases answer with
  | ok answer => cases hrun
  | error stated =>
    cases hrun
    exact hanswer fault rfl

theorem isFinal_bind {run : Resolution α} {next : α → Resolution β} (hrun : run.IsFinal)
    (hnext : ∀ answer, (next answer).IsFinal) : (run >>= next).IsFinal := by
  intro progress fault reached hbind
  change EStateM.bind run next progress = _ at hbind
  unfold EStateM.bind at hbind
  split at hbind
  · exact hnext _ _ _ _ hbind
  · rename_i hfail
    cases hbind
    exact hrun _ _ _ hfail

theorem isFinal_fatal (run : Resolution α) : run.fatal.IsFinal := by
  intro progress fault reached hrun
  unfold fatal at hrun
  split at hrun
  · cases hrun
    exact Fault.isUnsupported_toFatal _
  · rename_i hother
    exact absurd hrun (hother _ _)

theorem fatal_of_isFinal {run : Resolution α} (hrun : run.IsFinal) : run.fatal = run := by
  funext progress
  unfold fatal
  split
  · rename_i fault reached hfail
    rw [hfail, (Fault.toFatal_eq_self_iff fault).2 (hrun _ _ _ hfail)]
  · rfl

theorem orIfUnsupported_of_isFinal {first : Resolution α} (hfirst : first.IsFinal)
    (second : Resolution α) : first.orIfUnsupported second = first := by
  funext progress
  unfold orIfUnsupported
  split
  · rename_i hrun
    rw [hfirst _ _ _ hrun, hrun]
    rfl
  · rfl

theorem ofExcept_error_bind (fault : Fault) (next : α → Resolution β) :
    ofExcept (.error fault) >>= next = ofExcept (.error fault) :=
  rfl

theorem ofExcept_ok_bind (answer : α) (next : α → Resolution β) :
    ofExcept (.ok answer) >>= next = next answer :=
  rfl

theorem orIfUnsupported_ofExcept_error (fault : Fault) (second : Resolution α) :
    (ofExcept (.error fault)).orIfUnsupported second =
      if fault.isUnsupported then second else ofExcept (.error fault) := by
  funext progress
  change (if fault.isUnsupported then _ else _) = _
  split <;> rfl

theorem isFinal_orIfUnsupported {first second : Resolution α} (hsecond : second.IsFinal) :
    (first.orIfUnsupported second).IsFinal := by
  intro progress fault reached hrun
  unfold orIfUnsupported at hrun
  split at hrun
  · split at hrun
    · exact hsecond _ _ _ hrun
    · rename_i hfinal
      cases hrun
      simpa using hfinal
  · rename_i hother
    exact absurd hrun (hother _ _)

end Resolution

/-- Requests whose faults are all final, as those of the resolver are. -/
def Request.IsFinal (request : Request) : Prop :=
  ∀ d, (request d).IsFinal

theorem Request.IsFinal.requestAll {request : Request} (hrequest : request.IsFinal)
    (ds : List Descriptor) : (requestAll request ds).IsFinal := by
  induction ds with
  | nil => exact Resolution.isFinal_pure _
  | cons d ds ih =>
    exact Resolution.isFinal_bind (hrequest d) fun _ ↦
      Resolution.isFinal_bind ih fun _ ↦ Resolution.isFinal_pure _

theorem Request.IsFinal.follow {request : Request} (hrequest : request.IsFinal)
    (recipe : Recipe) : (recipe.follow request).IsFinal :=
  Resolution.isFinal_bind (hrequest.requestAll _) fun _ ↦ Resolution.isFinal_ofFresh _

/-! ### Factories and assemblies follow recipes -/

namespace Recipe

theorem follow_parts_singleton (request : Request) (d : Descriptor)
    (build : List Value → Fresh Value) :
    (parts [d] build).follow request = request d >>= fun shared ↦
      Factory.threeOf (build [shared.triple.red]) (build [shared.triple.black]) := by
  simp [follow, requestAll, requirements, combine, Factory.threeOf]

theorem follow_parts_pair (request : Request) (d e : Descriptor)
    (build : List Value → Fresh Value) :
    (parts [d, e] build).follow request = request d >>= fun first ↦ request e >>= fun second ↦
      Factory.threeOf (build [first.triple.red, second.triple.red])
        (build [first.triple.black, second.triple.black]) := by
  simp [follow, requestAll, requirements, combine, Factory.threeOf]

end Recipe

namespace Factory

theorem checkArity_bind {α : Type} (d : Descriptor) (limit : Nat) (next : Resolution α) :
    (checkArity d limit >>= fun _ ↦ next) =
      if limit < d.arguments.length then
        Resolution.ofExcept
          (.error (.unsupportedType d.display (.tooManyArguments limit d.arguments.length)))
      else next := by
  unfold checkArity
  split <;> rfl

/-- A factory follows its recipe. -/
theorem create_eq (request : Request) (factory : Factory) (d : Descriptor) :
    factory.create request d =
      Resolution.ofExcept (factory.recipe d) >>= Recipe.follow request := by
  cases factory with
  | constant triple => rfl
  | collection build =>
    simp only [create, wrapArgument, recipe, checkArity_bind]
    split
    · rfl
    · exact (Recipe.follow_parts_singleton request _ _).symm
  | copy underlying convert =>
    simp only [create, convertUnderlying, recipe]
    cases d.rename underlying with
    | error fault => rfl
    | ok source =>
      change _ = (Recipe.conversion source convert).follow request
      simp [Recipe.follow, requestAll, Recipe.requirements, Recipe.combine, Resolution.ofExcept]
  | map =>
    simp only [create, pairArguments, recipe, checkArity_bind]
    split
    · rfl
    · simp [Resolution.ofExcept, Recipe.follow, requestAll, Recipe.requirements, Recipe.combine,
        threeOf]
  | generic constructor =>
    simp only [create, callConstructor, recipe, checkArity_bind]
    split
    · rfl
    · cases constructor with
      | unary build =>
        exact (Recipe.follow_parts_singleton request (d.argumentOrObject 0)
          (GenericConstructor.unary build).call).symm
      | binary build =>
        exact (Recipe.follow_parts_pair request (d.argumentOrObject 0) (d.argumentOrObject 1)
          (GenericConstructor.binary build).call).symm

end Factory

namespace Assembly

theorem setSlot_length (d : Descriptor) (before after : List (String × Value)) (name : String)
    (old value : Value) :
    Blank.setSlot ⟨d, before ++ (name, old) :: after⟩ before.length value =
      .ok ⟨d, before ++ (name, value) :: after⟩ := by
  have hmodify : (before ++ (name, old) :: after).modify before.length
      (fun slot ↦ (slot.1, value)) = before ++ (name, value) :: after := by
    induction before with
    | nil => rfl
    | cons slot before ih => rw [List.cons_append, List.length_cons, List.modify_succ_cons, ih]; rfl
  rw [Blank.setSlot, if_pos (by simp [Blank.size]), Blank.write, hmodify]

/-- The records of a type of which the first slots are written and those of the given fields are
not. Red and red copy are always written with the same value. -/
def partlyFilled (d : Descriptor) (reds blacks : List (String × Value)) (fields : List Field) :
    BlankTriple :=
  let zeros := fields.map fun field ↦ (field.name, Blank.zero field)
  ⟨⟨d, reds ++ zeros⟩, ⟨d, blacks ++ zeros⟩, ⟨d, reds ++ zeros⟩⟩

theorem setSlot_partlyFilled (d : Descriptor) {reds blacks : List (String × Value)}
    (hlength : blacks.length = reds.length) (field : Field) (fields : List Field)
    (triple : Triple) :
    (partlyFilled d reds blacks (field :: fields)).setSlot reds.length triple =
      .ok (partlyFilled d (reds ++ [(field.name, triple.red)])
        (blacks ++ [(field.name, triple.black)]) fields) := by
  have hred := setSlot_length d reds
    (fields.map fun field ↦ (field.name, Blank.zero field)) field.name (Blank.zero field) triple.red
  have hblack := setSlot_length d blacks
    (fields.map fun field ↦ (field.name, Blank.zero field)) field.name (Blank.zero field)
    triple.black
  rw [hlength] at hblack
  simp only [partlyFilled, BlankTriple.setSlot, List.map_cons, hred, hblack, List.append_assoc,
    List.singleton_append]
  rfl

/-- Filling requests the types of the remaining fields in order and writes each slot once. -/
theorem fill_partlyFilled (request : Request) (d : Descriptor) (fields : List Field)
    (reds blacks : List (String × Value)) (hlength : blacks.length = reds.length) :
    fill request (partlyFilled d reds blacks fields) reds.length fields =
      requestAll request (fields.map Field.type) >>= fun parts ↦
        let slots (color : Triple → Value) :=
          (fields.map Field.name).zip (parts.map fun shared ↦ color shared.triple)
        pure (partlyFilled d (reds ++ slots Triple.red) (blacks ++ slots Triple.black) []) := by
  induction fields generalizing reds blacks with
  | nil => simp [fill, requestAll]
  | cons field fields ih =>
    have hwritten (shared : SharedTriple) :=
      ih (reds ++ [(field.name, shared.triple.red)]) (blacks ++ [(field.name, shared.triple.black)])
        (by simp [hlength])
    simp only [List.length_append, List.length_singleton] at hwritten
    simp [fill, requestAll, setSlot_partlyFilled d hlength, Resolution.ofExcept, hwritten]

/-- The records of a type by its fields follow a recipe: requests first, then the three records. -/
theorem follow_record (request : Request) (d : Descriptor) (fields : List Field) :
    (fill request
        ⟨Blank.zeroed d fields, Blank.zeroed d fields, Blank.zeroed d fields⟩ 0 fields >>=
      fun blanks ↦ Resolution.ofFresh blanks.freeze) =
      (Recipe.parts (fields.map Field.type) (record d fields)).follow request := by
  have hfill := fill_partlyFilled request d fields [] [] rfl
  simp only [partlyFilled, List.nil_append, List.length_nil] at hfill
  rw [Blank.zeroed, hfill]
  simp [Recipe.follow, Recipe.requirements, Recipe.combine, BlankTriple.freeze, Blank.freeze,
    record, Function.comp_def]

/-- An assembly follows the recipe of the layout. -/
theorem create_eq_follow (request : Request) (catalog : Catalog) (d : Descriptor) :
    create request catalog d =
      Resolution.ofExcept (recipe catalog d) >>= Recipe.follow request := by
  unfold create recipe
  cases hlayout : catalog.layout? d.identity with
  | none => rfl
  | some layout =>
    simp only [Blank.allocate, hlayout]
    cases hkind : layout.kind with
    | enumeration constants => rcases constants with _ | ⟨first, _ | ⟨second, others⟩⟩ <;> rfl
    | interface => rfl
    | ordinary | abstract =>
      cases hfields : catalog.fields d with
      | error fault => rfl
      | ok fields => exact follow_record request d fields

theorem fieldsFrom_isFinal (start : Descriptor) (layouts : Table String Layout)
    (visited : List String) (d : Descriptor) (fault : Fault)
    (hfields : Catalog.fieldsFrom start layouts visited d = .error fault) :
    fault.isUnsupported = false := by
  fun_induction Catalog.fieldsFrom start layouts visited d with
  | case1 => cases hfields; rfl
  | case2 => cases hfields; rfl
  | case3 => cases hfields
  | case4 layouts visited d _ layout _ superclass _ ih =>
    cases hinherited : Catalog.fieldsFrom start (layouts.erase d.identity) (d.identity :: visited)
      (superclass.substitute layout.parameters d.arguments) with
    | ok inherited =>
      rw [hinherited] at hfields
      cases hfields
    | error stated =>
      rw [hinherited] at hfields
      cases hfields
      exact ih hinherited

/-- An assembly never declines a type. -/
theorem recipe_isFinal (catalog : Catalog) (d : Descriptor) (fault : Fault)
    (hrecipe : recipe catalog d = .error fault) : fault.isUnsupported = false := by
  unfold recipe at hrecipe
  split at hrecipe
  · cases hrecipe; rfl
  · split at hrecipe
    · cases hrecipe; rfl
    · cases hrecipe
    · cases hrecipe; rfl
    all_goals
      cases hfields : catalog.fields d with
      | ok fields => rw [hfields] at hrecipe; cases hrecipe
      | error stated =>
        rw [hfields] at hrecipe
        cases hrecipe
        exact fieldsFrom_isFinal d catalog.layouts [] d fault hfields

end Assembly

namespace Sources

/-- The recipe of a type is missing for a final reason. -/
theorem recipe_isFinal (sources : Sources) (d : Descriptor) (fault : Fault)
    (hrecipe : sources.recipe d = .error fault) : fault.isUnsupported = false := by
  unfold recipe at hrecipe
  split at hrecipe
  · exact Assembly.recipe_isFinal _ _ _ hrecipe
  · split at hrecipe
    · cases hrecipe
    · split at hrecipe
      · exact Assembly.recipe_isFinal _ _ _ hrecipe
      · rename_i hfinal
        cases hrecipe
        simpa using hfinal

theorem assemble_eq (sources : Sources) {request : Request} (hrequest : request.IsFinal)
    (d : Descriptor) : sources.assemble request d =
      Resolution.ofExcept (Assembly.recipe sources.catalog d) >>= Recipe.follow request := by
  rw [assemble, Assembly.create_eq_follow]
  exact Resolution.fatal_of_isFinal (Resolution.isFinal_bind
    (Resolution.isFinal_ofExcept (Assembly.recipe_isFinal sources.catalog d)) hrequest.follow)

/-- The values of a type are made by following its recipe. A fault of a required type is passed on,
and a type whose factory declines it is assembled before anything was requested. -/
theorem create_eq_follow (sources : Sources) {request : Request} (hrequest : request.IsFinal)
    (d : Descriptor) : sources.create request d =
      Resolution.ofExcept (sources.recipe d) >>= Recipe.follow request := by
  unfold create recipe
  cases sources.registry.lookup? d.identity with
  | none => exact sources.assemble_eq hrequest d
  | some factory =>
    simp only [Factory.create_eq, sources.assemble_eq hrequest]
    cases factory.recipe d with
    | ok recipe => exact Resolution.orIfUnsupported_of_isFinal (hrequest.follow recipe) _
    | error fault =>
      rw [Resolution.ofExcept_error_bind, Resolution.orIfUnsupported_ofExcept_error]
      dsimp only
      split <;> rfl

end Sources

end Exemplar
