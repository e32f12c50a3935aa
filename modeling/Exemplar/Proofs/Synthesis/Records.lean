import Exemplar.Proofs.Storage.Chain
import Exemplar.Proofs.Synthesis.Blame
import Exemplar.Proofs.Synthesis.Locality

/-!
Records that are assembled from a layout. Storage is laid out by one listing of the fields and
written by the positions of another one, and between two writes a request may change all that the
resolver remembers. Still the positions that are written are those of the slots, each of them once
and in order, and each of the three records holds its color of the answer for every field. So no
write ever misses a slot: an assembly fails before the first request, or because a request does.
-/

set_option autoImplicit false
set_option relaxedAutoImplicit false

namespace Exemplar

/-- Values of the type have slots. Those of an interface have no storage, and those of an
enumeration exist already. -/
def Layout.HasSlots (layout : Layout) : Prop :=
  layout.kind = .ordinary ∨ layout.kind = .abstract

theorem Blank.allocate_of_hasSlots {catalog : Catalog} {d : Descriptor} {layout : Layout}
    (hlayout : catalog.layout? d.identity = some layout) (hslots : layout.HasSlots) :
    Blank.allocate catalog d = (catalog.fields d).map (Blank.zeroed d) := by
  simp only [Blank.allocate, hlayout]
  rcases hslots with hkind | hkind <;> rw [hkind] <;> cases catalog.fields d <;> rfl

namespace Assembly

variable {request : Request} {catalog : Catalog} {d : Descriptor} {progress reached : Progress}

/-! ### The writes of a run -/

/-- Filling, with the list of its writes: the position of each one, and the answer whose colors are
written there. -/
def fillRecording (request : Request) (blanks : BlankTriple) (position : Nat) :
    List Field → Resolution (BlankTriple × List (Nat × SharedTriple))
  | [] => pure (blanks, [])
  | field :: fields => do
    let shared ← request field.type
    let written ← Resolution.ofExcept (blanks.setSlot position shared.triple)
    let (filled, writes) ← fillRecording request written (position + 1) fields
    return (filled, (position, shared) :: writes)

/-- Listing the writes makes no difference to them. -/
theorem fill_eq_map_fillRecording (request : Request) (blanks : BlankTriple) (position : Nat)
    (fields : List Field) :
    fill request blanks position fields =
      Prod.fst <$> fillRecording request blanks position fields := by
  induction fields generalizing blanks position with
  | nil => simp [fill, fillRecording]
  | cons field fields ih => simp [fill, fillRecording, ih]

/-- The writes go through the positions in order, and take their colors from the answers for the
fields' types, requested in order. -/
theorem writes_of_fillRecording {blanks filled : BlankTriple} {position : Nat}
    {fields : List Field} {writes : List (Nat × SharedTriple)}
    (hrun : fillRecording request blanks position fields progress = .ok (filled, writes) reached) :
    writes.map Prod.fst = List.range' position fields.length ∧
      requestAll request (fields.map Field.type) progress =
        .ok (writes.map Prod.snd) reached := by
  induction fields generalizing blanks position progress writes with
  | nil =>
    cases hrun
    exact ⟨rfl, rfl⟩
  | cons field fields ih =>
    rw [fillRecording] at hrun
    obtain ⟨shared, middle, hanswer, hrun⟩ := Resolution.exists_of_bind_eq_ok hrun
    obtain ⟨written, _, hwrite, hrun⟩ := Resolution.exists_of_bind_eq_ok hrun
    obtain ⟨-, rfl⟩ := Resolution.eq_of_ofExcept_eq_ok hwrite
    obtain ⟨⟨_, rest⟩, last, hrest, hlast⟩ := Resolution.exists_of_bind_eq_ok hrun
    cases hlast
    obtain ⟨hpositions, hanswers⟩ := ih hrest
    refine ⟨congrArg (position :: ·) hpositions, ?_⟩
    rw [List.map_cons, requestAll_cons_of_ok hanswer, hanswers]
    rfl

/-! ### The records of a run -/

/-- A value is a record of a type, under a number. Its slots have the names of the fields, in their
order, and hold one color of the answers. -/
def IsFilledRecord (d : Descriptor) (fields : List Field) (color : Triple → Value)
    (answers : List SharedTriple) (number : Nat) (v : Value) : Prop :=
  ∃ slots, v = .ref number (.record d slots) ∧ slots.map Prod.fst = fields.map Field.name ∧
    slots.map Prod.snd = answers.map fun shared ↦ color shared.triple

/-- The fields' names beside one color of the answers. -/
def slots (fields : List Field) (answers : List SharedTriple) (color : Triple → Value) :
    List (String × Value) :=
  (fields.map Field.name).zip (answers.map fun shared ↦ color shared.triple)

theorem isFilledRecord_slots {fields : List Field} {answers : List SharedTriple}
    (hlength : answers.length = fields.length) (d : Descriptor) (color : Triple → Value)
    (number : Nat) :
    IsFilledRecord d fields color answers number
      (.ref number (.record d (slots fields answers color))) :=
  ⟨_, rfl, List.map_fst_zip (by simp [hlength]), List.map_snd_zip (by simp [hlength])⟩

theorem freeze_partlyFilled (d : Descriptor) (reds blacks : List (String × Value))
    (number : Nat) :
    (partlyFilled d reds blacks []).freeze number =
      (⟨.ref number (.record d reds), .ref (number + 1) (.record d blacks),
        .ref (number + 2) (.record d reds)⟩, number + 3) := by
  simp only [partlyFilled, List.map_nil, List.append_nil]
  rfl

/-- Three blanks of the given fields are filled with one color of the answers each. -/
theorem filled_of_fillRecording {fields : List Field} {filled : BlankTriple}
    {writes : List (Nat × SharedTriple)}
    (hrun : fillRecording request ⟨.zeroed d fields, .zeroed d fields, .zeroed d fields⟩ 0 fields
      progress = .ok (filled, writes) reached) :
    filled = partlyFilled d (slots fields (writes.map Prod.snd) Triple.red)
      (slots fields (writes.map Prod.snd) Triple.black) [] := by
  obtain ⟨-, hanswers⟩ := writes_of_fillRecording hrun
  have hfill := fill_partlyFilled request d fields [] [] rfl
  have hrecorded : fill request (partlyFilled d [] [] fields) 0 fields progress =
      .ok filled reached := by
    rw [fill_eq_map_fillRecording, map_eq_pure_bind]
    exact Resolution.bind_of_ok hrun _
  rw [List.length_nil] at hfill
  rw [hfill, Resolution.bind_of_ok hanswers] at hrecorded
  cases hrecorded
  rfl

/-- An assembly of records lists the fields, fills three blanks and freezes them. -/
theorem create_of_hasSlots {layout : Layout} (request : Request)
    (hlayout : catalog.layout? d.identity = some layout) (hslots : layout.HasSlots) :
    create request catalog d = (do
      let fields ← Resolution.ofExcept (catalog.fields d)
      let blanks ← fill request ⟨.zeroed d fields, .zeroed d fields, .zeroed d fields⟩ 0 fields
      Resolution.ofFresh blanks.freeze) := by
  have hblank := Blank.allocate_of_hasSlots hlayout hslots
  simp only [create, hlayout]
  rcases hslots with hkind | hkind <;> rw [hkind, hblank] <;> cases catalog.fields d <;> rfl

/-- The records of an assembly that was answered. One listing of the fields laid out the storage of
all three, the run wrote the slots one by one, and between the last request and the end three
references were taken. -/
structure FillsRecords (request : Request) (catalog : Catalog) (d : Descriptor)
    (progress : Progress) (triple : Triple) (reached : Progress) (fields : List Field)
    (writes : List (Nat × SharedTriple)) (middle : Progress) : Prop where
  listed : catalog.fields d = .ok fields
  run : ∃ blank filled, Blank.allocate catalog d = .ok blank ∧
    blank.names = fields.map Field.name ∧
    fillRecording request ⟨blank, blank, blank⟩ 0 fields progress =
      .ok (filled, writes) middle ∧
    filled.freeze middle.unused = (triple, middle.unused + 3)
  positions : writes.map Prod.fst = List.range fields.length
  answers : requestAll request (fields.map Field.type) progress = .ok (writes.map Prod.snd) middle
  red : IsFilledRecord d fields Triple.red (writes.map Prod.snd) middle.unused triple.red
  black : IsFilledRecord d fields Triple.black (writes.map Prod.snd) (middle.unused + 1)
    triple.black
  redCopy : IsFilledRecord d fields Triple.red (writes.map Prod.snd) (middle.unused + 2)
    triple.redCopy
  reached : reached = ⟨middle.memory, middle.unused + 3⟩

theorem fillsRecords_of_create {layout : Layout} {triple : Triple}
    (hlayout : catalog.layout? d.identity = some layout) (hslots : layout.HasSlots)
    (hrun : create request catalog d progress = .ok triple reached) :
    ∃ fields writes middle,
      FillsRecords request catalog d progress triple reached fields writes middle := by
  rw [create_of_hasSlots request hlayout hslots] at hrun
  obtain ⟨fields, _, hfields, hrun⟩ := Resolution.exists_of_bind_eq_ok hrun
  obtain ⟨hlisted, rfl⟩ := Resolution.eq_of_ofExcept_eq_ok hfields
  obtain ⟨blanks, middle, hfill, hfreeze⟩ := Resolution.exists_of_bind_eq_ok hrun
  rw [fill_eq_map_fillRecording, map_eq_pure_bind] at hfill
  obtain ⟨⟨filled, writes⟩, _, hrecord, hpure⟩ := Resolution.exists_of_bind_eq_ok hfill
  cases hpure
  obtain ⟨hpositions, hanswers⟩ := writes_of_fillRecording hrecord
  have hlength : (writes.map Prod.snd).length = fields.length := by
    have hsame := congrArg List.length hpositions
    simpa using hsame
  obtain rfl := filled_of_fillRecording hrecord
  have hfrozen := freeze_partlyFilled d (slots fields (writes.map Prod.snd) Triple.red)
    (slots fields (writes.map Prod.snd) Triple.black) middle.unused
  simp only [Resolution.ofFresh, StateT.run, hfrozen] at hfreeze
  cases hfreeze
  have hblank : Blank.allocate catalog d = .ok (.zeroed d fields) := by
    rw [Blank.allocate_of_hasSlots hlayout hslots, hlisted]
    rfl
  refine ⟨fields, writes, middle, ?_⟩
  exact {
    listed := hlisted
    run := ⟨_, _, hblank, by simp [Blank.names, Blank.zeroed], hrecord, hfrozen⟩
    positions := by rw [hpositions, List.range_eq_range']
    answers := hanswers
    red := isFilledRecord_slots hlength d Triple.red _
    black := isFilledRecord_slots hlength d Triple.black _
    redCopy := isFilledRecord_slots hlength d Triple.red _
    reached := rfl }

/-! ### Why an assembly fails -/

/-- An assembly fails if the type has no layout, if the layout has no storage, as that of an
interface or of an enumeration, which then has no constants either, if the fields cannot be listed,
or if a request for the type of a field fails after those before it were answered. -/
inductive Fails (request : Request) (catalog : Catalog) (d : Descriptor) (progress : Progress) :
    Failure → Progress → Prop
  | noLayout (hlayout : catalog.layout? d.identity = none) :
    Fails request catalog d progress
      (.fault (.cannotSynthesize d.display .noFactoryOrLayout)) progress
  | interfaceStorage {layout : Layout} (hlayout : catalog.layout? d.identity = some layout)
    (hkind : layout.kind = .interface) :
    Fails request catalog d progress
      (.fault (.cannotSynthesize d.display .interfaceStorage)) progress
  | noConstants {layout : Layout} (hlayout : catalog.layout? d.identity = some layout)
    (hkind : layout.kind = .enumeration []) :
    Fails request catalog d progress (.fault (.cannotSynthesize d.display .noConstants)) progress
  | listing {layout : Layout} {fault : Fault}
    (hlayout : catalog.layout? d.identity = some layout) (hslots : layout.HasSlots)
    (hfields : catalog.fields d = .error fault) :
    Fails request catalog d progress (.fault fault) progress
  | nested {layout : Layout} {before after : List Field} {field : Field}
    {answers : List SharedTriple} {middle reached : Progress} {failure : Failure}
    (hlayout : catalog.layout? d.identity = some layout) (hslots : layout.HasSlots)
    (hfields : catalog.fields d = .ok (before ++ field :: after))
    (hbefore : requestAll request (before.map Field.type) progress = .ok answers middle)
    (hnested : request field.type middle = .error failure reached) :
    Fails request catalog d progress failure reached

/-- Following the recipe of a record fails exactly if a request for the type of a field does. -/
theorem follow_record_eq_error_iff {fields : List Field} {failure : Failure} :
    (Recipe.parts (fields.map Field.type) (record d fields)).follow request progress =
        .error failure reached ↔
      ∃ before field after answers middle, fields = before ++ field :: after ∧
        requestAll request (before.map Field.type) progress = .ok answers middle ∧
        request field.type middle = .error failure reached := by
  rw [Recipe.follow_eq_error_iff, Recipe.requirements, requestAll_eq_error_iff]
  constructor
  · rintro ⟨before, e, after, answers, middle, hsplit, hbefore, hlast⟩
    obtain ⟨first, others, rfl, rfl, hothers⟩ := List.map_eq_append_iff.1 hsplit
    obtain ⟨field, rest, rfl, rfl, rfl⟩ := List.map_eq_cons_iff.1 hothers
    exact ⟨first, field, rest, answers, middle, rfl, hbefore, hlast⟩
  · rintro ⟨before, field, after, answers, middle, rfl, hbefore, hlast⟩
    exact ⟨before.map Field.type, field.type, after.map Field.type, answers, middle, by simp,
      hbefore, hlast⟩

theorem create_of_hasSlots_eq_follow {layout : Layout} {fields : List Field} (request : Request)
    (hlayout : catalog.layout? d.identity = some layout) (hslots : layout.HasSlots)
    (hfields : catalog.fields d = .ok fields) :
    create request catalog d =
      (Recipe.parts (fields.map Field.type) (record d fields)).follow request := by
  rw [create_of_hasSlots request hlayout hslots, hfields, Resolution.ofExcept_ok_bind]
  exact follow_record request d fields

/-- An assembly fails in these ways only, and never because of a write. -/
theorem create_eq_error_iff {failure : Failure} :
    create request catalog d progress = .error failure reached ↔
      Fails request catalog d progress failure reached := by
  constructor
  · intro hrun
    cases hlayout : catalog.layout? d.identity with
    | none =>
      simp only [create, hlayout] at hrun
      cases hrun
      exact .noLayout hlayout
    | some layout =>
      -- Only the types with slots request anything.
      have hwith (hslots : layout.HasSlots) : Fails request catalog d progress failure reached := by
        cases hfields : catalog.fields d with
        | error fault =>
          rw [create_of_hasSlots request hlayout hslots, hfields] at hrun
          cases hrun
          exact .listing hlayout hslots hfields
        | ok fields =>
          rw [create_of_hasSlots_eq_follow request hlayout hslots hfields] at hrun
          obtain ⟨before, field, after, answers, middle, rfl, hbefore, hnested⟩ :=
            follow_record_eq_error_iff.1 hrun
          exact .nested hlayout hslots hfields hbefore hnested
      cases hkind : layout.kind with
      | ordinary => exact hwith (.inl hkind)
      | abstract => exact hwith (.inr hkind)
      | interface =>
        simp only [create, Blank.allocate, hlayout, hkind] at hrun
        cases hrun
        exact .interfaceStorage hlayout hkind
      | enumeration constants =>
        simp only [create, hlayout, hkind] at hrun
        rcases constants with _ | ⟨first, _ | ⟨second, others⟩⟩
        · cases hrun
          exact .noConstants hlayout hkind
        · cases hrun
        · cases hrun
  · rintro (hlayout | ⟨hlayout, hkind⟩ | ⟨hlayout, hkind⟩ | ⟨hlayout, hslots, hfields⟩ |
      ⟨hlayout, hslots, hfields, hbefore, hnested⟩)
    · simp only [create, hlayout]
      rfl
    · simp only [create, Blank.allocate, hlayout, hkind]
      rfl
    · simp only [create, hlayout, hkind]
      rfl
    · rw [create_of_hasSlots request hlayout hslots, hfields]
      rfl
    · rw [create_of_hasSlots_eq_follow request hlayout hslots hfields]
      exact follow_record_eq_error_iff.2 ⟨_, _, _, _, _, rfl, hbefore, hnested⟩

end Assembly

/-! ### Slots that do not exist -/

/-- The fault of a write to a position that no slot has. -/
def Fault.IsUnknownSlot : Fault → Prop
  | invalidArgument (.unknownSlot _ _ _) => True
  | _ => False

theorem Catalog.not_isUnknownSlot_of_fields {catalog : Catalog} {d : Descriptor} {fault : Fault}
    (hfields : catalog.fields d = .error fault) : ¬fault.IsUnknownSlot := by
  obtain ⟨last, -, -, hends⟩ := catalog.fields_ends d
  rw [hfields] at hends
  cases hends with
  | loops => exact id
  | misses => exact id

theorem Assembly.not_isUnknownSlot_of_recipe {catalog : Catalog} {d : Descriptor} {fault : Fault}
    (hrecipe : Assembly.recipe catalog d = .error fault) : ¬fault.IsUnknownSlot := by
  unfold Assembly.recipe at hrecipe
  split at hrecipe
  · cases hrecipe; exact id
  · split at hrecipe
    · cases hrecipe; exact id
    · cases hrecipe
    · cases hrecipe; exact id
    all_goals
      cases hfields : catalog.fields d with
      | ok fields => rw [hfields] at hrecipe; cases hrecipe
      | error stated =>
        rw [hfields] at hrecipe
        cases hrecipe
        exact Catalog.not_isUnknownSlot_of_fields hfields

theorem Factory.not_isUnknownSlot_of_recipe {factory : Factory} {d : Descriptor} {fault : Fault}
    (hrecipe : factory.recipe d = .error fault) : ¬fault.IsUnknownSlot := by
  cases factory with
  | constant triple => cases hrecipe
  | copy underlying convert =>
    simp only [Factory.recipe, Descriptor.rename, Descriptor.ofName, TypeName.ofString] at hrecipe
    split at hrecipe
    · cases hrecipe; exact id
    · split at hrecipe <;> cases hrecipe
      exact id
  | collection build | map | generic constructor =>
    simp only [Factory.recipe] at hrecipe
    split at hrecipe <;> cases hrecipe
    exact id

namespace Sources

variable {sources : Sources} {fault : Fault} {depth : Nat} {path : RequestPath} {d : Descriptor}
variable {progress reached : Progress} {chain : List Descriptor}

theorem not_isUnknownSlot_of_recipe (hrecipe : sources.recipe d = .error fault) :
    ¬fault.IsUnknownSlot := by
  unfold recipe at hrecipe
  split at hrecipe
  · exact Assembly.not_isUnknownSlot_of_recipe hrecipe
  · split at hrecipe
    · cases hrecipe
    · rename_i stated hstated
      split at hrecipe
      · exact Assembly.not_isUnknownSlot_of_recipe hrecipe
      · cases hrecipe
        exact Factory.not_isUnknownSlot_of_recipe hstated

/-- The fault of a chain of requests is that of a recipe. -/
theorem FailsThrough.exists_recipe (h : sources.FailsThrough fault reached depth path d progress
    chain) : ∃ e, sources.recipe e = .error fault := by
  induction h with
  | itself _ _ hrecipe => exact ⟨_, hrecipe⟩
  | within _ _ _ _ _ _ _ _ ih => exact ih

/-- No request writes to a position that no slot has, nor do the requests within it. -/
theorem not_isUnknownSlot_of_resolveWithin
    (hrun : sources.resolveWithin depth path d progress = .error (.fault fault) reached) :
    ¬fault.IsUnknownSlot := by
  obtain ⟨chain, hchain⟩ := exists_failsThrough hrun
  obtain ⟨e, hrecipe⟩ := hchain.exists_recipe
  exact not_isUnknownSlot_of_recipe hrecipe

end Sources

namespace Assembly

theorem Fails.not_isUnknownSlot {sources : Sources} {depth : Nat} {path : RequestPath}
    {d : Descriptor} {progress reached : Progress} {fault : Fault}
    (h : Fails (sources.resolveWithin depth path) sources.catalog d progress (.fault fault)
      reached) : ¬fault.IsUnknownSlot := by
  cases h with
  | noLayout => exact id
  | interfaceStorage => exact id
  | noConstants => exact id
  | listing _ _ hfields => exact Catalog.not_isUnknownSlot_of_fields hfields
  | nested _ _ _ _ hnested => exact Sources.not_isUnknownSlot_of_resolveWithin hnested

/-- If records of an ordinary or abstract type are assembled then the catalog lists its fields, and
red, black and red copy are three new records of the type whose slots have the names of these
fields, in their order. Every slot was written once, and holds one color of the answer that the
request for its field's type gave in this run: red and red copy the very same red value, and black
the black one. If an assembly fails then the type has no layout or one without storage, its fields
cannot be listed, or a request for the type of a field fails, and no write was to a position that no
slot has, neither here nor within these requests. -/
theorem create_fills_each_slot_once (sources : Sources) (depth : Nat) (path : RequestPath)
    (d : Descriptor) (progress : Progress) :
    (∀ layout triple reached, sources.catalog.layout? d.identity = some layout → layout.HasSlots →
      create (sources.resolveWithin depth path) sources.catalog d progress = .ok triple reached →
      ∃ fields writes middle, FillsRecords (sources.resolveWithin depth path) sources.catalog d
        progress triple reached fields writes middle) ∧
    (∀ failure reached,
      create (sources.resolveWithin depth path) sources.catalog d progress =
        .error failure reached →
      Fails (sources.resolveWithin depth path) sources.catalog d progress failure reached ∧
        ∀ fault, failure = .fault fault → ¬fault.IsUnknownSlot) ∧
    ∀ blanks position fields,
      fill (sources.resolveWithin depth path) blanks position fields =
        Prod.fst <$> fillRecording (sources.resolveWithin depth path) blanks position fields := by
  refine ⟨fun layout triple reached hlayout hslots hrun ↦ ?_, fun failure reached hrun ↦ ?_,
    fill_eq_map_fillRecording _⟩
  · exact fillsRecords_of_create hlayout hslots hrun
  · have hfails := create_eq_error_iff.1 hrun
    refine ⟨hfails, ?_⟩
    rintro fault rfl
    exact hfails.not_isUnknownSlot

end Assembly

/-! ### A type that redeclares an inherited field -/

namespace Shadowed

open Inherited (typeC typeE typeX typeZ)

def layoutZ : Layout :=
  (Layout.ofKind "Z" .abstract).withField "x" (.ok typeX)

def layoutC : Layout :=
  ((Layout.ofKind "C" .ordinary).withSuperclass (.ok typeZ)).withField "x" (.ok typeE)

/-- Sources of numbers `X`, of truth values `E` and of records `C`, whose superclass is `Z`. -/
def sources : Sources where
  registry := (Registry.empty.register "X" (Registry.primitiveFactory (.integer .i32))).register "E"
    (Registry.primitiveFactory .bool)
  catalog := ⟨(Table.empty.insert "Z" layoutZ).insert "C" layoutC⟩

/-- The fields of `C`, which have one name. -/
def fields : List Field :=
  [⟨"x", typeX, false⟩, ⟨"x", typeE, false⟩]

theorem fields_typeC : sources.catalog.fields typeC = .ok fields := by
  have hlayoutC : sources.catalog.layouts.get? typeC.identity = some layoutC := rfl
  have hlayoutZ : sources.catalog.layouts.get? typeZ.identity = some layoutZ := rfl
  exact Catalog.fields_of_superclass hlayoutC rfl (by decide) hlayoutZ rfl

/-- The record of one color of a number and of a truth value. -/
def record (number : Nat) (color : Primitive → Value) : Value :=
  .ref number (.record typeC [("x", color (.integer .i32)), ("x", color .bool)])

/-- The records of `C`, if the first unused reference number is zero. -/
def triple : Triple :=
  ⟨record 2 Primitive.red, record 3 Primitive.black, record 4 Primitive.red⟩

theorem create_typeC : ∃ reached, Assembly.create (sources.resolveWithin 5 .empty) sources.catalog
    typeC ⟨Memory.empty, 0⟩ = .ok triple reached := by
  have hlayout : sources.catalog.layout? typeC.identity = some layoutC := rfl
  rw [Assembly.create_of_hasSlots _ hlayout (.inl rfl), fields_typeC]
  exact ⟨_, rfl⟩

end Shadowed

namespace Assembly

/-- Both fields of one name are written, each with the color of its own type. A type without a
layout is not assembled. -/
theorem create_fills_shadowed_slots :
    (∃ reached writes middle,
      FillsRecords (Shadowed.sources.resolveWithin 5 .empty) Shadowed.sources.catalog
        Inherited.typeC ⟨Memory.empty, 0⟩ Shadowed.triple reached Shadowed.fields writes middle ∧
      writes.map Prod.fst = [0, 1]) ∧
    Fails (Shadowed.sources.resolveWithin 5 .empty) Shadowed.sources.catalog Inherited.typeX
      ⟨Memory.empty, 0⟩ (.fault (.cannotSynthesize "X" .noFactoryOrLayout)) ⟨Memory.empty, 0⟩ := by
  obtain ⟨hrecords, -⟩ :=
    create_fills_each_slot_once Shadowed.sources 5 .empty Inherited.typeC ⟨Memory.empty, 0⟩
  obtain ⟨-, hfails, -⟩ :=
    create_fills_each_slot_once Shadowed.sources 5 .empty Inherited.typeX ⟨Memory.empty, 0⟩
  obtain ⟨reached, hrun⟩ := Shadowed.create_typeC
  obtain ⟨fields, writes, middle, hfills⟩ :=
    hrecords Shadowed.layoutC Shadowed.triple reached rfl (.inl rfl) hrun
  obtain rfl : fields = Shadowed.fields :=
    Except.ok.inj (hfills.listed.symm.trans Shadowed.fields_typeC)
  exact ⟨⟨reached, writes, middle, hfills, hfills.positions⟩, (hfails _ _ rfl).1⟩

end Assembly

end Exemplar
