import Exemplar.Declaration.FieldType
import Exemplar.Proofs.Descriptor.RoundTrip
import Mathlib.Data.List.Forall2

/-!
What the description of a field's type says. A type erases to a descriptor: references, parentheses
and groups vanish, arrays and slices become vectors, and a path becomes the name of its last segment
with the erasures of the types among its arguments. The description of a type is the display of its
erasure, and as no name in it has white space, the descriptor reader finds the erasure again. A type
has a description unless one of the types that show in it is of a form that cannot be described.
-/

set_option autoImplicit false
set_option relaxedAutoImplicit false

namespace Exemplar

/-! ### Names -/

namespace Identifier

theorem isSpace_eq_false (identifier : Identifier) {c : Char} (hc : c ∈ identifier.text.toList) :
    Text.isSpace c = false := by
  have hplain := identifier.plain c hc
  simp only [isNameChar, Bool.and_eq_true, Bool.not_eq_true'] at hplain
  exact hplain.2

/-- An identifier as the name of a type. -/
def typeName (identifier : Identifier) : TypeName where
  text := identifier.text
  valid := by
    refine ⟨identifier.nonempty, ⟨fun c hc ↦ ?_, fun c hc ↦ ?_⟩, fun c hc ↦ ?_⟩
    · exact identifier.isSpace_eq_false (List.mem_of_head? hc)
    · exact identifier.isSpace_eq_false (List.mem_of_getLast? hc)
    · have hplain := identifier.plain c hc
      simp only [isNameChar, Bool.and_eq_true, Bool.not_eq_true'] at hplain
      exact hplain.1

theorem text_inj {identifier other : Identifier} :
    identifier.text = other.text ↔ identifier = other := by
  cases identifier
  cases other
  simp

/-- The name of vectors. -/
def vec : Identifier :=
  ⟨"Vec", by decide, List.all_eq_true.1 (by decide)⟩

end Identifier

/-- The vectors of a type. -/
def Descriptor.vec (element : Descriptor) : Descriptor :=
  ⟨Identifier.vec.typeName, [element]⟩

/-! ### Erasure -/

mutual

/-- The descriptor of a type, if it has one. -/
def FieldType.erase? : FieldType → Option Descriptor
  | .path _ _ last => last.erase?
  | .projection _ _ last => last.erase?
  | .reference target => target.erase?
  | .parenthesized inner => inner.erase?
  | .group inner => inner.erase?
  | .array element => element.erase?.map Descriptor.vec
  | .slice element => element.erase?.map Descriptor.vec
  | .tuple _ | .pointer _ | .function _ | .traitObject _ | .implementation | .macroCall => none
  | .anonymous | .never | .inferred => none
termination_by structural type => type

/-- The descriptor of a segment: its name with the types among its arguments. -/
def Segment.erase? : Segment → Option Descriptor
  | .plain name => some ⟨name.typeName, []⟩
  | .callable name _ => some ⟨name.typeName, []⟩
  | .angled name arguments => (eraseTypes? arguments).map fun ds ↦ ⟨name.typeName, ds⟩
termination_by structural segment => segment

/-- The descriptors of the types among the arguments. -/
def eraseTypes? : List TypeArgument → Option (List Descriptor)
  | [] => some []
  | argument :: arguments =>
    match argument.erase?, eraseTypes? arguments with
    | some own, some others => some (own ++ others)
    | _, _ => none
termination_by structural arguments => arguments

/-- The descriptor of an argument, if it is a type. Any other argument gives none. -/
def TypeArgument.erase? : TypeArgument → Option (List Descriptor)
  | .type type => type.erase?.map fun d ↦ [d]
  | .lifetime | .constant | .associated _ _ | .constrained _ => some []
termination_by structural argument => argument

end

/-! ### Visited types -/

/-- The type that an argument is, if it is one. -/
def TypeArgument.type? : TypeArgument → Option FieldType
  | .type ty => some ty
  | _ => none

/-- The name of a segment. -/
def Segment.name : Segment → Identifier
  | .plain name | .angled name _ | .callable name _ => name

/-- The types among the arguments of a segment, in order. -/
def Segment.types : Segment → List FieldType
  | .angled _ arguments => arguments.filterMap TypeArgument.type?
  | _ => []

namespace FieldType

/-- What a type shows of itself when it is described: a name with types as arguments, only the type
inside of it, a vector of that type, or nothing that could be described. -/
inductive Form
  | named (name : Identifier) (types : List FieldType)
  | transparent (inner : FieldType)
  | vector (element : FieldType)
  | other

/-- The form of a type. -/
def form : FieldType → Form
  | path _ _ last | projection _ _ last => .named last.name last.types
  | reference inner | parenthesized inner | group inner => .transparent inner
  | array element | slice element => .vector element
  | tuple _ | pointer _ | function _ | traitObject _ | implementation | macroCall => .other
  | anonymous | never | inferred => .other

/-- The types that a description visits right after the type itself. -/
def visited (ty : FieldType) : List FieldType :=
  match ty.form with
  | .named _ types => types
  | .transparent inner | .vector inner => [inner]
  | .other => []

/-- The types that the description of a type visits: the type itself, and those visited right after
a visited one. -/
inductive Visits : FieldType → FieldType → Prop
  | self (ty : FieldType) : Visits ty ty
  | inside {ty inner other : FieldType} (hinner : inner ∈ ty.visited) (h : Visits inner other) :
    Visits ty other

/-- Whether a type is of a form that can be described, whatever the types inside of it are. -/
def isDescribable (ty : FieldType) : Bool :=
  match ty.form with
  | .other => false
  | _ => true

variable {ty inner other : FieldType}

/-- A description visits the type itself, and what it visits from the types right after. -/
theorem visits_iff : ty.Visits other ↔ ty = other ∨ ∃ inner ∈ ty.visited, inner.Visits other := by
  constructor
  · intro h
    cases h with
    | self => exact .inl rfl
    | inside hinner h => exact .inr ⟨_, hinner, h⟩
  · rintro (rfl | ⟨inner, hinner, h⟩)
    · exact .self ty
    · exact .inside hinner h

theorem forall_visits_iff {P : FieldType → Prop} :
    (∀ other, ty.Visits other → P other) ↔
      P ty ∧ ∀ inner ∈ ty.visited, ∀ other, inner.Visits other → P other := by
  have hvisits (other : FieldType) := @visits_iff ty other
  simp only [hvisits]
  constructor
  · exact fun h ↦ ⟨h ty (.inl rfl), fun inner hinner other hother ↦
      h other (.inr ⟨inner, hinner, hother⟩)⟩
  · rintro ⟨hself, hinside⟩ other (rfl | ⟨inner, hinner, hother⟩)
    · exact hself
    · exact hinside inner hinner other hother

end FieldType

theorem Segment.sizeOf_lt_of_mem_types {segment : Segment} {ty : FieldType}
    (hty : ty ∈ segment.types) : sizeOf ty < sizeOf segment := by
  cases segment with
  | plain | callable => cases hty
  | angled name arguments =>
    obtain ⟨argument, hargument, htype⟩ := List.mem_filterMap.1 hty
    have hmem : sizeOf argument < sizeOf arguments := List.sizeOf_lt_of_mem hargument
    have hsome : argument = .type ty := by
      cases argument with
      | type => exact congrArg TypeArgument.type (Option.some.inj htype)
      | lifetime | constant | associated | constrained => cases htype
    subst hsome
    simp only [TypeArgument.type.sizeOf_spec, Segment.angled.sizeOf_spec] at hmem ⊢
    omega

namespace FieldType

theorem sizeOf_lt_of_mem_visited {ty inner : FieldType} (hinner : inner ∈ ty.visited) :
    sizeOf inner < sizeOf ty := by
  cases ty with
  | path isGlobal leading last | projection subject leading last =>
    have hlast : sizeOf inner < sizeOf last := Segment.sizeOf_lt_of_mem_types hinner
    simp only [path.sizeOf_spec, projection.sizeOf_spec]
    omega
  | reference | parenthesized | group | array | slice =>
    obtain rfl := List.mem_singleton.1 hinner
    simp
  | _ => cases hinner

/-- What holds of a type if it does of the types that its description visits holds of all types. -/
theorem induction_on_visited {P : FieldType → Prop}
    (hstep : ∀ ty : FieldType, (∀ inner ∈ ty.visited, P inner) → P ty) (ty : FieldType) : P ty := by
  refine hstep ty fun inner hinner ↦ ?_
  have hsmaller := sizeOf_lt_of_mem_visited hinner
  exact induction_on_visited hstep inner
termination_by sizeOf ty

end FieldType

/-! ### Erasures by form -/

section Matched

variable {α β : Type} {R : α → β → Prop}

theorem exists_forall₂_iff {as : List α} :
    (∃ bs, List.Forall₂ R as bs) ↔ ∀ a ∈ as, ∃ b, R a b := by
  induction as with
  | nil => simp
  | cons a as ih =>
    simp only [List.forall₂_cons_left_iff, List.forall_mem_cons, ← ih]
    constructor
    · rintro ⟨_, b, bs, hb, hbs, rfl⟩
      exact ⟨⟨b, hb⟩, bs, hbs⟩
    · rintro ⟨⟨b, hb⟩, bs, hbs⟩
      exact ⟨_, b, bs, hb, hbs, rfl⟩

theorem exists_mem_of_forall₂ {as : List α} {bs : List β} (h : List.Forall₂ R as bs) {b : β}
    (hb : b ∈ bs) : ∃ a ∈ as, R a b := by
  induction h with
  | nil => cases hb
  | @cons a first as bs hfirst _ ih =>
    rcases List.mem_cons.1 hb with rfl | hb
    · exact ⟨a, List.mem_cons_self, hfirst⟩
    · obtain ⟨other, hother, hb⟩ := ih hb
      exact ⟨other, List.mem_cons_of_mem a hother, hb⟩

end Matched

theorem eraseTypes?_eq_some_iff {arguments : List TypeArgument} {ds : List Descriptor} :
    eraseTypes? arguments = some ds ↔
      List.Forall₂ (fun ty d ↦ ty.erase? = some d) (arguments.filterMap TypeArgument.type?) ds := by
  induction arguments generalizing ds with
  | nil => simp [eraseTypes?, eq_comm]
  | cons argument arguments ih =>
    cases argument with
    | type ty =>
      have htypes : (TypeArgument.type ty :: arguments).filterMap TypeArgument.type? =
          ty :: arguments.filterMap TypeArgument.type? := rfl
      rw [htypes, List.forall₂_cons_left_iff]
      simp only [eraseTypes?, TypeArgument.erase?, ← ih]
      cases ty.erase? <;> cases eraseTypes? arguments <;> simp [eq_comm]
    | lifetime | constant | associated | constrained =>
      refine Iff.trans ?_ ih
      simp only [eraseTypes?, TypeArgument.erase?]
      cases eraseTypes? arguments <;> simp

theorem Segment.erase?_eq_some_iff {segment : Segment} {d : Descriptor} :
    segment.erase? = some d ↔ ∃ ds, d = ⟨segment.name.typeName, ds⟩ ∧
      List.Forall₂ (fun ty e ↦ ty.erase? = some e) segment.types ds := by
  cases segment with
  | plain name | callable name inputs => simp [erase?, Segment.name, types, eq_comm]
  | angled name arguments =>
    simp only [erase?, Option.map_eq_some_iff, eraseTypes?_eq_some_iff, Segment.name, types]
    exact exists_congr fun ds ↦ by rw [and_comm, eq_comm]

namespace FieldType

/-- The descriptor of a type by the form of the type. -/
theorem erase?_eq_some_iff {ty : FieldType} {d : Descriptor} :
    ty.erase? = some d ↔
      match ty.form with
      | .named name types => ∃ ds, d = ⟨name.typeName, ds⟩ ∧
        List.Forall₂ (fun ty e ↦ ty.erase? = some e) types ds
      | .transparent inner => inner.erase? = some d
      | .vector element => ∃ e, d = .vec e ∧ element.erase? = some e
      | .other => False := by
  cases ty with
  | path | projection => exact Segment.erase?_eq_some_iff
  | reference | parenthesized | group => exact Iff.rfl
  | array element | slice element =>
    simp only [erase?, form, Option.map_eq_some_iff]
    exact exists_congr fun e ↦ by rw [and_comm, eq_comm]
  | _ => exact iff_of_false nofun id

/-- A type has a descriptor unless its description visits one of another form. -/
theorem exists_erase?_iff (ty : FieldType) :
    (∃ d, ty.erase? = some d) ↔ ∀ other, ty.Visits other → other.isDescribable = true := by
  induction ty using induction_on_visited with
  | hstep ty ih =>
    have herase (d : Descriptor) := @erase?_eq_some_iff ty d
    have hvisited : (∀ inner ∈ ty.visited, ∀ other, inner.Visits other →
        other.isDescribable = true) ↔ ∀ inner ∈ ty.visited, ∃ d, inner.erase? = some d :=
      forall₂_congr fun inner hinner ↦ (ih inner hinner).symm
    rw [forall_visits_iff, hvisited]
    simp only [herase, isDescribable, visited]
    cases ty.form with
    | named name types =>
      simp only [true_and, ← exists_forall₂_iff]
      exact ⟨fun ⟨_, ds, _, hds⟩ ↦ ⟨ds, hds⟩, fun ⟨ds, hds⟩ ↦ ⟨_, ds, rfl, hds⟩⟩
    | transparent inner => simp
    | vector element => simp
    | other => simp

end FieldType

/-! ### Descriptions are displays -/

namespace Descriptor

theorem separated_map_chars (d : Descriptor) (ds : List Descriptor) :
    separated ((d :: ds).map chars) = d.chars ++ charsAfter ds := by
  induction ds generalizing d with
  | nil => simp [separated, charsAfter]
  | cons e es ih => simp [separated, charsAfter, ← ih e]

theorem chars_vec (d : Descriptor) : d.vec.chars = ['V', 'e', 'c', '<'] ++ d.chars ++ ['>'] := by
  have hname : Identifier.vec.typeName.text.toList = ['V', 'e', 'c'] := rfl
  simp [vec, chars, charsAfter, hname]

end Descriptor

mutual

/-- The characters that describe a type are those of the display of its descriptor. -/
theorem FieldType.chars?_eq : (ty : FieldType) → ty.chars? = ty.erase?.map Descriptor.chars
  | .path _ _ last => last.chars?_eq
  | .projection _ _ last => last.chars?_eq
  | .reference target => target.chars?_eq
  | .parenthesized inner => inner.chars?_eq
  | .group inner => inner.chars?_eq
  | .array element => by
    simp [FieldType.chars?, FieldType.erase?, element.chars?_eq, Function.comp_def,
      Descriptor.chars_vec]
  | .slice element => by
    simp [FieldType.chars?, FieldType.erase?, element.chars?_eq, Function.comp_def,
      Descriptor.chars_vec]
  | .tuple _ | .pointer _ | .function _ | .traitObject _ | .implementation | .macroCall => rfl
  | .anonymous | .never | .inferred => rfl

theorem Segment.chars?_eq : (segment : Segment) →
    segment.chars? = segment.erase?.map Descriptor.chars
  | .plain _ => rfl
  | .callable _ _ => rfl
  | .angled name arguments => by
    rw [Segment.chars?, Segment.erase?, typeChars?_eq arguments]
    cases eraseTypes? arguments with
    | none => rfl
    | some ds =>
      cases ds with
      | nil => rfl
      | cons d ds =>
        simp only [Option.map_some, Descriptor.separated_map_chars]
        simp [Descriptor.chars, Identifier.typeName]

theorem typeChars?_eq : (arguments : List TypeArgument) →
    typeChars? arguments = (eraseTypes? arguments).map (List.map Descriptor.chars)
  | [] => rfl
  | argument :: arguments => by
    rw [typeChars?, eraseTypes?, argument.chars?_eq, typeChars?_eq arguments]
    cases argument.erase? <;> cases eraseTypes? arguments <;> simp

theorem TypeArgument.chars?_eq : (argument : TypeArgument) →
    argument.chars? = argument.erase?.map (List.map Descriptor.chars)
  | .type ty => by
    simp [TypeArgument.chars?, TypeArgument.erase?, ty.chars?_eq, Function.comp_def]
  | .lifetime | .constant | .associated _ _ | .constrained _ => rfl

end

/-! ### Descriptions are read back -/

theorem Identifier.isSpaceless (identifier : Identifier) :
    Descriptor.IsSpaceless [identifier.typeName] :=
  List.forall_mem_singleton.2 fun _ hc ↦ identifier.isSpace_eq_false hc

namespace Descriptor

theorem isSpaceless_names {name : Identifier} {ds : List Descriptor}
    (hds : ∀ d ∈ ds, IsSpaceless d.names) :
    IsSpaceless (Descriptor.mk name.typeName ds).names := by
  have hall : IsSpaceless (namesAll ds) := by
    induction ds with
    | nil => nofun
    | cons d ds ih =>
      intro other hother
      rcases List.mem_append.1 hother with hother | hother
      · exact hds d List.mem_cons_self other hother
      · exact ih (fun e he ↦ hds e (List.mem_cons_of_mem d he)) other hother
  intro other hother
  rcases List.mem_cons.1 hother with rfl | hother
  · exact name.isSpaceless _ List.mem_cons_self
  · exact hall other hother

end Descriptor

namespace FieldType

theorem isSpaceless_of_erase? (ty : FieldType) {d : Descriptor} (hd : ty.erase? = some d) :
    Descriptor.IsSpaceless d.names := by
  induction ty using induction_on_visited generalizing d with
  | hstep ty ih =>
    rw [erase?_eq_some_iff] at hd
    simp only [visited] at ih
    cases hform : ty.form with
    | named name types =>
      rw [hform] at hd ih
      obtain ⟨ds, rfl, hds⟩ := hd
      refine Descriptor.isSpaceless_names fun d hd ↦ ?_
      obtain ⟨inner, hinner, hd⟩ := exists_mem_of_forall₂ hds hd
      exact ih inner hinner hd
    | transparent inner =>
      rw [hform] at hd ih
      exact ih inner List.mem_cons_self hd
    | vector element =>
      rw [hform] at hd ih
      obtain ⟨e, rfl, he⟩ := hd
      exact Descriptor.isSpaceless_names
        (List.forall_mem_singleton.2 (ih element List.mem_cons_self he))
    | other =>
      rw [hform] at hd
      exact hd.elim

/-- The descriptor that is read from the description of a type. -/
def Denotes (ty : FieldType) (d : Descriptor) : Prop :=
  ∃ text, ty.describe? = some text ∧ Descriptor.ofString text = .ok d

theorem describe?_eq (ty : FieldType) : ty.describe? = ty.erase?.map Descriptor.display := by
  rw [describe?, chars?_eq, Option.map_map]
  rfl

theorem describe?_eq_some_iff {ty : FieldType} {text : String} :
    ty.describe? = some text ↔ ∃ d, ty.erase? = some d ∧ d.display = text := by
  rw [describe?_eq, Option.map_eq_some_iff]

theorem ofString_display_of_erase? {ty : FieldType} {d : Descriptor} (hd : ty.erase? = some d) :
    Descriptor.ofString d.display = .ok d := by
  rw [Descriptor.ofString_eq_ok_iff, Descriptor.display, String.toList_ofList]
  exact Descriptor.derives_chars d (ty.isSpaceless_of_erase? hd)

/-- The descriptor that is read from a description is the erasure. -/
theorem denotes_iff {ty : FieldType} {d : Descriptor} : ty.Denotes d ↔ ty.erase? = some d := by
  constructor
  · rintro ⟨text, htext, hread⟩
    obtain ⟨e, he, rfl⟩ := describe?_eq_some_iff.1 htext
    rw [ofString_display_of_erase? he] at hread
    cases hread
    exact he
  · intro hd
    exact ⟨d.display, describe?_eq_some_iff.2 ⟨d, hd, rfl⟩, ofString_display_of_erase? hd⟩

/-- A type has a description exactly if its description visits no type of another form. The
description is read as the erasure of the type, and it is the display of what is read. -/
theorem describe?_is_display_of_erasure (ty : FieldType) :
    (ty.describe?.isSome = true ↔ ∀ other, ty.Visits other → other.isDescribable = true) ∧
      ∀ text, ty.describe? = some text →
        ∃ d, ty.erase? = some d ∧ Descriptor.ofString text = .ok d ∧ text = d.display := by
  constructor
  · rw [← exists_erase?_iff, Option.isSome_iff_exists]
    simp only [describe?_eq_some_iff]
    exact ⟨fun ⟨_, d, hd, _⟩ ↦ ⟨d, hd⟩, fun ⟨d, hd⟩ ↦ ⟨_, d, hd, rfl⟩⟩
  · intro text htext
    obtain ⟨d, hd, rfl⟩ := describe?_eq_some_iff.1 htext
    exact ⟨d, hd, ofString_display_of_erase? hd, rfl⟩

end FieldType

end Exemplar
