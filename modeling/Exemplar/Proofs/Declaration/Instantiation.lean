import Exemplar.Proofs.Declaration.Erasure

/-!
Type parameters of a declaration, replaced before a type is described and after it. Before, a
parameter is a path that is its name and nothing else. After, every descriptor without arguments
that has its name is taken for it. The two agree but for what a description leaves out: a longer
path, a path with arguments that are no types, or a projection is described by the bare name of its
last segment, and if this is the name of a parameter, it is captured. The two results are the same
exactly if no visited type is captured, or only by a parameter that stands for what the captured
type is described as anyway.
-/

set_option autoImplicit false
set_option relaxedAutoImplicit false

namespace Exemplar

/-! ### Instantiation -/

/-- Type parameters with the types they stand for. -/
abbrev Bindings :=
  List (Identifier × FieldType)

/-- The type that is a type parameter. -/
def FieldType.parameter (name : Identifier) : FieldType :=
  .path false [] (.plain name)

/-- What a type stands for if it is a type parameter with a binding. -/
def FieldType.bound? (bindings : Bindings) : FieldType → Option FieldType
  | .path false [] (.plain name) => bindings.lookup name
  | _ => none

mutual

/-- The type with the type parameters in it replaced by what they are bound to, wherever they stand.
What replaces them is not looked at again. -/
def FieldType.instantiate (bindings : Bindings) : FieldType → FieldType
  | .path isGlobal leading last =>
    ((FieldType.path isGlobal leading last).bound? bindings).getD
      (.path isGlobal (instantiateSegments bindings leading) (last.instantiate bindings))
  | .projection subject leading last =>
    .projection (subject.instantiate bindings) (instantiateSegments bindings leading)
      (last.instantiate bindings)
  | .reference target => .reference (target.instantiate bindings)
  | .parenthesized inner => .parenthesized (inner.instantiate bindings)
  | .group inner => .group (inner.instantiate bindings)
  | .array element => .array (element.instantiate bindings)
  | .slice element => .slice (element.instantiate bindings)
  | .tuple components => .tuple (instantiateTypes bindings components)
  | .pointer target => .pointer (target.instantiate bindings)
  | .function inputs => .function (instantiateTypes bindings inputs)
  | .traitObject isLone => .traitObject isLone
  | .implementation => .implementation
  | .macroCall => .macroCall
  | .anonymous => .anonymous
  | .never => .never
  | .inferred => .inferred
termination_by structural type => type

/-- The types of a list with their parameters replaced. -/
def instantiateTypes (bindings : Bindings) : List FieldType → List FieldType
  | [] => []
  | ty :: types => ty.instantiate bindings :: instantiateTypes bindings types
termination_by structural types => types

/-- The segment with the parameters in its arguments or inputs replaced. -/
def Segment.instantiate (bindings : Bindings) : Segment → Segment
  | .plain name => .plain name
  | .angled name arguments => .angled name (instantiateArguments bindings arguments)
  | .callable name inputs => .callable name (instantiateTypes bindings inputs)
termination_by structural segment => segment

/-- The segments of a list with their parameters replaced. -/
def instantiateSegments (bindings : Bindings) : List Segment → List Segment
  | [] => []
  | segment :: segments =>
    segment.instantiate bindings :: instantiateSegments bindings segments
termination_by structural segments => segments

/-- The argument with the parameters in it replaced. -/
def TypeArgument.instantiate (bindings : Bindings) :
    TypeArgument → TypeArgument
  | .type type => .type (type.instantiate bindings)
  | .lifetime => .lifetime
  | .constant => .constant
  | .associated name type => .associated name (type.instantiate bindings)
  | .constrained name => .constrained name
termination_by structural argument => argument

/-- The arguments of a list with their parameters replaced. -/
def instantiateArguments (bindings : Bindings) :
    List TypeArgument → List TypeArgument
  | [] => []
  | argument :: arguments =>
    argument.instantiate bindings :: instantiateArguments bindings arguments
termination_by structural arguments => arguments

end

/-! ### Forms of instantiated types -/

section Form

variable {bindings : Bindings}

theorem filterMap_instantiateArguments (arguments : List TypeArgument) :
    (instantiateArguments bindings arguments).filterMap TypeArgument.type? =
      (arguments.filterMap TypeArgument.type?).map (FieldType.instantiate bindings) := by
  induction arguments with
  | nil => rfl
  | cons argument arguments ih =>
    cases argument with
    | type ty => exact congrArg (ty.instantiate bindings :: ·) ih
    | lifetime | constant | associated | constrained => exact ih

namespace Segment

theorem name_instantiate (segment : Segment) :
    (segment.instantiate bindings).name = segment.name := by
  cases segment <;> rfl

theorem types_instantiate (segment : Segment) :
    (segment.instantiate bindings).types =
      segment.types.map (FieldType.instantiate bindings) := by
  cases segment with
  | plain | callable => rfl
  | angled name arguments => exact filterMap_instantiateArguments arguments

end Segment

namespace FieldType

/-- The form with the types in it changed. -/
def Form.map (change : FieldType → FieldType) : Form → Form
  | named name types => named name (types.map change)
  | transparent inner => transparent (change inner)
  | vector element => vector (change element)
  | other => other

/-- A parameter is replaced by what it is bound to. -/
theorem instantiate_of_bound {ty argument : FieldType} (h : ty.bound? bindings = some argument) :
    ty.instantiate bindings = argument := by
  cases ty with
  | path isGlobal leading last => rw [instantiate, h, Option.getD_some]
  | _ => cases h

/-- A type that is no parameter keeps its form. -/
theorem form_instantiate {ty : FieldType} (h : ty.bound? bindings = none) :
    (ty.instantiate bindings).form = ty.form.map (instantiate bindings) := by
  cases ty with
  | path isGlobal leading last =>
    rw [instantiate, h, Option.getD_none, form, form, Form.map, last.name_instantiate,
      last.types_instantiate]
  | projection subject leading last =>
    rw [instantiate, form, form, Form.map, last.name_instantiate, last.types_instantiate]
  | _ => rfl

theorem bound?_eq_some_iff {ty argument : FieldType} :
    ty.bound? bindings = some argument ↔
      ∃ name, ty = parameter name ∧ bindings.lookup name = some argument := by
  constructor
  · intro h
    unfold bound? at h
    split at h
    · exact ⟨_, rfl, h⟩
    · cases h
  · rintro ⟨name, rfl, h⟩
    exact h

end FieldType

end Form

/-! ### Substitution in erasures -/

namespace Bindings

/-- The names of the parameters. -/
def names (bindings : Bindings) : List String :=
  bindings.map fun binding ↦ binding.1.text

/-- The descriptors of what the parameters stand for. -/
def Denote (bindings : Bindings) (arguments : List Descriptor) : Prop :=
  List.Forall₂ (fun binding d ↦ binding.2.Denotes d) bindings arguments

variable {bindings : Bindings} {arguments : List Descriptor}

/-- A descriptor named like a parameter stands for the descriptor of the parameter's type. -/
theorem Denote.binding?_eq (harguments : bindings.Denote arguments) (name : Identifier) :
    Descriptor.binding? bindings.names arguments name.typeName =
      (bindings.lookup name).bind FieldType.erase? := by
  induction harguments with
  | nil => rfl
  | @cons binding d bindings arguments hd _ ih =>
    obtain ⟨parameter, argument⟩ := binding
    rw [FieldType.denotes_iff] at hd
    simp only [Descriptor.binding?, names, List.map_cons, Identifier.typeName] at ih ⊢
    by_cases hname : name = parameter
    · subst hname
      simp [List.idxOf?_cons, hd]
    · have htext : parameter.text ≠ name.text := fun h ↦ hname (Identifier.text_inj.1 h).symm
      have hne : (name == parameter) = false := by simpa using hname
      rw [List.idxOf?_cons, List.lookup_cons, hne, ← ih]
      simp [htext, Option.map_map, Function.comp_def]

theorem Denote.substitute_eq (harguments : bindings.Denote arguments) (name : Identifier) :
    Descriptor.substitute bindings.names arguments ⟨name.typeName, []⟩ =
      ((bindings.lookup name).bind FieldType.erase?).getD ⟨name.typeName, []⟩ := by
  rw [Descriptor.substitute, harguments.binding?_eq]

theorem Denote.exists_erase? (harguments : bindings.Denote arguments) {name : Identifier}
    {argument : FieldType} (hname : bindings.lookup name = some argument) :
    ∃ d, argument.erase? = some d := by
  induction harguments with
  | nil => cases hname
  | @cons binding d bindings arguments hd _ ih =>
    rw [List.lookup_cons] at hname
    split at hname
    · cases hname
      exact ⟨d, FieldType.denotes_iff.1 hd⟩
    · exact ih hname

end Bindings

/-! ### Capture -/

namespace FieldType

/-- The type is not captured: it is not described by the bare name of a parameter, or it is this
parameter, or the parameter stands for a type that is described by this name too. -/
def EscapesCapture (bindings : Bindings) (ty : FieldType) : Prop :=
  ∀ name argument, ty.form = .named name [] → ty ≠ parameter name →
    bindings.lookup name = some argument → argument.Denotes ⟨name.typeName, []⟩

variable {bindings : Bindings} {arguments : List Descriptor}

/-- One type after the other, substitution gives what instantiation gives. -/
theorem instantiate_forall₂ {types : List FieldType} {ds : List Descriptor}
    (hds : List.Forall₂ (fun ty d ↦ ty.erase? = some d) types ds) {P : FieldType → Prop}
    (hall : ∀ ty ∈ types, ∀ d, ty.erase? = some d →
      ∃ e, (ty.instantiate bindings).erase? = some e ∧
        (e = d.substitute bindings.names arguments ↔ P ty)) :
    ∃ es, List.Forall₂ (fun ty e ↦ ty.erase? = some e) (types.map (instantiate bindings)) es ∧
      (es = ds.map (Descriptor.substitute bindings.names arguments) ↔ ∀ ty ∈ types, P ty) := by
  induction hds with
  | nil => exact ⟨[], .nil, by simp⟩
  | @cons ty d types ds hd _ ih =>
    obtain ⟨e, he, hsame⟩ := hall ty List.mem_cons_self d hd
    obtain ⟨es, hes, hsames⟩ := ih fun other hother ↦ hall other (List.mem_cons_of_mem ty hother)
    exact ⟨e :: es, .cons he hes, by simp [hsame, hsames]⟩

theorem escapesCapture_of_form {ty : FieldType} {form : Form} (hform : ty.form = form)
    (hother : ∀ name, form ≠ .named name []) : ty.EscapesCapture bindings :=
  fun name _ hname ↦ absurd (hform.symm.trans hname) (hother name)

/-- A parameter is the only type that its description visits. -/
theorem escapesCapture_of_visits_parameter {name : Identifier} {other : FieldType}
    (h : (parameter name).Visits other) : other.EscapesCapture bindings := by
  rcases visits_iff.1 h with rfl | ⟨inner, hinner, -⟩
  · intro found argument hform hne
    cases hform
    exact absurd rfl hne
  · cases hinner

/-- A bare name that is no parameter stays as it is before it is described, and after that it is
substituted. -/
theorem eq_substitute_iff_escapesCapture (harguments : bindings.Denote arguments) {ty : FieldType}
    {name : Identifier} (hform : ty.form = .named name []) (hbound : ty.bound? bindings = none) :
    ⟨name.typeName, []⟩ = Descriptor.substitute bindings.names arguments ⟨name.typeName, []⟩ ↔
      ty.EscapesCapture bindings := by
  rw [harguments.substitute_eq]
  cases hname : bindings.lookup name with
  | none =>
    refine iff_of_true rfl fun other argument hother _ hargument ↦ ?_
    cases hform.symm.trans hother
    rw [hname] at hargument
    cases hargument
  | some argument =>
    obtain ⟨d, hd⟩ := harguments.exists_erase? hname
    have hne : ty ≠ parameter name := by
      rintro rfl
      rw [bound?_eq_some_iff.2 ⟨name, rfl, hname⟩] at hbound
      cases hbound
    rw [Option.bind_some, hd, Option.getD_some]
    constructor
    · rintro rfl other found hother - hfound
      cases hform.symm.trans hother
      cases hname.symm.trans hfound
      exact denotes_iff.2 hd
    · intro h
      have hdenotes := denotes_iff.1 (h name argument hform hne hname)
      exact Option.some.inj (hdenotes.symm.trans hd)

/-- A parameter becomes the same thing before it is described and after that. -/
theorem exists_instantiate_erase?_of_bound (harguments : bindings.Denote arguments)
    {ty argument : FieldType} (hbound : ty.bound? bindings = some argument) {d : Descriptor}
    (hd : ty.erase? = some d) :
    ∃ e, (ty.instantiate bindings).erase? = some e ∧
      (e = d.substitute bindings.names arguments ↔
        ∀ other, ty.Visits other → other.EscapesCapture bindings) := by
  obtain ⟨name, rfl, hname⟩ := bound?_eq_some_iff.1 hbound
  obtain ⟨e, he⟩ := harguments.exists_erase? hname
  cases hd
  refine ⟨e, (instantiate_of_bound hbound).symm ▸ he, iff_of_true ?_ fun other hother ↦
    escapesCapture_of_visits_parameter hother⟩
  rw [harguments.substitute_eq, hname, Option.bind_some, he, Option.getD_some]

/-- Instantiation before a type is described, and substitution after that. -/
theorem exists_instantiate_erase? (harguments : bindings.Denote arguments) (ty : FieldType)
    {d : Descriptor} (hd : ty.erase? = some d) :
    ∃ e, (ty.instantiate bindings).erase? = some e ∧
      (e = d.substitute bindings.names arguments ↔
        ∀ other, ty.Visits other → other.EscapesCapture bindings) := by
  induction ty using induction_on_visited generalizing d with
  | hstep ty ih =>
    cases hbound : ty.bound? bindings with
    | some argument => exact exists_instantiate_erase?_of_bound harguments hbound hd
    | none =>
      -- The type keeps its form, so the types inside of it decide, unless it is a bare name.
      have hinstance (e : Descriptor) := @erase?_eq_some_iff (ty.instantiate bindings) e
      rw [forall_visits_iff]
      simp only [visited, form_instantiate hbound] at ih hinstance ⊢
      rw [erase?_eq_some_iff] at hd
      cases hform : ty.form with
      | named name types =>
        simp only [hform, Form.map] at hd ih hinstance ⊢
        obtain ⟨ds, rfl, hds⟩ := hd
        obtain ⟨es, hes, hsame⟩ :=
          instantiate_forall₂ hds fun inner hinner e he ↦ ih inner hinner he
        refine ⟨_, (hinstance _).2 ⟨es, rfl, hes⟩, ?_⟩
        cases hds with
        | nil =>
          cases hes
          simpa using eq_substitute_iff_escapesCapture harguments hform hbound
        | cons =>
          have hself : ty.EscapesCapture bindings := escapesCapture_of_form hform nofun
          rw [← hsame, Descriptor.substitute, Descriptor.substituteAll_eq_map]
          simp [hself]
      | transparent inner =>
        simp only [hform, Form.map] at hd ih hinstance ⊢
        obtain ⟨e, he, hsame⟩ := ih inner List.mem_cons_self hd
        have hself : ty.EscapesCapture bindings := escapesCapture_of_form hform nofun
        exact ⟨e, (hinstance e).2 he, by simpa [hself] using hsame⟩
      | vector element =>
        simp only [hform, Form.map] at hd ih hinstance ⊢
        obtain ⟨d, rfl, hd⟩ := hd
        obtain ⟨e, he, hsame⟩ := ih element List.mem_cons_self hd
        have hself : ty.EscapesCapture bindings := escapesCapture_of_form hform nofun
        refine ⟨e.vec, (hinstance _).2 ⟨e, rfl, he⟩, ?_⟩
        simpa [hself, Descriptor.vec, Descriptor.substitute, Descriptor.substituteAll] using hsame
      | other =>
        rw [hform] at hd
        exact hd.elim

/-- Replacing the type parameters in a type and then describing it gives a descriptor if the type
and what the parameters stand for have one. It is the one that substitution makes of the descriptor
of the type exactly if no type that the description visits is captured. -/
theorem instantiate_denotes_substitute_iff (harguments : bindings.Denote arguments)
    {ty : FieldType} {d : Descriptor} (hd : ty.Denotes d) :
    ∃ e, (ty.instantiate bindings).Denotes e ∧
      (e = d.substitute bindings.names arguments ↔
        ∀ other, ty.Visits other → other.EscapesCapture bindings) := by
  obtain ⟨e, he, hsame⟩ := exists_instantiate_erase? harguments ty (denotes_iff.1 hd)
  exact ⟨e, denotes_iff.2 he, hsame⟩

end FieldType

/-! ### A parameter in an array, and its name at the end of a longer path -/

namespace Qualified

/-- The name of a type parameter. -/
def nameT : Identifier :=
  ⟨"T", by decide, List.all_eq_true.1 (by decide)⟩

/-- The name of the type that the parameter stands for. -/
def nameI32 : Identifier :=
  ⟨"i32", by decide, List.all_eq_true.1 (by decide)⟩

/-- The parameter with what it stands for. -/
def bindings : Bindings :=
  [(nameT, .parameter nameI32)]

/-- The descriptor named like the parameter. -/
def variableT : Descriptor :=
  ⟨nameT.typeName, []⟩

/-- The descriptor of what the parameter stands for. -/
def typeI32 : Descriptor :=
  ⟨nameI32.typeName, []⟩

/-- The path `m::T`, which is no parameter. -/
def pathToT : FieldType :=
  .path false [.plain ⟨"m", by decide, List.all_eq_true.1 (by decide)⟩] (.plain nameT)

theorem denote_bindings : bindings.Denote [typeI32] :=
  .cons (FieldType.denotes_iff.2 rfl) .nil

end Qualified

namespace FieldType

/-- An array of the parameter becomes an array of what the parameter stands for. -/
theorem array_of_parameter_denotes_substitute :
    Qualified.bindings.Denote [Qualified.typeI32] ∧
    (array (parameter Qualified.nameT)).Denotes Qualified.variableT.vec ∧
    ((array (parameter Qualified.nameT)).instantiate Qualified.bindings).Denotes
      (Qualified.variableT.vec.substitute Qualified.bindings.names [Qualified.typeI32]) := by
  have hd : (array (parameter Qualified.nameT)).Denotes Qualified.variableT.vec :=
    denotes_iff.2 rfl
  obtain ⟨e, he, hsame⟩ := instantiate_denotes_substitute_iff Qualified.denote_bindings hd
  have hescapes : ∀ other, (array (parameter Qualified.nameT)).Visits other →
      other.EscapesCapture Qualified.bindings :=
    forall_visits_iff.2 ⟨escapesCapture_of_form rfl nofun,
      List.forall_mem_singleton.2 fun _ ↦ escapesCapture_of_visits_parameter⟩
  exact ⟨Qualified.denote_bindings, hd, hsame.2 hescapes ▸ he⟩

/-- A path that ends with the name of the parameter, behind another name, is no parameter and stays
as it is. Its descriptor is the bare name, and substitution takes this for the parameter. -/
theorem longer_path_is_captured :
    ¬∀ (ty : FieldType) (d : Descriptor) (bindings : Bindings) (arguments : List Descriptor),
      (bindings.map Prod.fst).Nodup → ty.Denotes d → bindings.Denote arguments →
        (ty.instantiate bindings).Denotes (d.substitute bindings.names arguments) := by
  intro h
  have hbefore : (Qualified.pathToT.instantiate Qualified.bindings).Denotes Qualified.variableT :=
    denotes_iff.2 rfl
  have hafter : (Qualified.pathToT.instantiate Qualified.bindings).Denotes
      (Qualified.variableT.substitute Qualified.bindings.names [Qualified.typeI32]) :=
    h Qualified.pathToT Qualified.variableT Qualified.bindings [Qualified.typeI32] (by decide)
      (denotes_iff.2 rfl) Qualified.denote_bindings
  have hsame := Option.some.inj ((denotes_iff.1 hbefore).symm.trans (denotes_iff.1 hafter))
  have hdiffer : Qualified.variableT ≠
      Qualified.variableT.substitute Qualified.bindings.names [Qualified.typeI32] := by
    decide +kernel
  exact hdiffer hsame

end FieldType

end Exemplar
