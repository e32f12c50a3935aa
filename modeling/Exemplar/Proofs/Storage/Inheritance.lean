import Exemplar.Proofs.Storage.Chain
import Exemplar.Proofs.Synthesis.Requirement

/-!
Inherited generic fields. The fields of a generic type can be listed once, with the type's own
parameters as its arguments, and instantiated afterwards: this gives the fields that are listed for
the instance. Going up the superclass chain one layout after the other takes a parameter for what
this layout makes of it, so the two only agree where no layout on the chain uses a parameter of the
first one for a type of its own, and where no layout extends one of its parameters, because an
instance would then have another superclass.
-/

set_option autoImplicit false
set_option relaxedAutoImplicit false

namespace Exemplar

/-- A layout takes none of these names for a type: those that occur in it without arguments are its
own parameters. -/
structure Layout.LeavesFree (layout : Layout) (names : List String) : Prop where
  fields : ∀ field ∈ layout.fields, field.isStatic = false → ∀ name ∈ field.type.bareNames,
    name.text ∈ names → name.text ∈ layout.parameters
  superclass : ∀ superclass, layout.superclass = some superclass →
    ∀ name ∈ superclass.bareNames, name.text ∈ names → name.text ∈ layout.parameters

/-- The superclass of a layout is one of its parameters. -/
def Layout.ExtendsParameter (layout : Layout) : Prop :=
  ∃ name, layout.superclass = some (.bare name) ∧ name.text ∈ layout.parameters

/-- A field with its type instantiated. -/
def Field.instantiate (parameters : List String) (arguments : List Descriptor) (field : Field) :
    Field :=
  { field with type := field.type.substitute parameters arguments }

namespace Layout

variable {layout : Layout} {names : List String}

/-- Instantiating the own fields of a type is instantiating its arguments. -/
theorem LeavesFree.instanceFields (hfree : layout.LeavesFree names)
    (hobject : TypeName.object.text ∉ names) (arguments values : List Descriptor) :
    layout.instanceFields (arguments.map (Descriptor.substitute names values)) =
      (layout.instanceFields arguments).map (Field.instantiate names values) := by
  rw [Layout.instanceFields, Layout.instanceFields, List.map_map]
  refine List.map_congr_left fun field hfield ↦ ?_
  obtain ⟨hmem, hinstance⟩ := List.mem_filter.1 hfield
  have hnames : ∀ name ∈ field.type.bareNames, name.text ∉ layout.parameters → name.text ∉ names :=
    fun name hname hother hin ↦
      hother (hfree.fields field hmem (by simpa using hinstance) name hname hin)
  have htwice : (field.type.substitute layout.parameters arguments).substitute names values =
      field.type.substitute layout.parameters
        (arguments.map (Descriptor.substitute names values)) :=
    Descriptor.substitute_substitute (.inr hobject) field.type hnames
  simp only [Function.comp_apply, Field.instantiate, htwice]

/-- Instantiating the arguments of a type instantiates those of its superclass, which keeps its
name. -/
theorem LeavesFree.superclass_arguments (hfree : layout.LeavesFree names)
    (hextends : ¬layout.ExtendsParameter) (hobject : TypeName.object.text ∉ names)
    {superclass parent : Descriptor} {arguments : List Descriptor}
    (hsuperclass : layout.superclass = some superclass)
    (hparent : superclass.substitute layout.parameters arguments = parent)
    (values : List Descriptor) :
    superclass.substitute layout.parameters (arguments.map (Descriptor.substitute names values)) =
      parent.withArguments (parent.arguments.map (Descriptor.substitute names values)) := by
  subst hparent
  by_cases hbare : superclass.arguments = []
  · obtain ⟨name, ds⟩ := superclass
    obtain rfl : ds = [] := hbare
    have hname : name.text ∉ layout.parameters := fun hmem ↦ hextends ⟨name, hsuperclass, hmem⟩
    have hkept (given : List Descriptor) :
        Descriptor.substitute layout.parameters given ⟨name, []⟩ = ⟨name, []⟩ :=
      Descriptor.substitute_bare_of_not_mem hname
    rw [hkept, hkept]
    rfl
  · have hnames : ∀ name ∈ Descriptor.bareNamesAll superclass.arguments,
        name.text ∉ layout.parameters → name.text ∉ names := fun name hname hother hin ↦
      hother (hfree.superclass superclass hsuperclass name
        (by rwa [Descriptor.bareNames_of_arguments hbare]) hin)
    rw [Descriptor.substitute_of_arguments _ _ hbare, Descriptor.substitute_of_arguments _ _ hbare,
      ← Descriptor.map_substitute_map_substitute (.inr hobject) hnames]
    rfl

end Layout

namespace Catalog

variable {catalog : Catalog} {layouts : Table String Layout} {visited : List String}
variable {start d : Descriptor} {names : List String}

/-- Two enumerations side by side, one of them with the type arguments instantiated, meet the same
layouts all the way up. -/
theorem fieldsFrom_instantiate (hlayouts : catalog.LeftOf visited layouts)
    (hobject : TypeName.object.text ∉ names)
    (hfree : ∀ e layout, catalog.Descends d e → catalog.layout? e.identity = some layout →
      layout.LeavesFree names ∧ ¬layout.ExtendsParameter)
    {fields : List Field} (hfields : fieldsFrom start layouts visited d = .ok fields)
    (other : Descriptor) (values : List Descriptor) :
    fieldsFrom other layouts visited
        (d.withArguments (d.arguments.map (Descriptor.substitute names values))) =
      .ok (fields.map (Field.instantiate names values)) := by
  fun_induction fieldsFrom start layouts visited d generalizing fields with
  | case1 => cases hfields
  | case2 => cases hfields
  | case3 layouts visited d hvisited layout hlayout hroot =>
    have hfound : catalog.layout? d.identity = some layout := by
      rw [layout?_identity, ← hlayouts _ hvisited, hlayout]
    have hown := (hfree d layout .refl hfound).1.instanceFields hobject d.arguments values
    rw [fieldsFrom_of_layout (d := d.withArguments _) hvisited hlayout, hroot,
      ← Except.ok.inj hfields, ← hown]
    rfl
  | case4 layouts visited d hvisited layout hlayout superclass hsuperclass ih =>
    have hfound : catalog.layout? d.identity = some layout := by
      rw [layout?_identity, ← hlayouts _ hvisited, hlayout]
    obtain ⟨hself, hextends⟩ := hfree d layout .refl hfound
    have hparent : catalog.HasSuperclass d (superclass.substitute layout.parameters d.arguments) :=
      ⟨layout, superclass, hfound, hsuperclass, rfl⟩
    obtain ⟨inherited, hinherited, rfl⟩ := eq_append_of_ok hfields
    have habove := ih (hlayouts.erase _) (fun e layout he ↦ hfree e layout (.head hparent he))
      hinherited
    rw [fieldsFrom_of_layout (d := d.withArguments _) hvisited hlayout, hsuperclass]
    dsimp only [Descriptor.withArguments]
    rw [hself.superclass_arguments hextends hobject hsuperclass rfl,
      hself.instanceFields hobject d.arguments values, List.map_append]
    exact congrArg (Except.map (· ++ _)) habove

/-- The fields of an instance of a generic type are those of the type with its own parameters as its
arguments, instantiated. None of the parameters is named as the root type, no superclass on the
chain is a parameter, and none of the ancestors takes one of the parameters for a type. -/
theorem fields_instantiate {name : TypeName} {parameters : List TypeName} {layout : Layout}
    {arguments : List Descriptor} {fields : List Field}
    (hlayout : catalog.layout? name.text = some layout)
    (hparameters : layout.parameters = parameters.map TypeName.text) (hdistinct : parameters.Nodup)
    (hobject : TypeName.object ∉ parameters) (hlength : arguments.length = parameters.length)
    (hfields : catalog.fields ⟨name, parameters.map Descriptor.bare⟩ = .ok fields)
    (hextends : ∀ e above, catalog.Descends ⟨name, parameters.map Descriptor.bare⟩ e →
      catalog.layout? e.identity = some above → ¬above.ExtendsParameter)
    (hfree : ∀ e above,
      Relation.TransGen catalog.HasSuperclass ⟨name, parameters.map Descriptor.bare⟩ e →
        catalog.layout? e.identity = some above → above.LeavesFree layout.parameters) :
    catalog.fields ⟨name, arguments⟩ =
      .ok (fields.map (Field.instantiate layout.parameters arguments)) := by
  have hnotObject : TypeName.object.text ∉ layout.parameters := by
    intro hmem
    rw [hparameters] at hmem
    obtain ⟨parameter, hparameter, hsame⟩ := List.mem_map.1 hmem
    exact hobject (TypeName.text_injective hsame ▸ hparameter)
  have hchain (e : Descriptor) (above : Layout)
      (he : catalog.Descends ⟨name, parameters.map Descriptor.bare⟩ e)
      (habove : catalog.layout? e.identity = some above) :
      above.LeavesFree layout.parameters ∧ ¬above.ExtendsParameter := by
    refine ⟨?_, hextends e above he habove⟩
    -- The type itself has no other parameters.
    rcases Relation.reflTransGen_iff_eq_or_transGen.1 he with rfl | hancestor
    · obtain rfl : layout = above := Option.some.inj (hlayout.symm.trans habove)
      exact ⟨fun _ _ _ _ _ hmem ↦ hmem, fun _ _ _ _ hmem ↦ hmem⟩
    · exact hfree e above hancestor habove
  have hall : catalog.LeftOf [] catalog.layouts := fun _ _ ↦ rfl
  have hinstance :=
    fieldsFrom_instantiate hall hnotObject hchain hfields ⟨name, arguments⟩ arguments
  rw [hparameters, Descriptor.withArguments, Descriptor.map_substitute_bare hdistinct hlength,
    ← hparameters] at hinstance
  exact hinstance

end Catalog

/-! ### A type of entries with inherited items -/

namespace Keyed

def typeK : Descriptor :=
  .ofLetter 'K' rfl rfl []

def typeV : Descriptor :=
  .ofLetter 'V' rfl rfl []

def typeI : Descriptor :=
  .ofLetter 'I' rfl rfl []

def typeD : Descriptor :=
  .ofLetter 'D' rfl rfl []

def typeF : Descriptor :=
  .ofLetter 'F' rfl rfl []

def queueOf (item : Descriptor) : Descriptor :=
  .ofLetter 'Q' rfl rfl [item]

/-- The superclass, with a type of items. -/
def typeW (item : Descriptor) : Descriptor :=
  .ofLetter 'W' rfl rfl [item]

/-- The type of entries, with a type of keys and a type of items. -/
def typeR (key item : Descriptor) : Descriptor :=
  .ofLetter 'R' rfl rfl [key, item]

def layoutW : Layout :=
  ((Layout.ofKind "W" .abstract).withParameters ["I"]).withField "items" (.ok (queueOf typeI))

def layoutR : Layout :=
  (((Layout.ofKind "R" .ordinary).withParameters ["K", "V"]).withSuperclass
    (.ok (typeW typeV))).withField "key" (.ok typeK)

def catalog : Catalog :=
  ⟨(Table.empty.insert "W" layoutW).insert "R" layoutR⟩

theorem fields_typeR : catalog.fields (typeR typeK typeV) =
    .ok [⟨"items", queueOf typeV, false⟩, ⟨"key", typeK, false⟩] := by
  have hlayoutR : catalog.layouts.get? (typeR typeK typeV).identity = some layoutR := rfl
  have hlayoutW : catalog.layouts.get? (typeW typeV).identity = some layoutW := rfl
  exact Catalog.fields_of_superclass hlayoutR rfl (by decide) hlayoutW rfl

theorem hasSuperclass_typeR {e : Descriptor}
    (h : catalog.HasSuperclass (typeR typeK typeV) e) : e = typeW typeV := by
  obtain ⟨layout, superclass, hlayout, hsuperclass, rfl⟩ := h
  obtain rfl : layoutR = layout := Option.some.inj hlayout
  obtain rfl : typeW typeV = superclass := Option.some.inj hsuperclass
  rfl

theorem not_hasSuperclass_typeW {e : Descriptor} : ¬catalog.HasSuperclass (typeW typeV) e := by
  rintro ⟨layout, superclass, hlayout, hsuperclass, rfl⟩
  obtain rfl : layoutW = layout := Option.some.inj hlayout
  cases hsuperclass

theorem ancestor_typeR {e : Descriptor}
    (h : Relation.TransGen catalog.HasSuperclass (typeR typeK typeV) e) : e = typeW typeV := by
  induction h with
  | single hstep => exact hasSuperclass_typeR hstep
  | tail _ hstep ih => exact absurd (ih ▸ hstep) not_hasSuperclass_typeW

theorem not_extendsParameter {e : Descriptor} {above : Layout}
    (he : catalog.Descends (typeR typeK typeV) e)
    (habove : catalog.layout? e.identity = some above) : ¬above.ExtendsParameter := by
  rintro ⟨name, hsuperclass, -⟩
  rcases Relation.reflTransGen_iff_eq_or_transGen.1 he with rfl | hancestor
  · obtain rfl : layoutR = above := Option.some.inj habove
    cases hsuperclass
  · rw [ancestor_typeR hancestor] at habove
    obtain rfl : layoutW = above := Option.some.inj habove
    cases hsuperclass

theorem leavesFree_layoutW : layoutW.LeavesFree ["K", "V"] where
  fields field hfield _ name hname hmem := by
    obtain rfl : field = ⟨"items", queueOf typeI, false⟩ := List.mem_singleton.1 hfield
    obtain rfl : name = typeI.name := List.mem_singleton.1 hname
    exact List.mem_singleton_self _
  superclass _ hsuperclass := nomatch hsuperclass

/-- Entries with keys `D` and items `F`. -/
theorem fields_typeR_instance : catalog.fields (typeR typeD typeF) =
    .ok [⟨"items", queueOf typeF, false⟩, ⟨"key", typeD, false⟩] := by
  have hlayout : catalog.layout? (typeR typeD typeF).name.text = some layoutR := rfl
  have hparameters : layoutR.parameters = [typeK.name, typeV.name].map TypeName.text := rfl
  refine Catalog.fields_instantiate hlayout hparameters (by decide) (by decide) rfl fields_typeR
    (fun e above ↦ not_extendsParameter) fun e above hancestor habove ↦ ?_
  rw [ancestor_typeR hancestor] at habove
  obtain rfl : layoutW = above := Option.some.inj habove
  exact leavesFree_layoutW

end Keyed

end Exemplar
