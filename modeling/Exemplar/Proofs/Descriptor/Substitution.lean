import Exemplar.Descriptor.Basic

/-!
Substitution for type variables. All that it looks at are the names without arguments in a
descriptor, and what these are bound to. So substituting twice is substituting once, with the second
substitution made in the arguments of the first one, unless the second one finds a name in the
descriptor itself that the first one has left alone. Arguments that were never given are bound to
the root type as if they had been given so.
-/

set_option autoImplicit false
set_option relaxedAutoImplicit false

namespace Exemplar

theorem TypeName.text_injective {name other : TypeName} (h : name.text = other.text) :
    name = other := by
  cases name
  cases other
  cases h
  rfl

namespace Descriptor

/-- The type that has no arguments. As a type variable it is the name of a parameter. -/
def bare (name : TypeName) : Descriptor :=
  ⟨name, []⟩

mutual

/-- The names without arguments in a descriptor, in order. -/
def bareNames : Descriptor → List TypeName
  | ⟨name, []⟩ => [name]
  | ⟨_, d :: ds⟩ => bareNames d ++ bareNamesAll ds
termination_by structural d => d

/-- The names without arguments in the descriptors of a list. -/
def bareNamesAll : List Descriptor → List TypeName
  | [] => []
  | d :: ds => bareNames d ++ bareNamesAll ds
termination_by structural ds => ds

end

variable {parameters others : List String} {arguments values : List Descriptor}

theorem bareNames_of_arguments {d : Descriptor} (hd : d.arguments ≠ []) :
    d.bareNames = bareNamesAll d.arguments := by
  obtain ⟨name, ds⟩ := d
  cases ds with
  | nil => exact absurd rfl hd
  | cons e es => rfl

/-! ### What a name is bound to -/

theorem substitute_bare (parameters : List String) (arguments : List Descriptor) (name : TypeName) :
    (bare name).substitute parameters arguments =
      (binding? parameters arguments name).getD (bare name) := by
  rw [bare, substitute]

theorem binding?_eq_none_iff {name : TypeName} :
    binding? parameters arguments name = none ↔ name.text ∉ parameters := by
  rw [binding?, Option.map_eq_none_iff, List.idxOf?_eq_none_iff]

/-- A name that is no parameter stays. -/
theorem substitute_bare_of_not_mem {name : TypeName} (hname : name.text ∉ parameters) :
    (bare name).substitute parameters arguments = bare name := by
  rw [substitute_bare, binding?_eq_none_iff.2 hname, Option.getD_none]

theorem substitute_object (hobject : TypeName.object.text ∉ parameters) :
    object.substitute parameters arguments = object :=
  substitute_bare_of_not_mem hobject

/-- The name of a type with arguments stays, and only its arguments are looked at. -/
theorem substitute_of_arguments (parameters : List String) (arguments : List Descriptor)
    {d : Descriptor} (hd : d.arguments ≠ []) :
    d.substitute parameters arguments =
      ⟨d.name, d.arguments.map (substitute parameters arguments)⟩ := by
  obtain ⟨name, ds⟩ := d
  cases ds with
  | nil => exact absurd rfl hd
  | cons e es => rw [substitute, substituteAll_eq_map, List.map_cons]

mutual

/-- Only what the names in a descriptor are bound to matters. -/
theorem substitute_congr (hsame : ∀ name,
      binding? parameters arguments name = binding? others values name) :
    (d : Descriptor) → d.substitute parameters arguments = d.substitute others values
  | ⟨name, []⟩ => by rw [substitute, substitute, hsame name]
  | ⟨name, d :: ds⟩ => by
    rw [substitute, substitute, substitute_congr hsame d, substituteAll_congr hsame ds]

theorem substituteAll_congr (hsame : ∀ name,
      binding? parameters arguments name = binding? others values name) :
    (ds : List Descriptor) →
      substituteAll parameters arguments ds = substituteAll others values ds
  | [] => rfl
  | d :: ds => by
    rw [substituteAll, substituteAll, substitute_congr hsame d, substituteAll_congr hsame ds]

end

/-- It makes no difference whether the root type is given for the last parameters or nothing is. -/
theorem substitute_argumentOrObject (parameters : List String) (owner d : Descriptor) :
    d.substitute parameters ((List.range parameters.length).map owner.argumentOrObject) =
      d.substitute parameters owner.arguments := by
  refine substitute_congr (fun name ↦ ?_) d
  rw [binding?, binding?]
  cases hposition : parameters.idxOf? name.text with
  | none => rfl
  | some position =>
    obtain ⟨hlt, -⟩ := List.idxOf?_eq_some_iff.1 hposition
    simp [hlt, argumentOrObject, argument?]

/-! ### Substituting twice -/

/-- A parameter that is bound to some argument is bound to this argument with the second
substitution made in it. -/
theorem substitute_binding (hobject : parameters.length ≤ arguments.length ∨
      TypeName.object.text ∉ others) {name : TypeName} {d : Descriptor}
    (hname : binding? parameters arguments name = some d) :
    binding? parameters (arguments.map (substitute others values)) name =
      some (d.substitute others values) := by
  obtain ⟨position, hposition, rfl⟩ := Option.map_eq_some_iff.1 hname
  rw [binding?, hposition, Option.map_some, List.getElem?_map]
  cases hargument : arguments[position]? with
  | some argument => rfl
  | none =>
    obtain ⟨hlt, -⟩ := List.idxOf?_eq_some_iff.1 hposition
    have hmissing := List.getElem?_eq_none_iff.1 hargument
    have hfree : TypeName.object.text ∉ others := hobject.resolve_left (by omega)
    rw [Option.map_none, Option.getD_none, substitute_object hfree]

mutual

/-- Two substitutions in a row are one. The second one must not replace names that the first one has
left alone, nor the root type where the first one has put it for want of an argument. -/
theorem substitute_substitute (hobject : parameters.length ≤ arguments.length ∨
      TypeName.object.text ∉ others) :
    (d : Descriptor) → (∀ name ∈ d.bareNames, name.text ∉ parameters → name.text ∉ others) →
      (d.substitute parameters arguments).substitute others values =
        d.substitute parameters (arguments.map (substitute others values))
  | ⟨name, []⟩, hnames => by
    have hother := hnames name (List.mem_singleton_self name)
    change ((bare name).substitute _ _).substitute _ _ = (bare name).substitute _ _
    rw [substitute_bare, substitute_bare]
    cases hname : binding? parameters arguments name with
    | none =>
      have hleft := binding?_eq_none_iff.1 hname
      rw [binding?_eq_none_iff.2 hleft, Option.getD_none,
        substitute_bare_of_not_mem (hother hleft)]
    | some d => rw [substitute_binding hobject hname, Option.getD_some, Option.getD_some]
  | ⟨name, d :: ds⟩, hnames => by
    have hd := substitute_substitute hobject d fun other hother ↦
      hnames other (List.mem_append_left _ hother)
    have hds := substituteAll_substituteAll hobject ds fun other hother ↦
      hnames other (List.mem_append_right _ hother)
    rw [substitute, substitute, substitute, hd, hds]

theorem substituteAll_substituteAll (hobject : parameters.length ≤ arguments.length ∨
      TypeName.object.text ∉ others) :
    (ds : List Descriptor) →
      (∀ name ∈ bareNamesAll ds, name.text ∉ parameters → name.text ∉ others) →
      substituteAll others values (substituteAll parameters arguments ds) =
        substituteAll parameters (arguments.map (substitute others values)) ds
  | [], _ => rfl
  | d :: ds, hnames => by
    have hd := substitute_substitute hobject d fun other hother ↦
      hnames other (List.mem_append_left _ hother)
    have hds := substituteAll_substituteAll hobject ds fun other hother ↦
      hnames other (List.mem_append_right _ hother)
    rw [substituteAll, substituteAll, substituteAll, hd, hds]

end

theorem map_substitute_map_substitute (hobject : parameters.length ≤ arguments.length ∨
      TypeName.object.text ∉ others) {ds : List Descriptor}
    (hnames : ∀ name ∈ bareNamesAll ds, name.text ∉ parameters → name.text ∉ others) :
    (ds.map (substitute parameters arguments)).map (substitute others values) =
      ds.map (substitute parameters (arguments.map (substitute others values))) := by
  have htwice : substituteAll others values (substituteAll parameters arguments ds) =
      substituteAll parameters (arguments.map (substitute others values)) ds :=
    substituteAll_substituteAll hobject ds hnames
  simpa only [substituteAll_eq_map] using htwice

/-! ### Parameters for themselves -/

/-- Substituting for pairwise different variables gives the arguments. -/
theorem map_substitute_bare {names : List TypeName} (hnames : names.Nodup)
    (hlength : arguments.length = names.length) :
    (names.map bare).map (substitute (names.map TypeName.text) arguments) = arguments := by
  refine List.ext_getElem (by simp [hlength]) fun position hposition hargument ↦ ?_
  have hlt : position < names.length := by simpa using hposition
  have hfound : (names.map TypeName.text).idxOf? names[position].text = some position := by
    refine List.idxOf?_eq_some_iff.2 ⟨by simpa using hlt, by simp, fun earlier hearlier hsame ↦ ?_⟩
    refine List.pairwise_iff_getElem.1 hnames earlier position (by omega) hlt hearlier ?_
    rw [List.getElem_map] at hsame
    exact TypeName.text_injective hsame
  rw [List.getElem_map, List.getElem_map, substitute_bare, binding?, hfound, Option.map_some,
    Option.getD_some, List.getElem?_eq_getElem hargument, Option.getD_some]

end Descriptor

end Exemplar
