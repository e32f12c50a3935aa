import Exemplar.Proofs.Descriptor.Substitution
import Exemplar.Proofs.Synthesis.Requirement
import Mathlib.Data.List.Forall2

/-!
A descriptor has its places, which are reached by going down from argument to argument. Substitution
puts an argument, as it was given, at each place of the variable that it is bound to, and keeps the
name and the number of arguments at every other place; no other result does both. The names inside
of an argument are not looked at by the same substitution, even where they are parameters of it. A
later substitution does look at them. It may as well be made in the arguments beforehand, as long as
these are all that it finds to replace.
-/

set_option autoImplicit false
set_option relaxedAutoImplicit false

namespace Exemplar

namespace Descriptor

variable {parameters : List String} {arguments : List Descriptor}

/-! ### What stands at a place -/

/-- The part of a descriptor at a place, given by the positions of the arguments on the way down. -/
def part? : List Nat → Descriptor → Option Descriptor
  | [], d => some d
  | position :: place, d => (d.argument? position).bind (part? place)

theorem part?_of_argument {d e : Descriptor} {position : Nat}
    (he : d.argument? position = some e) (place : List Nat) :
    d.part? (position :: place) = e.part? place := by
  rw [part?, he, Option.bind_some]

theorem part?_bare_eq_some_iff {name : TypeName} {place : List Nat} {part : Descriptor} :
    (bare name).part? place = some part ↔ place = [] ∧ bare name = part := by
  cases place with
  | nil => simp [part?]
  | cons position place => simp [part?, argument?, bare]

/-- A descriptor with arguments put in for its type variables. Where a variable stands, there is the
argument at the position of its first declaration, as it was given, or the root type if there is no
such argument. Where anything else stands, there is the same name, with as many arguments. -/
structure FillsIn (parameters : List String) (arguments : List Descriptor)
    (d result : Descriptor) : Prop where
  puts : ∀ place name position, d.part? place = some (bare name) →
    parameters.idxOf? name.text = some position →
      result.part? place = some ((arguments[position]?).getD object)
  keeps : ∀ place part, d.part? place = some part →
    (part.arguments = [] → part.name.text ∉ parameters) →
      ∃ kept, result.part? place = some kept ∧ kept.name = part.name ∧
        kept.arguments.length = part.arguments.length

theorem fillsIn_variable_iff {name : TypeName} {position : Nat} {result : Descriptor}
    (hposition : parameters.idxOf? name.text = some position) :
    FillsIn parameters arguments (bare name) result ↔
      result = (arguments[position]?).getD object := by
  constructor
  · intro hfills
    exact Option.some.inj (hfills.puts [] name position rfl hposition)
  · rintro rfl
    constructor
    · intro place other index hpart hindex
      obtain ⟨rfl, hsame⟩ := part?_bare_eq_some_iff.1 hpart
      cases hsame
      obtain rfl : position = index := Option.some.inj (hposition.symm.trans hindex)
      rfl
    · intro place part hpart hfree
      obtain ⟨rfl, rfl⟩ := part?_bare_eq_some_iff.1 hpart
      exact absurd (List.isSome_idxOf?.1 (Option.isSome_of_eq_some hposition)) (hfree rfl)

/-- What holds of a descriptor holds of its arguments. -/
theorem FillsIn.argument {d result e f : Descriptor} {position : Nat}
    (hfills : FillsIn parameters arguments d result) (he : d.argument? position = some e)
    (hf : result.argument? position = some f) : FillsIn parameters arguments e f where
  puts place name index hpart hindex := by
    rw [← part?_of_argument he] at hpart
    rw [← part?_of_argument hf]
    exact hfills.puts (position :: place) name index hpart hindex
  keeps place part hpart hfree := by
    rw [← part?_of_argument he] at hpart
    rw [← part?_of_argument hf]
    exact hfills.keeps (position :: place) part hpart hfree

theorem exists_argument_of_part? {d result part : Descriptor} {position : Nat} {place : List Nat}
    (harguments : List.Forall₂ (FillsIn parameters arguments) d.arguments result.arguments)
    (hpart : d.part? (position :: place) = some part) :
    ∃ e f, e.part? place = some part ∧ FillsIn parameters arguments e f ∧
      result.part? (position :: place) = f.part? place := by
  obtain ⟨e, he, hpart⟩ := Option.bind_eq_some_iff.1 hpart
  obtain ⟨hlt, rfl⟩ := List.getElem?_eq_some_iff.1 he
  have hlt' : position < result.arguments.length := harguments.length_eq ▸ hlt
  exact ⟨_, result.arguments[position], hpart, harguments.get hlt hlt',
    part?_of_argument (List.getElem?_eq_getElem hlt') place⟩

/-- A descriptor that is no variable keeps its name, and its arguments are filled in. -/
theorem fillsIn_iff_of_not_variable {d result : Descriptor}
    (hfree : d.arguments = [] → d.name.text ∉ parameters) :
    FillsIn parameters arguments d result ↔ result.name = d.name ∧
      List.Forall₂ (FillsIn parameters arguments) d.arguments result.arguments := by
  constructor
  · intro hfills
    obtain ⟨kept, hkept, hname, hlength⟩ := hfills.keeps [] d rfl hfree
    obtain rfl : result = kept := Option.some.inj hkept
    refine ⟨hname, List.forall₂_iff_get.2 ⟨hlength.symm, fun position hlt hlt' ↦ ?_⟩⟩
    exact hfills.argument (List.getElem?_eq_getElem hlt) (List.getElem?_eq_getElem hlt')
  · rintro ⟨hname, harguments⟩
    constructor
    · intro place name index hpart hindex
      cases place with
      | nil =>
        obtain rfl : d = bare name := Option.some.inj hpart
        exact absurd (List.isSome_idxOf?.1 (Option.isSome_of_eq_some hindex)) (hfree rfl)
      | cons position place =>
        obtain ⟨e, f, hpart, hfills, hbelow⟩ := exists_argument_of_part? harguments hpart
        rw [hbelow]
        exact hfills.puts place name index hpart hindex
    · intro place part hpart hfree
      cases place with
      | nil =>
        obtain rfl : d = part := Option.some.inj hpart
        exact ⟨result, rfl, hname, harguments.length_eq.symm⟩
      | cons position place =>
        obtain ⟨e, f, hpart, hfills, hbelow⟩ := exists_argument_of_part? harguments hpart
        rw [hbelow]
        exact hfills.keeps place part hpart hfree

/-! ### Substitution puts the arguments in -/

mutual

/-- Substitution puts arguments in for variables, and nothing else does. -/
theorem fillsIn_iff : (d result : Descriptor) →
    (FillsIn parameters arguments d result ↔ result = d.substitute parameters arguments)
  | ⟨name, []⟩, ⟨other, es⟩ => by
    -- Only a name without arguments can be a variable, so the declarations count here alone.
    change FillsIn parameters arguments (bare name) ⟨other, es⟩ ↔
      ⟨other, es⟩ = (bare name).substitute parameters arguments
    cases hposition : parameters.idxOf? name.text with
    | none =>
      have hfree : name.text ∉ parameters := List.idxOf?_eq_none_iff.1 hposition
      rw [fillsIn_iff_of_not_variable fun _ ↦ hfree, substitute_bare_of_not_mem hfree, bare,
        List.forall₂_nil_left_iff, mk.injEq]
    | some position =>
      rw [fillsIn_variable_iff hposition, substitute_bare, binding?, hposition, Option.map_some,
        Option.getD_some]
  | ⟨name, d :: ds⟩, ⟨other, es⟩ => by
    have hgeneric : d :: ds ≠ [] := List.cons_ne_nil d ds
    rw [fillsIn_iff_of_not_variable fun h ↦ absurd h hgeneric, substitute, ← substituteAll,
      mk.injEq, forall₂_fillsIn_iff (d :: ds) es]

theorem forall₂_fillsIn_iff : (ds es : List Descriptor) →
    (List.Forall₂ (FillsIn parameters arguments) ds es ↔
      es = substituteAll parameters arguments ds)
  | [], es => by rw [List.forall₂_nil_left_iff, substituteAll]
  | d :: ds, [] => by simp [substituteAll]
  | d :: ds, e :: es => by
    rw [List.forall₂_cons, fillsIn_iff d e, forall₂_fillsIn_iff ds es, substituteAll,
      List.cons.injEq]

end

/-- Two substitutions in a row are one, with the second one made in its arguments, unless the
second one replaces a name without arguments that the first one has left alone, or the root type
where the first one has put it for want of an argument. One substitution puts in the arguments of
its variables as they were given, whatever names occur in them, and changes nothing else. -/
theorem substitution_composes_and_fills_in (parameters : List String) (arguments : List Descriptor)
    (others : List String) (values : List Descriptor) (d : Descriptor) :
    ((∀ name ∈ d.bareNames, name.text ∉ parameters → name.text ∉ others) →
      (parameters.length ≤ arguments.length ∨ TypeName.object.text ∉ others) →
        (d.substitute parameters arguments).substitute others values =
          d.substitute parameters (arguments.map (substitute others values))) ∧
    ∀ result, FillsIn parameters arguments d result ↔
      result = d.substitute parameters arguments := by
  constructor
  · intro hnames hobject
    exact substitute_substitute hobject d hnames
  · intro result
    exact fillsIn_iff d result

end Descriptor

/-! ### A parameter declared twice, one without argument, and one with arguments of its own -/

namespace Nested

def typeT : Descriptor :=
  .ofLetter 't' rfl rfl []

def typeK : Descriptor :=
  .ofLetter 'k' rfl rfl []

def typeU : Descriptor :=
  .ofLetter 'u' rfl rfl []

def typeS : Descriptor :=
  .ofLetter 's' rfl rfl []

def listOf (item : Descriptor) : Descriptor :=
  .ofLetter 'l' rfl rfl [item]

/-- A type named like the parameter, with arguments. -/
def genericT (item : Descriptor) : Descriptor :=
  .ofLetter 't' rfl rfl [item]

def typeM (first second third fourth : Descriptor) : Descriptor :=
  .ofLetter 'm' rfl rfl [first, second, third, fourth]

/-- A type with the variables `t` and `k`, a name that is no variable, and a name that would be one
if it had no arguments. -/
def template : Descriptor :=
  typeM typeT typeK typeU (genericT typeT)

/-- The type with a list of `t` for `t` and nothing for `k`. -/
def filled : Descriptor :=
  typeM (listOf typeT) .object typeU (genericT (listOf typeT))

/-- The `t` in the list is left to the second substitution, which puts `s` there. -/
theorem substitution_composes_for_template :
    (∀ name ∈ template.bareNames, name.text ∉ ["t", "t", "k"] → name.text ∉ ["t"]) ∧
    TypeName.object.text ∉ ["t"] ∧
    Descriptor.FillsIn ["t", "t", "k"] [listOf typeT, typeS] template filled ∧
    filled.substitute ["t"] [typeS] =
      template.substitute ["t", "t", "k"] [listOf typeS, typeS] := by
  have hnames : ∀ name ∈ template.bareNames,
      name.text ∉ ["t", "t", "k"] → name.text ∉ ["t"] := by decide
  have hobject : TypeName.object.text ∉ ["t"] := by decide
  have hfilled : filled = template.substitute ["t", "t", "k"] [listOf typeT, typeS] := by decide
  have harguments : [listOf typeT, typeS].map (Descriptor.substitute ["t"] [typeS]) =
      [listOf typeS, typeS] := by decide
  obtain ⟨hcomposes, hfills⟩ := Descriptor.substitution_composes_and_fills_in
    ["t", "t", "k"] [listOf typeT, typeS] ["t"] [typeS] template
  refine ⟨hnames, hobject, (hfills filled).2 hfilled, ?_⟩
  rw [hfilled, hcomposes hnames (.inr hobject), harguments]

end Nested

end Exemplar
