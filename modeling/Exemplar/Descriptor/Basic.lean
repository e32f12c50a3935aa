import Exemplar.Fault
import Exemplar.Text.Space

/-!
A type descriptor is a name together with the descriptors of its type arguments in declaration
order. A name is a trimmed text that is not empty and has none of the characters that write
arguments, so that the display of a descriptor shows where each name ends. Type variables are
descriptors without arguments; substituting for them replaces all of them at once.
-/

set_option autoImplicit false
set_option relaxedAutoImplicit false

namespace Exemplar

/-- The characters that write type arguments. -/
def isDelimiter (c : Char) : Bool :=
  c = '<' || c = '>' || c = ','

/-- The texts that can name a type. -/
structure IsTypeName (text : List Char) : Prop where
  nonempty : text ≠ []
  trimmed : Text.Trimmed text
  plain : ∀ c ∈ text, isDelimiter c = false

/-- The name of a type. -/
structure TypeName where
  text : String
  valid : IsTypeName text.toList
  deriving DecidableEq

namespace TypeName

/-- The name in a text, which may stand between white space. -/
def ofString (text : String) : Except Fault TypeName :=
  let inner := Text.trimChars text.toList
  if hempty : inner = [] then
    .error (.invalidArgument .emptyTypeIdentity)
  else if hplain : inner.any isDelimiter = true then
    .error (.invalidArgument (.genericSyntax (String.ofList inner)))
  else
    .ok ⟨String.ofList inner, by
      rw [String.toList_ofList]
      exact ⟨hempty, Text.trimmed_trimChars text.toList, by simpa using hplain⟩⟩

/-- The name of the root type, which stands for type arguments that were never given. -/
def object : TypeName where
  text := "Object"
  valid := by
    have hchars : "Object".toList = ['O', 'b', 'j', 'e', 'c', 't'] := rfl
    rw [hchars]
    refine ⟨by simp, ⟨fun c hc ↦ ?_, fun c hc ↦ ?_⟩, fun c hc ↦ ?_⟩
    · obtain rfl : 'O' = c := by simpa using hc
      rfl
    · obtain rfl : 't' = c := by simpa using hc
      rfl
    · simp only [List.mem_cons, List.not_mem_nil, or_false] at hc
      rcases hc with rfl | rfl | rfl | rfl | rfl | rfl <;> rfl

/-- Type names are found under themselves where texts are trimmed before they are looked up. -/
@[simp]
theorem trim_text (name : TypeName) : Text.trim name.text = name.text :=
  Text.trim_eq_self name.valid.trimmed

end TypeName

/-- A type: its name and its type arguments in declaration order. -/
structure Descriptor where
  name : TypeName
  arguments : List Descriptor

namespace Descriptor

mutual

/-- Two descriptors are equal if their names and their arguments are. -/
def decideEq : (d e : Descriptor) → Decidable (d = e)
  | ⟨n, ds⟩, ⟨m, es⟩ =>
    match instDecidableEqTypeName n m, decideAllEq ds es with
    | isTrue hname, isTrue harguments => isTrue (by rw [hname, harguments])
    | isFalse hname, _ => isFalse fun h ↦ hname (by cases h; rfl)
    | isTrue _, isFalse harguments => isFalse fun h ↦ harguments (by cases h; rfl)
termination_by structural d => d

/-- Two lists of descriptors are equal if they are so item by item. -/
def decideAllEq : (ds es : List Descriptor) → Decidable (ds = es)
  | [], [] => isTrue rfl
  | [], _ :: _ => isFalse nofun
  | _ :: _, [] => isFalse nofun
  | d :: ds, e :: es =>
    match decideEq d e, decideAllEq ds es with
    | isTrue hhead, isTrue htail => isTrue (by rw [hhead, htail])
    | isFalse hhead, _ => isFalse fun h ↦ hhead (by cases h; rfl)
    | isTrue _, isFalse htail => isFalse fun h ↦ htail (by cases h; rfl)
termination_by structural ds => ds

end

instance : DecidableEq Descriptor :=
  decideEq

mutual

/-- Descriptors are ordered by name and then, argument by argument, by their arguments. Names are
ordered by code points. -/
def order : Descriptor → Descriptor → Ordering
  | ⟨n, ds⟩, ⟨m, es⟩ => (compare n.text m.text).then (orderAll ds es)
termination_by structural d => d

/-- The first difference decides; a list comes before its proper extensions. -/
def orderAll : List Descriptor → List Descriptor → Ordering
  | [], [] => .eq
  | [], _ :: _ => .lt
  | _ :: _, [] => .gt
  | d :: ds, e :: es => (order d e).then (orderAll ds es)
termination_by structural ds => ds

end

instance : Ord Descriptor :=
  ⟨order⟩

/-- The descriptor of a type named by a text, with the given arguments. -/
def ofName (text : String) (arguments : List Descriptor) : Except Fault Descriptor := do
  return ⟨← TypeName.ofString text, arguments⟩

/-- The root type. -/
def object : Descriptor :=
  ⟨TypeName.object, []⟩

/-- The text of the type's name. -/
def identity (d : Descriptor) : String :=
  d.name.text

/-- Whether there are type arguments. -/
def isGeneric (d : Descriptor) : Bool :=
  !d.arguments.isEmpty

/-- The argument at a position. -/
def argument? (d : Descriptor) (index : Nat) : Option Descriptor :=
  d.arguments[index]?

/-- The argument at a position, or the root type where it was not given. -/
def argumentOrObject (d : Descriptor) (index : Nat) : Descriptor :=
  (d.argument? index).getD object

/-- The same name with other arguments. -/
def withArguments (d : Descriptor) (arguments : List Descriptor) : Descriptor :=
  ⟨d.name, arguments⟩

/-- The same arguments under another name. -/
def rename (d : Descriptor) (text : String) : Except Fault Descriptor :=
  ofName text d.arguments

/-- What a type variable stands for: the argument at the position of its first declaration, the root
type where that argument was not given, and nothing for a name that is not declared. -/
def binding? (parameters : List String) (arguments : List Descriptor) (name : TypeName) :
    Option Descriptor :=
  (parameters.idxOf? name.text).map fun position ↦ (arguments[position]?).getD object

mutual

/-- The descriptor with its type variables replaced by the arguments bound to them. Only names
without arguments are variables, and what replaces them is not looked at again. -/
def substitute (parameters : List String) (arguments : List Descriptor) : Descriptor → Descriptor
  | ⟨name, []⟩ => (binding? parameters arguments name).getD ⟨name, []⟩
  | ⟨name, d :: ds⟩ =>
    ⟨name, substitute parameters arguments d :: substituteAll parameters arguments ds⟩
termination_by structural d => d

/-- Substitution in every descriptor of a list. -/
def substituteAll (parameters : List String) (arguments : List Descriptor) :
    List Descriptor → List Descriptor
  | [] => []
  | d :: ds => substitute parameters arguments d :: substituteAll parameters arguments ds
termination_by structural ds => ds

end

theorem substituteAll_eq_map (parameters : List String) (arguments ds : List Descriptor) :
    substituteAll parameters arguments ds = ds.map (substitute parameters arguments) := by
  induction ds with
  | nil => rfl
  | cons d ds ih => rw [substituteAll, ih, List.map_cons]

end Descriptor

end Exemplar
