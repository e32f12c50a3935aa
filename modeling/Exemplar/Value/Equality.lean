import Exemplar.Value.Basic

/-!
Equality of values. A reference equals itself, a hollow object equals nothing else, and all other
objects are compared part by part: ordered collections element by element, unordered ones by
crossing out an equal element for each element, maps by looking up each key in the other map, and
records field by field. The order in which entries were inserted does not matter.
-/

set_option autoImplicit false
set_option relaxedAutoImplicit false

namespace Exemplar

/-- The list without the item at an index, whose place is taken by the last item. -/
def swapRemove {α : Type} (items : List α) (index : Nat) : List α :=
  match items.getLast? with
  | none => []
  | some last => (items.set index last).dropLast

mutual

/-- Whether two values are equal. -/
def Value.equal : Value → Value → Bool
  | .null, .null => true
  | .bool a, .bool b => a = b
  | .char a, .char b => a = b
  | .integer a, .integer b => a = b
  | .floating a, .floating b => a.equal b
  | .ref m a, .ref n b => m = n || Object.equal a b
  | _, _ => false
termination_by structural a => a

/-- Whether two different objects are equal. -/
def Object.equal : Object → Object → Bool
  | .text a, .text b => a = b
  | .marker a, .marker b => a = b
  | .enumConstant d a, .enumConstant e b => d = e && a = b
  | .collection c o as, .collection d p bs =>
    c = d && o = p && as.length = bs.length &&
      if o then equalInOrder as bs else equalCrossingOut as bs
  | .map c as, .map d bs => c = d && as.length = bs.length && foundIn as bs
  | .record d as, .record e bs => d = e && equalFields as bs
  | _, _ => false
termination_by structural a => a

/-- Whether two lists of values are equal item by item. -/
def equalInOrder : List Value → List Value → Bool
  | [], [] => true
  | a :: as, b :: bs => a.equal b && equalInOrder as bs
  | _, _ => false
termination_by structural as => as

/-- Whether each value of a list has an equal one of its own in the other list. The first equal one
is crossed out. -/
def equalCrossingOut : List Value → List Value → Bool
  | [], _ => true
  | a :: as, bs =>
    match bs.findIdx? a.equal with
    | none => false
    | some index => equalCrossingOut as (swapRemove bs index)
termination_by structural as => as

/-- Whether every entry of a list is found in the other list. -/
def foundIn : List (Value × Value) → List (Value × Value) → Bool
  | [], _ => true
  | a :: as, bs => entryFoundIn a bs && foundIn as bs
termination_by structural as => as

/-- Whether the first entry with an equal key has an equal value. -/
def entryFoundIn : Value × Value → List (Value × Value) → Bool
  | (key, value), bs =>
    match bs.find? fun entry ↦ key.equal entry.1 with
    | none => false
    | some entry => value.equal entry.2
termination_by structural a => a

/-- Whether two lists of named values are equal item by item. -/
def equalFields : List (String × Value) → List (String × Value) → Bool
  | [], [] => true
  | a :: as, b :: bs => equalField a b && equalFields as bs
  | _, _ => false
termination_by structural as => as

/-- Whether two named values have the same name and equal values. -/
def equalField : String × Value → String × Value → Bool
  | (name, value), (other, otherValue) => name = other && value.equal otherValue
termination_by structural a => a

end

end Exemplar
