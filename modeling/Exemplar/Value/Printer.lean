import Exemplar.Descriptor.Printer
import Exemplar.Text.Quoted
import Exemplar.Value.Basic

/-!
The display of values: texts and characters are quoted, collections stand in square brackets and
maps in curly ones, and a record shows its type and its named fields.
-/

set_option autoImplicit false
set_option relaxedAutoImplicit false

namespace Exemplar

mutual

/-- The display of a value. -/
def Value.display : Value → String
  | .null => "null"
  | .bool value => if value then "true" else "false"
  | .char value => Text.quoteChar value
  | .integer value => value.display
  | .floating value => value.display
  | .ref _ object => object.display
termination_by structural value => value

/-- The display of an object. -/
def Object.display : Object → String
  | .text content => Text.quote content
  | .marker label => "<" ++ label ++ ">"
  | .enumConstant enumeration name => enumeration ++ "::" ++ name
  | .collection _ _ elements => "[" ++ ", ".intercalate (displayEach elements) ++ "]"
  | .map _ entries => "\x7b" ++ ", ".intercalate (displayEntries entries) ++ "\x7d"
  | .record descriptor fields =>
    descriptor.display ++ " \x7b" ++
      (if fields.isEmpty then "" else " " ++ ", ".intercalate (displayFields fields)) ++ " \x7d"
  | .hollow descriptor => "<hollow " ++ descriptor.display ++ ">"
termination_by structural object => object

/-- The displays of the elements of a collection. -/
def displayEach : List Value → List String
  | [] => []
  | value :: values => value.display :: displayEach values
termination_by structural values => values

/-- The displays of the entries of a map. -/
def displayEntries : List (Value × Value) → List String
  | [] => []
  | entry :: entries => displayEntry entry :: displayEntries entries
termination_by structural entries => entries

/-- The display of an entry: its key, a colon and its value. -/
def displayEntry : Value × Value → String
  | (key, value) => key.display ++ ": " ++ value.display
termination_by structural entry => entry

/-- The displays of the fields of a record. -/
def displayFields : List (String × Value) → List String
  | [] => []
  | field :: fields => displayField field :: displayFields fields
termination_by structural fields => fields

/-- The display of a field: its name, a colon and its value. -/
def displayField : String × Value → String
  | (name, value) => name ++ ": " ++ value.display
termination_by structural field => field

end

end Exemplar
