import Exemplar.Declaration.FieldType
import Exemplar.Grammar.Operator
import Exemplar.Grammar.Reader

/-!
Types, patterns, expressions, statements and items contain one another. A grammar is a choice of
readers for them, and the rules of the language make readers for larger parts out of the readers for
the parts inside. So the rules need not refer to themselves, and the language is what they reach
when they are applied again and again.
-/

set_option autoImplicit false
set_option relaxedAutoImplicit false

namespace Exemplar

/-- The forms of expressions that matter for what may follow them: ranges, comparisons, those that
are complete behind their block, macros with curly brackets, and all others. -/
inductive ExpressionForm
  | range
  | comparison
  | block
  | curlyMacro
  | plain
  deriving DecidableEq

/-- Readers for the parts of declarations that contain one another. A type may be followed by
further bounds or not. Of a bound it matters whether it is a trait, and of a pattern whether it is a
range with an open end. An expression may be a structure with its fields or not, where a block
follows; an operand has no operators behind it; a continuation is what is bound to an operand at
least as tightly as given; and a statement expression ends with its block if it begins with one. -/
structure Grammar where
  type : (allowsPlus : Bool) → Reader FieldType
  bound : (allowsCapture allowsConstant : Bool) → Reader Bool
  pattern : Reader Bool
  expression : (allowsStruct : Bool) → Reader ExpressionForm
  operand : (allowsStruct : Bool) → Reader ExpressionForm
  continuation : (allowsStruct : Bool) → Precedence → ExpressionForm → Reader ExpressionForm
  statementExpression : Reader ExpressionForm
  statements : Reader Unit
  item : Reader Unit

namespace Grammar

/-- The grammar without rules, which rejects everything. -/
def empty : Grammar :=
  { type := fun _ ↦ Reader.expect []
    bound := fun _ _ ↦ Reader.expect []
    pattern := Reader.expect []
    expression := fun _ ↦ Reader.expect []
    operand := fun _ ↦ Reader.expect []
    continuation := fun _ _ _ ↦ Reader.expect []
    statementExpression := Reader.expect []
    statements := Reader.expect []
    item := Reader.expect [] }

end Grammar

end Exemplar
