import Exemplar.Grammar.Statement

/-!
The grammar of declarations: the rules, applied as often as parts are nested. One application of the
rules makes readers for parts of declarations out of readers for the parts inside.
-/

set_option autoImplicit false
set_option relaxedAutoImplicit false

namespace Exemplar.Grammar

/-- The readers for parts of declarations whose inside is read by other readers. -/
def rules (g : Grammar) : Grammar :=
  { type := g.typeRule
    bound := g.boundRule
    pattern := g.patternRule
    expression := g.expressionRule
    operand := g.operandRule
    continuation := g.continuationRule
    statementExpression := g.statementExpressionRule
    statements := g.statementsRule
    item := g.itemRule }

/-- The grammar of parts that are nested at most as deep as given. -/
def ofDepth : Nat → Grammar
  | 0 => empty
  | n + 1 => (ofDepth n).rules

/-- The grammar for tokens. The rules ask for parts inside at most three times before another token
is taken, as statements begin with statement expressions and these with operands. -/
def ofTokens (tokens : List Token) : Grammar :=
  ofDepth (4 * (Token.totalSize tokens + 1))

end Exemplar.Grammar
