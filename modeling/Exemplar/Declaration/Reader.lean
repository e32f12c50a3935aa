import Exemplar.Grammar.Rules

/-!
Reading the declaration of a type. Tokens that are left over, within brackets or behind the
declaration, are noticed only when everything else is read.
-/

set_option autoImplicit false
set_option relaxedAutoImplicit false

namespace Exemplar.Declaration

/-- The declaration that tokens are. -/
def ofTokens (tokens : List Token) : Except Rejection Declaration :=
  (Grammar.ofTokens tokens).data.readAll tokens

end Exemplar.Declaration
