import Exemplar.Token.Beginning

/-!
Why a declaration has no layout: it has a form that layouts do not cover, one of its attributes is
not understood, or it is not written as declarations are. What is written can miss something, have
tokens left over, or have a part that is not allowed in its place.
-/

set_option autoImplicit false
set_option relaxedAutoImplicit false

namespace Exemplar

/-- What cannot follow a conversion. -/
inductive Continuation
  | await
  | method
  | field
  | question
  | index
  | call
  deriving DecidableEq

/-- Why a declaration has no layout. Where something is missing, it can matter whether other tokens
stand in its place or there are no more tokens. -/
inductive Rejection
  | undescribableType
  | superclassOfEnum
  | variantWithFields
  | union
  | unknownTypeEntry
  | unknownFieldEntry
  | missingArguments
  | missingParentheses
  | missing (beginnings : List Beginning) (atEnd : Bool)
  | missingEntry
  | missingEntrySegment (atEnd : Bool)
  | missingPathSegment (atEnd : Bool)
  | missingExpression (atEnd : Bool)
  | missingDelimiter (atEnd : Bool)
  | missingMember (atEnd : Bool)
  | missingInteger
  | missingLabelled (atEnd : Bool)
  | missingUpperBound (atEnd : Bool)
  | missingRenaming (atEnd : Bool)
  | missingSemicolon
  | missingTrait
  | missingImplementedTrait
  | leftover (bracket : Bracket)
  | reservedName (name : String)
  | literalAsEntry
  | tokenAsEntry
  | attributeAsValue
  | attributeOnRange
  | suffixedInteger
  | largeInteger
  | signedInteger
  | capture
  | conditionalConstant
  | constant
  | binderWithPolarity
  | parametersOfWhere
  | chainedComparison
  | continuedConversion (continuation : Continuation)
  | labelledValue
  | openRange
  | secondReceiver
  | lateReceiver
  | negativeInherent
  deriving DecidableEq

namespace Continuation

/-- How something is called that cannot follow a conversion. -/
def description : Continuation → String
  | await => "`.await`"
  | method => "a method call"
  | field => "a field access"
  | question => "`?`"
  | index => "indexing"
  | call => "a function call"

end Continuation

namespace Rejection

/-- The wording for something that is missing. -/
def expected (what : String) (atEnd : Bool) : String :=
  (if atEnd then "unexpected end of input, " else "") ++ "expected " ++ what

/-- The wording for several things of which each one would do. -/
def expectedAmong (beginnings : List Beginning) (atEnd : Bool) : String :=
  match beginnings with
  | [] => if atEnd then "unexpected end of input" else "unexpected token"
  | [beginning] => expected beginning.description atEnd
  | [first, second] => expected (first.description ++ " or " ++ second.description) atEnd
  | _ => expected ("one of: " ++ ", ".intercalate (beginnings.map (·.description))) atEnd

/-- The wording of a rejection. -/
def message : Rejection → String
  | undescribableType =>
    "Layout derive cannot describe this field type; mark it #[prefab(skip)]"
  | superclassOfEnum => "`extends` is not supported on enums"
  | variantWithFields =>
    "Layout derive only supports enums whose variants are all unit variants"
  | union => "Layout derive is not supported for unions"
  | unknownTypeEntry => "unknown prefab attribute; expected `identity` or `extends`"
  | unknownFieldEntry => "unknown prefab field attribute; expected `skip`"
  | missingArguments => "expected attribute arguments in parentheses: #[prefab(...)]"
  | missingParentheses => "expected parentheses: #[prefab(...)]"
  | missing beginnings atEnd => expectedAmong beginnings atEnd
  | missingEntry => expected "nested attribute" true
  | missingEntrySegment atEnd => expected "ident" atEnd
  | missingPathSegment atEnd => expected "path segment after `::`" atEnd
  | missingExpression atEnd => expected "an expression" atEnd
  | missingDelimiter atEnd => expected "delimiter" atEnd
  | missingMember atEnd => expected "identifier or integer" atEnd
  | missingInteger => expected "integer literal" false
  | missingLabelled atEnd => expected "loop or block expression" atEnd
  | missingUpperBound atEnd => expected "range upper bound" atEnd
  | missingRenaming atEnd => expected "identifier or underscore" atEnd
  | missingSemicolon => "unexpected token, expected `;`"
  | missingTrait => "at least one trait is required for an object type"
  | missingImplementedTrait => "at least one trait must be specified"
  | leftover .round => "unexpected token, expected `)`"
  | leftover .square => "unexpected token, expected `]`"
  | leftover .curly => "unexpected token, expected `\x7d`"
  | leftover .hidden => "unexpected token"
  | reservedName name => "expected identifier, found keyword `" ++ name ++ "`"
  | literalAsEntry => "unexpected literal in nested attribute, expected ident"
  | tokenAsEntry => "unexpected token in nested attribute, expected ident"
  | attributeAsValue => "unexpected attribute inside of attribute"
  | attributeOnRange => "attributes are not allowed on range expressions starting with `..`"
  | suffixedInteger => expected "unsuffixed integer" false
  | largeInteger => "number too large to fit in target type"
  | signedInteger => "invalid digit found in string"
  | capture => "`use<...>` precise capturing syntax is not allowed here"
  | conditionalConstant => "`[const]` is not allowed here"
  | constant => "`const` is not allowed here"
  | binderWithPolarity => "`for<...>` binder not allowed with `?` trait polarity modifier"
  | parametersOfWhere =>
    "generic parameters on `where` clauses are reserved for future use"
  | chainedComparison => "comparison operators cannot be chained"
  | continuedConversion continuation => "casts cannot be followed by " ++ continuation.description
  | labelledValue => "parentheses required"
  | openRange => "range pattern is not allowed unparenthesized inside slice pattern"
  | secondReceiver => "unexpected second method receiver"
  | lateReceiver => "unexpected method receiver"
  | negativeInherent => "inherent impls cannot be negative"

end Rejection

end Exemplar
