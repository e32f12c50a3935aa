/-!
What can go wrong, as causes: a caller passes an unusable argument, one way of making values
declines a type, or no way of making values for a type is left. The wording of each cause is given
once, here.
-/

set_option autoImplicit false
set_option relaxedAutoImplicit false

namespace Exemplar

/-- Why a text is not a type descriptor. Offsets count the bytes of the text in UTF-8. -/
inductive Flaw
  | missingIdentity
  | unclosedBracket
  | unexpected (letter : Char) (offset : Nat)
  deriving DecidableEq

/-- Why an argument is unusable. -/
inductive Misuse
  | emptyTypeIdentity
  | genericSyntax (identity : String)
  | malformedDescriptor (text : String) (flaw : Flaw)
  | emptyLayoutIdentity
  | emptyFieldName (owner : String)
  | repeatedField (owner field : String)
  | superclassLoop (descriptor identity : String)
  | unknownLayout (identity : String)
  | noConstructor (identity : String)
  | unknownField (descriptor field : String)
  | unknownSlot (descriptor : String) (count slot : Nat)
  | nullExamples (identity : String)
  | equalExamples (identity : String)
  | stated (message : String)
  deriving DecidableEq

/-- Why there are no values for a type. -/
inductive Obstacle
  | tooManyArguments (limit given : Nat)
  | noLayout
  | noFactoryOrLayout
  | interfaceStorage
  | enumStorage
  | noConstants
  | stated (reason : String)
  deriving DecidableEq

/-- A failed request. A factory that declines a type raises `unsupportedType`, which another way of
making values may still recover; the other two are final. -/
inductive Fault
  | invalidArgument (misuse : Misuse)
  | unsupportedType (subject : String) (obstacle : Obstacle)
  | cannotSynthesize (subject : String) (obstacle : Obstacle)
  deriving DecidableEq

/-- The wording of a flaw. -/
def Flaw.message : Flaw → String
  | .missingIdentity => "expected a type identity"
  | .unclosedBracket => "unclosed '<'"
  | .unexpected letter offset => s!"unexpected '{letter}' at offset {offset}"

/-- The wording of a misuse. -/
def Misuse.message : Misuse → String
  | .emptyTypeIdentity => "type identity must not be empty"
  | .genericSyntax identity =>
    s!"type identity '{identity}' contains generic syntax; pass arguments separately"
  | .malformedDescriptor text flaw => s!"malformed type descriptor '{text}': {flaw.message}"
  | .emptyLayoutIdentity => "layout identity must not be empty"
  | .emptyFieldName owner => s!"field of {owner} has an empty name"
  | .repeatedField owner field => s!"{owner} declares field {field} twice"
  | .superclassLoop descriptor identity =>
    s!"superclass chain of {descriptor} loops back to {identity}"
  | .unknownLayout identity => s!"no layout is registered for {identity}"
  | .noConstructor identity => s!"{identity} has no accessible constructor"
  | .unknownField descriptor field => s!"{descriptor} has no field {field}"
  | .unknownSlot descriptor count slot => s!"{descriptor} has {count} field slots, no slot {slot}"
  | .nullExamples identity => s!"prefab values for {identity} must not be null"
  | .equalExamples identity => s!"both values for {identity} are equal"
  | .stated message => message

/-- The wording of an obstacle. -/
def Obstacle.message : Obstacle → String
  | .tooManyArguments limit given => s!"expected at most {limit} type arguments, got {given}"
  | .noLayout => "no layout is registered for this type"
  | .noFactoryOrLayout => "no factory or layout is registered for this type"
  | .interfaceStorage => "interface has no storage layout"
  | .enumStorage => "enum constants cannot be allocated"
  | .noConstants => "enum has no constants"
  | .stated reason => reason

namespace Fault

/-- The wording of a fault. -/
def message : Fault → String
  | invalidArgument misuse => s!"Invalid argument: {misuse.message}"
  | unsupportedType subject obstacle => s!"Unsupported type {subject}: {obstacle.message}"
  | cannotSynthesize subject obstacle =>
    s!"Cannot synthesize a value for {subject}: {obstacle.message}"

/-- The type that a fault is about, where it is about one. -/
def subject? : Fault → Option String
  | invalidArgument _ => none
  | unsupportedType subject _ => some subject
  | cannotSynthesize subject _ => some subject

/-- Whether another way of making values may still succeed. -/
def isUnsupported : Fault → Bool
  | unsupportedType _ _ => true
  | _ => false

/-- The fault once no other way of making values is left: a declined type becomes one without
values, and every other fault stays as it is. -/
def toFatal : Fault → Fault
  | unsupportedType subject obstacle => cannotSynthesize subject obstacle
  | fault => fault

/-- A final fault is never a declined type. -/
theorem isUnsupported_toFatal (fault : Fault) : fault.toFatal.isUnsupported = false := by
  cases fault <;> rfl

theorem toFatal_eq_self_iff (fault : Fault) :
    fault.toFatal = fault ↔ fault.isUnsupported = false := by
  cases fault <;> simp [toFatal, isUnsupported]

end Fault

end Exemplar
