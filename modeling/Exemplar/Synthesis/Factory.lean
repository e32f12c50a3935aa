import Exemplar.Synthesis.Resolution

/-!
A factory makes the three values of a type from those of the types it is made of. It may give fixed
values, wrap the values of one argument into a container, pair those of two arguments in a map,
convert the values of another type with the same arguments, or call a constructor with the values of
one or two arguments.
-/

set_option autoImplicit false
set_option relaxedAutoImplicit false

namespace Exemplar

/-- A constructor of a type with one or two type arguments. -/
inductive GenericConstructor
  | unary (build : Value → Fresh Value)
  | binary (build : Value → Value → Fresh Value)

/-- The number of type arguments of a constructor. -/
def GenericConstructor.arity : GenericConstructor → Nat
  | unary _ => 1
  | binary _ => 2

/-- A way of making the values of a type. -/
inductive Factory
  | constant (triple : Triple)
  | collection (build : Descriptor → List Value → Fresh Value)
  | copy (underlying : String) (convert : Value → Fresh Value)
  | map
  | generic (constructor : GenericConstructor)

namespace Factory

/-- Fixed values, where the red copy is a duplicate of red. -/
def examples (red black : Value) : Fresh Factory := do
  let redCopy ← red.duplicate
  return constant ⟨red, black, redCopy⟩

/-- Containers of one element that are compared in order or not, named after their type. -/
def container (ordered : Bool) : Factory :=
  collection fun d elements ↦ (Object.collection d.identity ordered elements).alloc

/-- The name of the way a factory works. -/
def kind : Factory → String
  | constant _ => "constant"
  | collection _ => "collection"
  | copy _ _ => "copy"
  | map => "map"
  | generic _ => "generic"

/-- A type with more arguments than a factory understands is declined. -/
def checkArity (d : Descriptor) (limit : Nat) : Resolution Unit :=
  if limit < d.arguments.length then
    throw (.fault (.unsupportedType d.display (.tooManyArguments limit d.arguments.length)))
  else pure ()

/-- Red, black and red copy, each made anew, where the red copy is made as red was. -/
def threeOf (red black : Fresh Value) : Resolution Triple :=
  Resolution.ofFresh do
    let first ← red
    let second ← black
    let third ← red
    return ⟨first, second, third⟩

/-- Containers of the element type's colors. -/
def wrapArgument (request : Request) (build : Descriptor → List Value → Fresh Value)
    (d : Descriptor) : Resolution Triple := do
  checkArity d 1
  let element ← request (d.argumentOrObject 0)
  threeOf (build d [element.triple.red]) (build d [element.triple.black])

/-- Maps with one entry. The value is black in each of them, so that in red it has not the color of
its key. Black has no entry if the type of keys has only one value, since it would equal red. -/
def pairArguments (request : Request) (d : Descriptor) : Resolution Triple := do
  checkArity d 2
  let keys ← request (d.argumentOrObject 0)
  let values ← request (d.argumentOrObject 1)
  let red := keys.triple.red
  let black := keys.triple.black
  let value := values.triple.black
  let blackEntries := if red.equal black then [] else [(black, value)]
  threeOf (Object.map d.identity [(red, value)]).alloc (Object.map d.identity blackEntries).alloc

/-- The colors of another type with the same arguments, converted one by one. -/
def convertUnderlying (request : Request) (underlying : String) (convert : Value → Fresh Value)
    (d : Descriptor) : Resolution Triple := do
  let source ← Resolution.ofExcept (d.rename underlying)
  let shared ← request source
  Resolution.ofFresh (shared.triple.map convert)

/-- The constructor called with the colors of all type arguments, one color at a time. -/
def callConstructor (request : Request) (constructor : GenericConstructor) (d : Descriptor) :
    Resolution Triple := do
  checkArity d constructor.arity
  match constructor with
  | .unary build =>
    let first ← request (d.argumentOrObject 0)
    threeOf (build first.triple.red) (build first.triple.black)
  | .binary build =>
    let first ← request (d.argumentOrObject 0)
    let second ← request (d.argumentOrObject 1)
    threeOf (build first.triple.red second.triple.red)
      (build first.triple.black second.triple.black)

/-- The values that a factory makes for a type. -/
def create (request : Request) (factory : Factory) (d : Descriptor) : Resolution Triple :=
  match factory with
  | constant triple => pure triple
  | collection build => wrapArgument request build d
  | copy underlying convert => convertUnderlying request underlying convert d
  | map => pairArguments request d
  | generic constructor => callConstructor request constructor d

end Factory

end Exemplar
