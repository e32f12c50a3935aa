import Exemplar.Supply
import Exemplar.Table
import Exemplar.Value.Triple

/-!
A run of the resolver. It reads and extends a memory of the triples found so far, takes new
references from the supply, and ends with an answer or a failure. What was remembered before a
failure stays remembered.
-/

set_option autoImplicit false
set_option relaxedAutoImplicit false

namespace Exemplar

/-- Why a run ended without an answer: a fault, or requests nested deeper than allowed. -/
inductive Failure
  | fault (fault : Fault)
  | tooDeep
  deriving DecidableEq

/-- What a resolver remembers: the triples of the resolved types, and the placeholders of types that
were requested again while they were being resolved. -/
structure Memory where
  cache : Table Descriptor SharedTriple
  hollows : Table Descriptor SharedTriple

/-- The memory of a resolver that has not resolved anything. -/
def Memory.empty : Memory :=
  ⟨Table.empty, Table.empty⟩

/-- The state of a run: the memory, and the next unused reference number. -/
structure Progress where
  memory : Memory
  unused : Nat

/-- Runs that answer with an `α`. -/
abbrev Resolution := EStateM Failure Progress

/-- How a type is requested by what makes the values of another type. -/
abbrev Request := Descriptor → Resolution SharedTriple

namespace Resolution

variable {α : Type}

/-- A run that only makes new references. -/
def ofFresh (action : Fresh α) : Resolution α := fun progress ↦
  let (answer, unused) := action.run progress.unused
  .ok answer ⟨progress.memory, unused⟩

/-- A run that ends at once. -/
def ofExcept : Except Fault α → Resolution α
  | .ok answer => pure answer
  | .error fault => throw (.fault fault)

/-- The memory at this moment of a run. -/
def memory : Resolution Memory :=
  return (← get).memory

/-- Changes the memory. -/
def modifyMemory (change : Memory → Memory) : Resolution Unit :=
  modify fun progress ↦ ⟨change progress.memory, progress.unused⟩

/-- The first run, or the second one after it if the first one met a declined type. Any other
failure of the first run stands. -/
def orIfUnsupported (first second : Resolution α) : Resolution α := fun progress ↦
  match first progress with
  | .error (.fault fault) reached =>
    if fault.isUnsupported then second reached else .error (.fault fault) reached
  | result => result

/-- The run with its faults made final. -/
def fatal (run : Resolution α) : Resolution α := fun progress ↦
  match run progress with
  | .error (.fault fault) reached => .error (.fault fault.toFatal) reached
  | result => result

end Resolution

end Exemplar
