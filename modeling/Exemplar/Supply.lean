/-!
Reference numbers are taken from one counter, in ascending order, so that two objects made at
different moments have different numbers. An action in `Fresh` may make new references and does
nothing else.
-/

set_option autoImplicit false
set_option relaxedAutoImplicit false

namespace Exemplar

/-- Actions that may take reference numbers from the counter of unused ones. -/
abbrev Fresh := StateM Nat

namespace Fresh

/-- The next unused reference number. -/
def next : Fresh Nat :=
  modifyGet fun unused ↦ (unused, unused + 1)

theorem bind_of_eq {α β : Type} {action : Fresh α} {next : α → Fresh β} {unused later : Nat}
    {made : α} (h : action unused = (made, later)) :
    (action >>= next) unused = next made later := by
  change next (action unused).1 (action unused).2 = _
  rw [h]

end Fresh

end Exemplar
