/-! The interrupt flag: raised at any moment, taken down when it is looked at. -/
namespace LineShell

/-- `hooked` holds once the system's interrupt signal raises the flag. -/
structure Interrupt where
  pending : Bool := false
  hooked : Bool := false
  deriving DecidableEq, Repr

namespace Interrupt

def raise (i : Interrupt) : Interrupt := { i with pending := true }

/-- Whether the flag was raised since it was last taken. -/
def take (i : Interrupt) : Bool × Interrupt := (i.pending, { i with pending := false })

def hook (i : Interrupt) : Interrupt := { i with hooked := true }

/-- The signal arrives; without the hook it is not for this flag. -/
def signal (i : Interrupt) : Interrupt := if i.hooked then i.raise else i

def raiseIf (i : Interrupt) (b : Bool) : Interrupt := if b then i.raise else i

@[simp] theorem take_raise (i : Interrupt) : i.raise.take.1 = true := rfl
@[simp] theorem take_take (i : Interrupt) : i.take.2.take.1 = false := rfl
@[simp] theorem raiseIf_false (i : Interrupt) : i.raiseIf false = i := rfl

end Interrupt
end LineShell
