import LineShell.Machine.Script.Command.Options

/-! The built-in commands that leave loops, functions and the shell. -/
namespace LineShell.Machine
namespace Act

def leaveLoops (skip : Skip) (arguments : List Octets) : Act Nat := do
  let n ← match arguments with
    | [] => pure 1
    | o :: _ => count o
  if n == 0 then badNumber (arguments.headD [])
  let w ← get
  let n := min n w.loops
  if 0 < n then modify ({ · with skip := some skip, skipCount := n })
  return 0

def leaveFunction (arguments : List Octets) : Act Nat := do
  let status ← match arguments with
    | [] => pure (← get).status
    | o :: _ => count o
  modify ({ · with skip := some (.returning !arguments.isEmpty) })
  return status

def leaveShell (arguments : List Octets) : Act Nat := do
  match arguments with
  | [] => stop (.leave true)
  | o :: _ =>
    let n ← count o
    modify ({ · with kept := some n })
    stop (.leave true)

end Act
end LineShell.Machine
