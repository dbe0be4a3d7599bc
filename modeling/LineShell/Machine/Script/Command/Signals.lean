import LineShell.Machine.Script.Command.Options

/-! The built-in commands about signals: `trap` and `kill`. -/
namespace LineShell.Machine
namespace Act

/-- The number of a signal that a text names by its number or its name. -/
def signalNumber? (o : Octets) (lowest : Nat) : Option Nat :=
  if !o.isEmpty && o.all Char.isDigit then
    let n := worth 10 o
    if n ≤ Signal.lastFree then some n else none
  else (Signal.numberOf? (String.ofList o)).filter fun n => lowest ≤ n

def byNumber? (o : Octets) : Option Nat :=
  if !o.isEmpty && o.all Char.isDigit then signalNumber? o 0 else none

def signalName (n : Nat) : String :=
  if n == 0 then "EXIT" else ((Signal.ofNumber? n).map (·.name)).getD (toString n)

def setTrap (signal : Nat) (action : Option Octets) : Act Unit :=
  modify fun w =>
    let others := w.traps.filter (·.1 != signal)
    { w with traps := match action with
        | some o => (others ++ [(signal, o)]).mergeSort fun a b => a.1 ≤ b.1
        | none => others }

/-- Sets traps for signals in turn, up to a name that is none. -/
def setTraps (action : Option Octets) : List Octets → Act Nat
  | [] => return 0
  | o :: rest =>
    match signalNumber? o 0 with
    | none => do
      let _ ← write 2 ("trap: ".toList ++ o ++ ": bad trap\n".toList)
      return 1
    | some signal => do
      let action := if action == some ['-'] then none else action
      setTrap signal action
      setTraps action rest

def trap (arguments : List Octets) : Act Nat := do
  match ← noOptions arguments with
  | [] =>
    (← get).traps.forM fun t =>
      say ("trap -- ".toList ++ singleQuoted t.2 ++ ' ' :: (signalName t.1).toList ++ ['\n'])
    return 0
  | [only] => setTraps none [only]
  | first :: rest =>
    if (byNumber? first).isSome then setTraps none (first :: rest) else setTraps (some first) rest

def killUsage : String :=
  "Usage: kill [-s sigspec | -signum | -sigspec] [pid | job]... or\nkill -l [exitstatus]"

/-- Sends a signal to a process, and comes back with whether there is one. -/
def sendTo (signal : Nat) (process : Int) : Act Bool := do
  let w ← get
  let targets := w.kernel.processes.filter fun (id : Nat) => process == 0 || (id : Int) == process
  if targets.isEmpty then return false
  if signal == 0 then return true
  (targets.filter (· != w.process)).forM fun id =>
    modify fun w => { w with kernel := w.kernel.send id signal }
  if targets.contains w.process then receive signal
  return true

def sendToAll (signal : Nat) : List Octets → Nat → Act Nat
  | [], status => return status
  | o :: rest, status => do
    let process ← match o with
      | '%' :: _ => fail ("No such job: ".toList ++ o)
      | '-' :: group => do pure (-(← count group : Int))
      | o => do pure ((← count o : Nat) : Int)
    if ← sendTo signal process then sendToAll signal rest status
    else
      warn "No such process\n".toList
      sendToAll signal rest 1

def listSignals (arguments : List Octets) : Act Nat := do
  match arguments with
  | [] =>
    sayText "0\n"
    (List.range Signal.lastFree).forM fun n => sayText (signalName (n + 1) ++ "\n")
    return 0
  | o :: _ =>
    let n ← count o
    let n := if 128 < n then n - 128 else n
    if 0 < n && n ≤ Signal.lastFree then sayText (signalName n ++ "\n")
    else fail ("invalid signal number or exit status: ".toList ++ o)
    return 0

def kill (arguments : List Octets) : Act Nat := do
  let usage : Act Nat := failText killUsage
  match arguments with
  | [] => usage
  | first :: rest =>
    let direct := match first with
      | '-' :: o => signalNumber? o 1
      | _ => none
    match direct with
    | some signal => if rest.isEmpty then usage else sendToAll signal rest 0
    | none =>
      let g ← options "l" "s" arguments
      let signal ← match g.argument? 's' with
        | none => pure none
        | some o =>
          match signalNumber? o 1 with
          | some n => pure (some n)
          | none => fail ("invalid signal number or name: ".toList ++ o)
      if g.has 'l' then
        if signal.isSome then usage else listSignals g.rest
      else if g.rest.isEmpty then usage
      else sendToAll (signal.getD Signal.terminate) g.rest 0

end Act
end LineShell.Machine
