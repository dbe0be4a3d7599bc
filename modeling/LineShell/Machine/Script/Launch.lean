import LineShell.Machine.Script.Command.Names

/-! Processes: what one is given when it begins, the programs it finds, and what is learnt at its end. -/
namespace LineShell.Machine
open Sandbox

/-- What a program is given when it is begun. -/
structure Process where
  kernel : Kernel
  here : Nat
  process : Nat
  parent : Nat
  streams : List (Nat × Nat)
  mask : Nat := 0o22
  ignored : List Nat := []
  entries : List Octets

namespace Act

/-- Tells of a program that a signal ended, unless it is one that is usual. -/
def mourn (exit : Exit) : Act Unit := do
  match exit with
  | .signal number =>
    if number != Signal.interrupt && number != Signal.brokenPipe then
      let _ ← write 2 (((Signal.ofNumber? number).map Signal.report).getD "" ++ "\n").toList
  | .status _ => return

def inProcess (conclude : Except Stop Unit → Act Exit) (body : Act Unit) : Act Exit := fun w =>
  let (kernel, id) := w.kernel.fork
  let child : Work := { w with
    kernel, process := id, parent := w.process, traps := w.traps.filter (·.2.isEmpty),
    arrived := [], jobs := [], waiting := [], kept := none }
  match (attempt body >>= conclude) child with
  | (result, child) =>
    let exit := match result with
      | .ok exit | .error (.finished exit) => exit
      | .error _ => .status troubleStatus
    (do
      receive Signal.childEnded
      receiveAll
      return exit) { w with kernel := child.kernel.reap id }

def scriptShell : Octets := "/bin/sh".toList

def loadAlong (w : Work) (argv : List Octets) : List Octets → Fault →
    Except Fault (Utility × List Octets)
  | [], last => .error last
  | path :: rest, last =>
    let load : Octets → List Octets → Except Fault (Utility × List Octets) :=
      loadProgram w.kernel.tree w.here (exports w) maxInterpreters
    let result : Except Fault (Utility × List Octets) := match load path argv with
      | .error fault =>
        if fault == .badFormat then load scriptShell (scriptShell :: path :: argv.drop 1)
        else .error fault
      | .ok image => .ok image
    match result with
    | .ok image => .ok image
    | .error fault =>
      loadAlong w argv rest (if fault == .noEntry || fault == .notDirectory then last else fault)

def refusalStatus (fault : Fault) : Nat :=
  if fault == .noEntry || fault == .notDirectory || fault == .tooManyLinks || fault == .nameTooLong
    then 127
  else 126

def handedOn (w : Work) : Process :=
  { kernel := w.kernel, here := w.here, process := w.process, parent := w.parent,
    streams := w.streams, mask := w.mask,
    ignored := w.ignored ++ (w.traps.filter (·.2.isEmpty)).map (·.1),
    entries := exports w }

def workOf (p : Process) : Work :=
  { kernel := p.kernel, here := p.here, process := p.process, parent := p.parent,
    shell := p.process, name := "sh".toList, streams := p.streams, mask := p.mask,
    ignored := p.ignored.filter (· != 0) }

end Act
end LineShell.Machine
