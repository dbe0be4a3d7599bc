import LineShell.Environment
import LineShell.History
import LineShell.Host
import LineShell.Sink
import LineShell.Text.Utf8

/-! The state of a shell, its two output streams, and the record of what the outside has seen. -/
namespace LineShell

/-- What the outside sees of a shell, as it happens: bytes accepted by the output and by the error
stream, programs that are launched and what they print, signals that reach the shell, and lines that are
asked for. -/
inductive Event
  | out (bytes : List UInt8)
  | err (bytes : List UInt8)
  | launch (argv : List String) (printed : Printed)
  | signal (number : Nat)
  | read (prompt : String)
  deriving DecidableEq, Repr

/-- What commands go by: the working directory as the shell remembers it, whether the session goes
on, the log, the environment, and the system. -/
structure State (σ : Type) where
  dir : String
  running : Bool := true
  history : History := {}
  env : Environment := {}
  host : σ

/-- A shell with its streams and the signals it has still to heed.  `ω` and `ε` are the types of the
output and of the error stream, and `σ` is that of the system. -/
structure Shell (ω ε σ : Type) extends State σ where
  out : ω
  err : ε
  signals : List Nat := []
  transcript : List Event := []

/-- What is to happen after a command. -/
inductive Next
  | proceed
  | leave (status : Int32)
  deriving DecidableEq, Repr

/-- What follows the last slash; a directory whose only slash comes first, or that has none, is
shown whole. -/
def shortDir (dir : String) : String :=
  let final := (dir.toList.reverse.takeWhile (· != '/')).reverse
  if final.length + 1 < dir.toList.length then String.ofList final else dir

namespace Shell
variable {ω ε σ : Type}

def prompt (s : Shell ω ε σ) : String := "[shell:" ++ shortDir s.dir ++ "]$ "

def note (s : Shell ω ε σ) (event : Event) : Shell ω ε σ :=
  { s with transcript := s.transcript ++ [event] }

def print [Sink ω] (s : Shell ω ε σ) (text : String) : Option Fault × Shell ω ε σ :=
  let bytes := utf8 text
  let offer := Sink.offer s.out bytes
  (offer.fault?, { s with out := offer.sink }.note (.out (offer.taken bytes)))

/-- Prints lines one after the other, up to the first that is refused. -/
def printLines [Sink ω] (s : Shell ω ε σ) : List String → Option Fault × Shell ω ε σ
  | [] => (none, s)
  | line :: rest =>
    match s.print (line ++ "\n") with
    | (none, s) => s.printLines rest
    | (some fault, s) => (some fault, s)

@[simp] theorem toState_note (s : Shell ω ε σ) (event : Event) :
    (s.note event).toState = s.toState := rfl

@[simp] theorem toState_print [Sink ω] (s : Shell ω ε σ) (text : String) :
    (s.print text).2.toState = s.toState := rfl

@[simp] theorem toState_printLines [Sink ω] (s : Shell ω ε σ) (lines : List String) :
    (s.printLines lines).2.toState = s.toState := by
  induction lines generalizing s with
  | nil => rfl
  | cons line rest ih =>
    simp only [printLines]
    split
    · next t h => rw [ih, ← toState_print s (line ++ "\n"), h]
    · next fault t h => rw [← toState_print s (line ++ "\n"), h]

def flush [Sink ω] (s : Shell ω ε σ) : Option Fault × Shell ω ε σ :=
  let (out, fault) := Sink.flush s.out
  (fault, { s with out })

def complain [Sink ε] (s : Shell ω ε σ) (line : String) : Shell ω ε σ :=
  let bytes := utf8 (line ++ "\n")
  let offer := Sink.offer s.err bytes
  { s with err := offer.sink }.note (.err (offer.taken bytes))

@[simp] theorem toState_flush [Sink ω] (s : Shell ω ε σ) :
    s.flush.2.toState = s.toState := rfl

@[simp] theorem toState_complain [Sink ε] (s : Shell ω ε σ) (line : String) :
    (s.complain line).toState = s.toState := rfl

/-- A shell as it starts, in the system's working directory, or in `/` when that is unknown. -/
def start [Host σ] (env : Environment) (out : ω) (err : ε) (host : σ) : Shell ω ε σ :=
  { dir := (Host.workingDir host).getD "/", env, out, err, host }

end Shell
end LineShell
