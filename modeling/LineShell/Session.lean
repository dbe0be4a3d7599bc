import LineShell.Interrupt
import LineShell.Signal
import LineShell.Startup

/-! A session: the startup file, then line after line until one ends it or the input does. -/
namespace LineShell

inductive Reply
  | line (text : String)
  | interrupted
  | endOfInput
  | failed (error : ShellError)
  deriving DecidableEq, Repr

structure Reading where
  reply : Reply
  raises : Bool := false
  deriving DecidableEq, Repr

/-- A session that is over, with its status or the trouble that broke it off. -/
structure Ended (ω ε σ : Type) where
  shell : Shell ω ε σ
  interrupt : Interrupt
  result : Except ShellError Int32

namespace Session

def banner : String := "Simple shell - Type 'help' for commands, 'exit' to quit"

def interruptHint : String := "Use 'exit' to quit"

variable {ω ε σ : Type} [Sink ω] [Sink ε] [Host σ]

def leave (s : Shell ω ε σ) (i : Interrupt) (status : Int32) : Ended ω ε σ :=
  match s.flush with
  | (none, s) => ⟨s, i, .ok status⟩
  | (some fault, s) => ⟨s, i, .error (.io fault)⟩

def endOfInput (s : Shell ω ε σ) (i : Interrupt) : Ended ω ε σ :=
  match s.print "\n" with
  | (none, s) => leave s i 0
  | (some fault, s) => ⟨s, i, .error (.io fault)⟩

/-- What stands between one reading and the next: a pending interrupt is taken and the prompt moves
to a fresh line, the output is flushed, and a line is asked for. -/
def ask (s : Shell ω ε σ) (i : Interrupt) : Option Fault × Shell ω ε σ × Interrupt :=
  let (raised, i) := i.take
  match if raised then s.print "\n" else (none, s) with
  | (some fault, s) => (some fault, s, i)
  | (none, s) =>
    match s.flush with
    | (some fault, s) => (some fault, s, i)
    | (none, s) => (none, s.note (.read s.prompt), i)

/-- Where a session has come to: it is over, or the next line is yet to come. -/
inductive Stage (ω ε σ : Type)
  | finished (ended : Ended ω ε σ)
  | ready (shell : Shell ω ε σ) (interrupt : Interrupt)

/-- Heeds the signals that programs have sent. -/
def heed (s : Shell ω ε σ) (i : Interrupt) : Shell ω ε σ × Interrupt :=
  ({ s with signals := [] }, if s.signals.contains Signal.interrupt then i.signal else i)

def converse (quiet : Bool) : List Reading → Shell ω ε σ → Interrupt → Stage ω ε σ
  | [], s, i => .ready s i
  | reading :: rest, s, i =>
    if s.running then
      match ask s i with
      | (some fault, s, i) => .finished ⟨s, i, .error (.io fault)⟩
      | (none, s, i) =>
        let i := i.raiseIf reading.raises
        match reading.reply with
        | .line text =>
          match s.typed text with
          | (.leave status, s) => .finished (leave s i status)
          | (.proceed, s) =>
            let (s, i) := heed s i
            converse quiet rest s i
        | .interrupted =>
          match if quiet then (none, s) else s.print (interruptHint ++ "\n") with
          | (none, s) => converse quiet rest s i
          | (some fault, s) => .finished ⟨s, i, .error (.io fault)⟩
        | .endOfInput => .finished (endOfInput s i)
        | .failed error => .finished ⟨s, i, .error error⟩
    else .finished (leave s i 0)

def close (s : Shell ω ε σ) (i : Interrupt) : Ended ω ε σ :=
  if s.running then
    match ask s i with
    | (some fault, s, i) => ⟨s, i, .error (.io fault)⟩
    | (none, s, i) => endOfInput s i
  else leave s i 0

/-- Reads and carries out line after line.  When the readings run out the input has ended. -/
def talk (quiet : Bool) (readings : List Reading) (s : Shell ω ε σ) (i : Interrupt) :
    Ended ω ε σ :=
  match converse quiet readings s i with
  | .finished ended => ended
  | .ready s i => close s i

/-- Loads the startup file, if there is one.  Trouble with it is shown unless the session is quiet,
and the session goes on. -/
def startUp (quiet : Bool) (s : Shell ω ε σ) : Option StartupFile → Next × Shell ω ε σ
  | none => (.proceed, s)
  | some file =>
    match s.load file with
    | (.ok next, s) => (next, s)
    | (.error error, s) =>
      (.proceed, if quiet then s else s.complain ("shell: " ++ error.message))

def start (quiet : Bool) (file : Option StartupFile) (s : Shell ω ε σ) (i : Interrupt) :
    Stage ω ε σ :=
  match if quiet then (none, s) else s.print (banner ++ "\n") with
  | (some fault, s) => .finished ⟨s, i, .error (.io fault)⟩
  | (none, s) =>
    match startUp quiet s file with
    | (.leave status, s) =>
      let (s, i) := heed s i
      .finished ⟨s, i, .ok status⟩
    | (.proceed, s) =>
      let (s, i) := heed s i
      .ready s i

def run (quiet : Bool) (file : Option StartupFile) (readings : List Reading) (s : Shell ω ε σ)
    (i : Interrupt) : Ended ω ε σ :=
  match start quiet file s i with
  | .finished ended => ended
  | .ready s i => talk quiet readings s i

end Session
end LineShell
