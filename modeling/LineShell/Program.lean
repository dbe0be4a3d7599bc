import LineShell.ErrorForm
import LineShell.Session

/-! The program: from its arguments and what it finds when it is started to its output and its exit
status. -/
namespace LineShell

/-- How the program ended and what it wrote. -/
structure Report where
  outcome : Outcome := .exited 0
  out : List UInt8 := []
  err : List UInt8 := []
  deriving DecidableEq, Repr

/-- What the program finds when it is started, besides its arguments. -/
structure Setting (σ : Type) where
  env : Environment
  host : σ
  /-- The home directory that is on record for the user. -/
  home : Option String := none
  /-- What the logger writes to the error output when it is set up. -/
  logged : List UInt8 := []
  editor : Except EditorFault Unit := .ok ()
  /-- Whether the interrupt signal can be hooked. -/
  hook : Except String Unit := .ok ()
  /-- What the line editor writes to the output when it asks for a line. -/
  shows : String → List UInt8 := fun _ => []

namespace Program

def versionLine : String := "simsh 0.1.0\n"

def outOf (shows : String → List UInt8) : Event → List UInt8
  | .out bytes => bytes
  | .err _ | .signal _ => []
  | .launch _ printed => printed.out
  | .read prompt => shows prompt

def errOf : Event → List UInt8
  | .err bytes => bytes
  | .launch _ printed => printed.err
  | .out _ | .read _ | .signal _ => []

def exitStatus (status : Int32) : Nat := (status.toInt % 256).toNat

def complaint (error : ShellError) : List UInt8 := utf8 ("Error: " ++ error.form ++ "\n")

def failure (error : ShellError) : Report := { outcome := .exited 1, err := complaint error }

/-- Signals that do not end the program: one is hooked, and one is passed over. -/
def endures (signal : Nat) : Bool :=
  signal == Signal.interrupt || signal == Signal.brokenPipe ||
    ((Signal.ofNumber? signal).map (·.effect)) == some .none

/-- What happens up to a signal that ends the program, and that signal. -/
def upToEnd : List Event → List Event × Option Nat
  | [] => ([], none)
  | .signal n :: rest =>
    if endures n then
      let (events, signal) := upToEnd rest
      (.signal n :: events, signal)
    else ([], some n)
  | event :: rest =>
    let (events, signal) := upToEnd rest
    (event :: events, signal)

def reportOf {ω ε σ : Type} (shows : String → List UInt8) (ended : Ended ω ε σ) : Report :=
  let (events, signal) := upToEnd ended.shell.transcript
  let out := events.flatMap (outOf shows)
  let err := events.flatMap errOf
  match signal, ended.result with
  | some n, _ => { outcome := .signaled n, out, err }
  | none, .ok status => { outcome := .exited (exitStatus status), out, err }
  | none, .error error => { outcome := .exited 1, out, err := err ++ complaint error }

variable {σ : Type}

def hooked (p : Setting σ) : Except ShellError Interrupt :=
  match p.editor, p.hook with
  | .error fault, _ => .error (.editor fault)
  | .ok (), .error reason => .error (.process (.signal reason))
  | .ok (), .ok () => .ok (Interrupt.hook {})

/-- The startup file that the options ask for.  Without a home directory there is none. -/
def startupOf (o : Options) (p : Setting σ) : Option StartupFile :=
  ((StartupFile.choose o (homeDir p.env p.home)).toOption).getD none

variable [Host σ]

abbrev opening (p : Setting σ) : Shell Limited Limited σ := Shell.start p.env {} {} p.host

/-- A way for a session to go on that has come to its first line. -/
abbrev Course (σ : Type) :=
  Bool → Shell Limited Limited σ → Interrupt → Ended Limited Limited σ

def endOf (course : Course σ) (o : Options) (p : Setting σ) (i : Interrupt) :
    Ended Limited Limited σ :=
  match Session.start o.quiet (startupOf o p) (opening p) i with
  | .finished ended => ended
  | .ready s i => course o.quiet s i

def session (course : Course σ) (o : Options) (p : Setting σ) : Report :=
  let report := match hooked p with
    | .error error => failure error
    | .ok i => reportOf p.shows (endOf course o p i)
  { report with err := p.logged ++ report.err }

/-- The program, whichever way its sessions go on.  Options that are misread end it, then those that
only ask for a text are heeded. -/
def runBy (course : Course σ) (args : List String) (p : Setting σ) : Report :=
  match Options.ofArgs args with
  | .error error => failure error
  | .ok o =>
    if o.help then { out := utf8 Options.usage }
    else if o.version then { out := utf8 versionLine }
    else session course o p

/-- The program, when this is what its line editor comes back with. -/
def run (readings : List Reading) (args : List String) (p : Setting σ) : Report :=
  runBy (fun quiet => Session.talk quiet readings) args p

end Program
end LineShell
