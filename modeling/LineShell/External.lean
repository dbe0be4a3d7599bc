import LineShell.Error
import LineShell.Shell

/-! Programs that the shell runs and waits for. -/
namespace LineShell

/-- How a program ended, or that nothing runnable was found. -/
inductive Status
  | exited (code : Nat)
  | notFound
  | signaled (number : Nat)
  deriving DecidableEq, Repr

namespace Status

def notFoundCode : Nat := 127

def code? : Status → Option Nat
  | exited code => some code
  | notFound => some notFoundCode
  | signaled _ => none

def report? (name : String) : Status → Option String
  | exited _ => none
  | notFound => some ("shell: " ++ name ++ ": command not found")
  | signaled number => some ("Process terminated by signal " ++ toString number)

end Status

/-- Whether a refusal is about the program to be run rather than about starting any program. -/
def Fault.isAboutProgram (fault : Fault) : Bool :=
  fault.kind == .notFound || fault.kind == .permissionDenied || fault.kind == .invalidInput ||
    fault == .badFormat || fault == .notDirectory || fault == .tooManyLinks ||
    fault == .nameTooLong || fault == .isDirectory

def Outcome.status : Outcome → Except ProcessError Status
  | .refused fault => if fault.isAboutProgram then .ok .notFound else .error (.spawn fault)
  | .lost fault => .error (.wait fault)
  | .exited code => .ok (.exited code)
  | .signaled number => .ok (.signaled number)

namespace Shell
variable {ω ε σ : Type}

def launch [Host σ] (s : Shell ω ε σ) (argv : List String) :
    Except ProcessError Status × Shell ω ε σ :=
  if argv.isEmpty then (.error (.spawn (.note .invalidInput "empty argument vector")), s)
  else
    let launched : Launched σ := Host.launch s.host s.env argv
    let s := { s with host := launched.host, signals := s.signals ++ launched.signals }
    (launched.outcome.status,
      launched.signals.foldl (fun s n => s.note (.signal n)) (s.note (.launch argv launched.printed)))

/-- Launches a program, waits for its end and reports how it ended. -/
def runProgram [Sink ε] [Host σ] (s : Shell ω ε σ) (argv : List String) :
    Except ProcessError Status × Shell ω ε σ :=
  match s.launch argv with
  | (.error error, s) => (.error error, s)
  | (.ok status, s) =>
    match status.report? (argv.headD "") with
    | none => (.ok status, s)
    | some line => (.ok status, s.complain line)

end Shell
end LineShell
