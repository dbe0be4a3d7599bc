import LineShell.Environment
import LineShell.Fault

/-! Everything that can go wrong, by cause, with the text that is shown for it. -/
namespace LineShell

/-- Trouble with a program: the system would not start it, its end could not be learnt, or the hook
for interrupts could not be set. -/
inductive ProcessError
  | spawn (fault : Fault)
  | wait (fault : Fault)
  | signal (reason : String)
  deriving DecidableEq, Repr

namespace ProcessError

def message : ProcessError → String
  | .spawn fault => "spawn: " ++ fault.message
  | .wait fault => "waitpid: " ++ fault.message
  | .signal reason => "signal: " ++ reason

def cause? : ProcessError → Option Fault
  | .spawn fault | .wait fault => some fault
  | .signal _ => none

end ProcessError

/-- Trouble with a command: it was called wrongly, the system or the environment refused what it
asked for, its output was refused, or it is about a program. -/
inductive CommandError
  | usage (text : String)
  | system (command : String) (fault : Fault)
  | environment (command : String) (error : EnvError)
  | write (fault : Fault)
  | process (error : ProcessError)
  deriving DecidableEq, Repr

def CommandError.message : CommandError → String
  | .usage text => text
  | .system command fault => command ++ ": " ++ fault.message
  | .environment command error => command ++ ": " ++ error.message
  | .write fault => "write error: " ++ fault.message
  | .process error => "shell: " ++ error.message

/-- Trouble with the startup file. -/
inductive StartupError
  | noHome
  | missing (path : String)
  | unreadable (fault : Fault)
  deriving DecidableEq, Repr

def StartupError.message : StartupError → String
  | .noHome => "Home directory not found"
  | .missing path => "Config file not found: " ++ path
  | .unreadable fault => "IO error: " ++ fault.message

/-- Why the line editor has no line to give. -/
inductive EditorFault
  | endOfInput
  | interrupted
  | resized
  | system (fault : Fault)
  deriving DecidableEq, Repr

def EditorFault.message : EditorFault → String
  | .endOfInput => "EOF"
  | .interrupted => "Interrupted"
  | .resized => "WindowResized"
  | .system fault => fault.message

inductive ShellError
  | editor (fault : EditorFault)
  | io (fault : Fault)
  | command (error : CommandError)
  | process (error : ProcessError)
  | startup (error : StartupError)
  | option (reason : String)
  deriving DecidableEq, Repr

def ShellError.message : ShellError → String
  | .editor fault => "Readline error: " ++ fault.message
  | .io fault => "IO error: " ++ fault.message
  | .command error => error.message
  | .process error => "Process error: " ++ error.message
  | .startup error => "Config error: " ++ error.message
  | .option reason => "Flag error: " ++ reason

end LineShell
