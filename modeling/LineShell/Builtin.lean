import LineShell.Error
import LineShell.LeadingInt
import LineShell.Shell

/-! The commands that the shell carries out itself. -/
namespace LineShell

inductive Builtin
  | exit
  | cd
  | pwd
  | help
  | echo
  | env
  | assign
  | remove
  | history
  deriving DecidableEq, Repr

namespace Builtin

def all : List Builtin := [exit, cd, pwd, help, echo, env, assign, remove, history]

theorem mem_all (b : Builtin) : b ∈ all := by cases b <;> decide

def name : Builtin → String
  | exit => "exit"
  | cd => "cd"
  | pwd => "pwd"
  | help => "help"
  | echo => "echo"
  | env => "env"
  | assign => "export"
  | remove => "unset"
  | history => "history"

def ofName? (name : String) : Option Builtin := all.find? (·.name == name)

theorem ofName?_name (b : Builtin) : ofName? b.name = some b := by cases b <;> decide

theorem name_of_ofName? {b : Builtin} {name : String} (h : ofName? name = some b) :
    b.name = name := by
  simpa using List.find?_some h

/-- The overview that `help` prints, but for the end of its last line. -/
def overview : String := "\n".intercalate
  ["Built-in commands:",
    "  help          - Show this help message",
    "  exit [code]   - Exit the shell with optional exit code",
    "  cd [dir]      - Change directory (no argument goes to home)",
    "  pwd           - Print working directory",
    "  echo [args]   - Display arguments",
    "  env           - Display environment variables",
    "  export VAR=val - Set environment variable",
    "  unset VAR     - Remove environment variable",
    "  history [n]   - Show command history (last n entries)",
    "",
    "All other commands are executed as external programs."]

/-- What stands before the first equals sign and what follows it. -/
def splitAssignment? (text : String) : Option (String × String) :=
  match text.toList.dropWhile (· != '=') with
  | _ :: value => some (String.ofList (text.toList.takeWhile (· != '=')), String.ofList value)
  | [] => none

section Run
variable {ω ε σ : Type}

/-- Says goodbye.  With a status the shell is left at once, without one it stops running. -/
def runExit [Sink ω] (s : Shell ω ε σ) (args : List String) :
    Except CommandError Next × Shell ω ε σ :=
  match s.print "Goodbye!\n" with
  | (some fault, s) => (.error (.write fault), s)
  | (none, s) =>
    match args[1]? with
    | some status => (.ok (.leave (Int32.ofInt (leadingInt status))), s)
    | none => (.ok .proceed, { s with running := false })

/-- Where `cd` goes: to its argument, or else home, or else to the root. -/
def destination (env : Environment) (args : List String) : String :=
  args[1]?.getD ((env.get? "HOME").getD "/")

/-- After a change of directory the shell asks where it is, and keeps its old answer if the system
has none. -/
def runCd [Host σ] (s : Shell ω ε σ) (args : List String) :
    Except CommandError Next × Shell ω ε σ :=
  match Host.changeDir s.host (destination s.env args) with
  | .error fault => (.error (.system "cd" fault), s)
  | .ok host => (.ok .proceed, { s with host, dir := (Host.workingDir host).getD s.dir })

/-- Prints lines; the first refusal is the command's failure. -/
def runListing [Sink ω] (s : Shell ω ε σ) (lines : List String) :
    Except CommandError Next × Shell ω ε σ :=
  match s.printLines lines with
  | (none, s) => (.ok .proceed, s)
  | (some fault, s) => (.error (.write fault), s)

def runAssign (s : Shell ω ε σ) (args : List String) : Except CommandError Next × Shell ω ε σ :=
  match args[1]?.bind splitAssignment? with
  | none => (.error (.usage "export: usage: export VAR=value"), s)
  | some (name, value) =>
    match s.env.assign name value with
    | .error error => (.error (.environment "export" error), s)
    | .ok bound => (.ok .proceed, { s with env := bound })

def runRemove (s : Shell ω ε σ) (args : List String) : Except CommandError Next × Shell ω ε σ :=
  match args[1]? with
  | none => (.error (.usage "unset: usage: unset VAR"), s)
  | some name =>
    match s.env.remove name with
    | .error error => (.error (.environment "unset" error), s)
    | .ok bound => (.ok .proceed, { s with env := bound })

def echoed (args : List String) : String := " ".intercalate (args.drop 1)

def boundLines (env : Environment) : List String := env.bindings.map fun b => b.1 ++ "=" ++ b.2

def historyLines (history : History) (args : List String) : List String :=
  (history.numbered (args[1]?.map leadingInt)).map fun e => toString e.1 ++ " " ++ e.2

/-- Carries out a command.  The first of `args` is the name it was called by. -/
def run [Sink ω] [Host σ] (b : Builtin) (s : Shell ω ε σ) (args : List String) :
    Except CommandError Next × Shell ω ε σ :=
  match b with
  | exit => runExit s args
  | cd => runCd s args
  | pwd => runListing s [s.dir]
  | help => runListing s [overview]
  | echo => runListing s [echoed args]
  | env => runListing s (boundLines s.env)
  | assign => runAssign s args
  | remove => runRemove s args
  | history => runListing s (historyLines s.history args)

end Run
end Builtin
end LineShell
