/-! The options of the command line.  A scan from left to right sets switches and the path of a
startup file, and passes over every argument it does not know. -/
namespace LineShell

inductive Switch
  | help
  | version
  | noStartup
  | quiet
  | debug
  deriving DecidableEq, Repr

namespace Switch

def all : List Switch := [help, version, noStartup, quiet, debug]

theorem mem_all (w : Switch) : w ∈ all := by cases w <;> decide

def spellings : Switch → String × String
  | help => ("-h", "--help")
  | version => ("-v", "--version")
  | noStartup => ("-n", "--norc")
  | quiet => ("-q", "--quiet")
  | debug => ("-d", "--debug")

def ofSpelling? (arg : String) : Option Switch :=
  all.find? fun w => arg == w.spellings.1 || arg == w.spellings.2

end Switch

/-- Whether an argument asks for the path of a startup file, which is the argument after it. -/
def asksForPath (arg : String) : Bool := arg == "-c" || arg == "--config"

structure Options where
  help : Bool := false
  version : Bool := false
  noStartup : Bool := false
  quiet : Bool := false
  debug : Bool := false
  startup : Option String := none
  deriving DecidableEq, Repr

namespace Options

def isSet (o : Options) : Switch → Bool
  | .help => o.help
  | .version => o.version
  | .noStartup => o.noStartup
  | .quiet => o.quiet
  | .debug => o.debug

def set (o : Options) : Switch → Options
  | .help => { o with help := true }
  | .version => { o with version := true }
  | .noStartup => { o with noStartup := true }
  | .quiet => { o with quiet := true }
  | .debug => { o with debug := true }

@[simp] theorem isSet_set (o : Options) (v w : Switch) :
    (o.set v).isSet w = (decide (v = w) || o.isSet w) := by
  cases v <;> cases w <;> simp [set, isSet]

@[simp] theorem startup_set (o : Options) (w : Switch) : (o.set w).startup = o.startup := by
  cases w <;> rfl

/-- Reads arguments into the options.  Comes back with the argument that asks for a path and is the
last, if there is one; what was read before it stays. -/
def read (o : Options) : List String → Options × Option String
  | [] => (o, none)
  | arg :: rest =>
    if asksForPath arg then
      match rest with
      | [] => (o, some arg)
      | path :: rest => read { o with startup := some path } rest
    else match Switch.ofSpelling? arg with
      | some w => read (o.set w) rest
      | none => read o rest

def lacksPath (arg : String) : String := "Flag " ++ arg ++ " requires a value"

/-- A text with spaces after it up to a width. -/
def padded (width : Nat) (text : String) : String :=
  text ++ String.ofList (List.replicate (width - text.length) ' ')

def usageLine (short long description : String) : String :=
  "  " ++ short ++ ", " ++ padded 17 long ++ " " ++ description ++ "\n"

/-- The help text, with the options in the order of their names. -/
def usage : String :=
  "Usage: simsh [OPTIONS]\n\nOptions:\n" ++
    usageLine "-c" "--config <path>" "Run this startup file instead of ~/.simshrc" ++
    usageLine "-d" "--debug" "Enable debug logging" ++
    usageLine "-h" "--help" "Print this help message" ++
    usageLine "-n" "--norc" "Skip the startup file" ++
    usageLine "-q" "--quiet" "Suppress banner and hints" ++
    usageLine "-v" "--version" "Show version information"

end Options
end LineShell
