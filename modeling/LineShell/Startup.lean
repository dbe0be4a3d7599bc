import LineShell.Dispatch
import LineShell.Options
import LineShell.Text.Lines

/-! The startup file: which one it is, and how its lines are carried out. -/
namespace LineShell

/-- `named` holds when the command line names the file; it is then an error if it is missing. -/
structure StartupFile where
  path : String
  named : Bool
  deriving DecidableEq, Repr

def Options.ofArgs (args : List String) : Except ShellError Options :=
  match Options.read {} args with
  | (o, none) => .ok o
  | (_, some arg) => .error (.option (Options.lacksPath arg))

/-- The home directory that the environment names, or else the one that is on record for the user. -/
def homeDir (env : Environment) (onRecord : Option String) : Option String :=
  match env.get? "HOME" with
  | some home => if home.isEmpty then onRecord else some home
  | none => onRecord

namespace StartupFile

def defaultName : String := ".simshrc"

/-- A file in a directory; a slash that ends the directory's path is not doubled. -/
def within (dir name : String) : String :=
  if dir.toList.getLast? = some '/' then dir ++ name else dir ++ "/" ++ name

def atHome (home : Option String) : Except StartupError StartupFile :=
  match home with
  | some home => .ok { path := within home defaultName, named := false }
  | none => .error .noHome

def choose (o : Options) (home : Option String) : Except StartupError (Option StartupFile) :=
  if o.noStartup then .ok none
  else match o.startup with
    | some path => .ok (some { path, named := true })
    | none => (atHome home).map some

end StartupFile

def isComment (line : String) : Bool := (line.toList.dropWhile isBlank).head? == some '#'

namespace Shell
variable {ω ε σ : Type} [Sink ω] [Sink ε] [Host σ]

/-- Carries out lines without recording them, up to one that ends the session. -/
def source (s : Shell ω ε σ) : List String → Next × Shell ω ε σ
  | [] => (.proceed, s)
  | line :: rest =>
    if isComment line || (words line).isEmpty then s.source rest
    else match s.perform (words line) with
      | (.leave status, s) => (.leave status, s)
      | (.proceed, s) => if s.running then s.source rest else (.proceed, s)

def load (s : Shell ω ε σ) (file : StartupFile) : Except StartupError Next × Shell ω ε σ :=
  match Host.readFile s.host file.path with
  | .ok bytes =>
    match ofUtf8? bytes with
    | some text =>
      let (next, s) := s.source (textLines text)
      (.ok next, s)
    | none => (.error (.unreadable .notText), s)
  | .error fault =>
    if fault.kind == .notFound then
      if file.named then (.error (.missing file.path), s) else (.ok .proceed, s)
    else (.error (.unreadable fault), s)

end Shell
end LineShell
