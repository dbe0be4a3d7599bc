import LineShell.Builtin
import LineShell.External
import LineShell.Words

/-! From words to a command, and from a typed line to its words. -/
namespace LineShell.Shell
variable {ω ε σ : Type} [Sink ω] [Sink ε] [Host σ]

def perform (s : Shell ω ε σ) (argv : List String) : Next × Shell ω ε σ :=
  match argv with
  | [] => (.proceed, s)
  | name :: _ =>
    match Builtin.ofName? name with
    | some b =>
      match b.run s argv with
      | (.ok next, s) => (next, s)
      | (.error error, s) => (.proceed, s.complain error.message)
    | none =>
      match s.runProgram argv with
      | (.ok _, s) => (.proceed, s)
      | (.error error, s) => (.proceed, s.complain (CommandError.process error).message)

def remember (s : Shell ω ε σ) (line : String) : Shell ω ε σ :=
  { s with history := s.history.record line }

/-- Records a typed line as it stands, then carries it out.  A line without words leaves no
trace. -/
def typed (s : Shell ω ε σ) (line : String) : Next × Shell ω ε σ :=
  if (words line).isEmpty then (.proceed, s)
  else (s.remember line).perform (words line)

end LineShell.Shell
