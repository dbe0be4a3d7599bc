import LineShell.Machine.Script.Streams
import LineShell.Machine.Script.Command.Directory
import LineShell.Machine.Script.Command.Variables

/-! How a shell begins: with the variables that it is given, and as its arguments ask. -/
namespace LineShell.Machine

/-- What a shell is to do first: carry out the files of a session's beginning, or a text. -/
structure Beginning where
  login : Bool := false
  text : Option Octets := none

namespace Act

/-- The variables of every shell; those that come first may be given. -/
def usualVariables : List (String × Octets) :=
  [("PATH", defaultPath), ("PS1", "# ".toList), ("PS2", "> ".toList), ("PS4", "+ ".toList)]

def fixedVariables (parent : Nat) : List (String × Octets) :=
  [("IFS", blankSeparators), ("OPTIND", ['1']), ("PPID", decimalText parent)]

def takeUp (entries : List Octets) : Act Unit := do
  usualVariables.forM fun v => putVariable { name := v.1.toList, value := some v.2 }
  entries.forM fun entry =>
    match splitSetting entry with
    | (name, some value) => do
      if isName name then putVariable { name, value := some value, exported := true }
    | _ => return
  (fixedVariables (← get).parent).forM fun v => do
    let was ← lookUp? v.1.toList
    putVariable { name := v.1.toList, value := some v.2, exported := (was.map (·.exported)).getD false }
  let w ← get
  let given ← textOf? "PWD"
  let leadsHere (path : Octets) : Bool :=
    path.head? == some '/' && (w.kernel.tree.find w.here path.toText true).toOption == some w.here
  keepDirectory (given.filter leadsHere) false

def readArguments (argv : List Octets) : Act Beginning := do
  let name := argv.headD []
  modify ({ · with name })
  let r ← setOptions true (argv.length + 1) { rest := argv.drop 1 }
  let login := r.login || name.head? == some '-'
  let start (text : Option Octets) (rest : List Octets) : Act Beginning := do
    takeArguments rest
    if ← has 'i' then setOption 'm' true
    mindTerminal
    return { login, text }
  let named (text : Option Octets) (rest : List Octets) : Act Beginning := do
    match rest with
    | [] => start text []
    | name :: rest =>
      modify ({ · with name })
      start text rest
  match r.text, r.rest with
  | true, [] => failText "-c requires an argument"
  | true, text :: rest => do
    modify ({ · with origin := .input })
    named (some text) rest
  | false, [] => do
    setOption 's' true
    modify ({ · with origin := .input })
    start none []
  | false, file :: rest => do
    if ← has 's' then
      modify ({ · with origin := .input })
      start none (file :: rest)
    else
      let id ← openFile .read file
      modify ({ · with origin := .opening id })
      named none (file :: rest)

end Act
end LineShell.Machine
