import LineShell.Machine.Script.Command.Options
import LineShell.Machine.Script.Reader

/-! What the name of a command stands for, and the built-in commands that tell or change it. -/
namespace LineShell.Machine
open Sandbox

def plainCommands : List String :=
  ["[", "alias", "bg", "cd", "chdir", "command", "echo", "false", "fg", "getopts", "hash", "jobs",
    "kill", "printf", "pwd", "read", "test", "true", "type", "ulimit", "umask", "unalias",
    "wait"]

def isSpecialCommand (name : Octets) : Bool := specialCommands.any (·.toList == name)

def isBuiltin (name : Octets) : Bool :=
  (specialCommands ++ plainCommands).any (·.toList == name)

def takesSettings (name : Octets) : Bool :=
  ["alias", "export", "local", "readonly"].any (·.toList == name)

/-- What the name of a command stands for. -/
inductive Meaning
  | builtin
  | function (body : Option Script)
  /-- A program by its path, or in one of the directories where programs are looked for. -/
  | program (place : Option Nat)
  | unknown

namespace Act

/-- Looks for a program in directories; what is there may be no file that can be run. -/
def placeOf (path name : Octets) : Act (Except Fault Nat) := do
  let w ← get
  let step := fun (acc : Except Fault Nat) (d : Octets × Nat) =>
    match acc with
    | .ok n => .ok n
    | .error last =>
      match w.kernel.tree.find w.here (inDirectory d.1 name).toText true with
      | .error fault =>
        .error (if fault == .noEntry || fault == .notDirectory then last else fault)
      | .ok id =>
        match w.kernel.tree.node? id with
        | some (.utility _) => .ok d.2
        | some (.file _ mode) => if allows mode .run then .ok d.2 else .error .accessDenied
        | _ => .error .accessDenied
  return (searchList path).zipIdx.foldl step (.error .noEntry)

def faultText (fault : Fault) (missing : String) : String :=
  if fault == .noEntry || fault == .notDirectory then missing
  else match fault with
    | .os code => Fault.describe code
    | .note _ text => text

def warnUnknown (name : Octets) (fault : Fault) : Act Unit :=
  warn (name ++ ": ".toList ++ (faultText fault "not found").toList)

/-- Finds out what a name stands for.  `absolute` holds if a path must lead to something. -/
def meaningOf (name path : Octets) (functions absolute complains : Bool) : Act Meaning := do
  let w ← get
  if name.contains '/' then
    if absolute && (w.kernel.tree.find w.here name.toText true).toOption.isNone then return .unknown
    else return .program none
  else match if functions then w.functions.lookup name else none with
    | some f => return .function f
    | none =>
      if isBuiltin name then return .builtin
      else
        let usual := path == (← pathList)
        match if usual then w.found.find? (fun f => f.name == name && !f.stale) else none with
        | some f => return .program (some f.place)
        | none =>
          match ← placeOf path name with
          | .ok place =>
            if usual then
              modify fun w => { w with
                found := if w.found.any (·.name == name)
                  then w.found.map fun f => if f.name == name then { name, place } else f
                  else w.found ++ [{ name, place }] }
            return .program (some place)
          | .error fault =>
            if usual then
              modify fun w => { w with found := w.found.filter (·.name != name) }
            if complains then warnUnknown name fault
            return .unknown

def tableOrder (size : Nat) (name : Octets) : Nat :=
  let sum := name.foldl (fun n c => n + c.toNat) ((name.headD (Char.ofNat 0)).toNat * 16)
  (sum % 32768) % size

def hash (arguments : List Octets) : Act Nat := do
  let g ← options "r" "" arguments
  if g.has 'r' then
    modify ({ · with found := [] })
    return 0
  else if g.rest.isEmpty then
    let w ← get
    let list := (← pathList)
    let sorted := w.found.mergeSort fun a b => tableOrder 31 a.name ≤ tableOrder 31 b.name
    sorted.forM fun f =>
      say (inDirectory ((searchList list).getD f.place []) f.name ++
        (if f.stale then ['*'] else []) ++ ['\n'])
    return 0
  else
    g.rest.foldlM (fun status name => do
      modify fun w => { w with found := w.found.filter (·.name != name) }
      match ← meaningOf name (← pathList) true false true with
      | .unknown => return 1
      | _ => return status) 0

def aliasText (a : Octets × Octets) : Octets := a.1 ++ '=' :: singleQuoted a.2 ++ ['\n']

/-- Tells what a name stands for, in so many words or in a form that can be read back. -/
def describe (name : Octets) (path : Option Octets) (verbose : Bool) : Act Nat := do
  let tell (text : String) (short : Octets) : Act Nat := do
    if verbose then say (name ++ text.toList ++ ['\n']) else say (short ++ ['\n'])
    return 0
  let w ← get
  if Token.keywords.any (·.toList == name) then tell " is a shell keyword" name
  else match w.aliases.lookup name with
    | some value =>
      if verbose then
        say (name ++ " is an alias for ".toList ++ value ++ ['\n'])
      else say ("alias ".toList ++ aliasText (name, value))
      return 0
    | none =>
      let tracked := path.isNone && w.found.any fun f => f.name == name
      let list ← match path with
        | some path => pure path
        | none => pathList
      let meaning ← match if tracked then w.found.find? (·.name == name) else none with
        | some f => pure (.program (some f.place))
        | none => meaningOf name list true true false
      match meaning with
      | .builtin =>
        tell (if isSpecialCommand name then " is a special shell builtin"
          else " is a shell builtin") name
      | .function _ => tell " is a shell function" name
      | .program place =>
        let file := match place with
          | none => name
          | some k => inDirectory ((searchList list).getD k []) name
        tell ((if tracked then " is a tracked alias for " else " is ") ++ String.ofList file) file
      | .unknown =>
        if verbose then say (name ++ ": not found\n".toList)
        return 127

def type (names : List Octets) : Act Nat := do
  names.foldlM (fun status name => do
    let s ← describe name none true
    return status ||| s) 0

/-! Names that stand for other texts. -/

def setAlias (name value : Octets) : Act Unit :=
  modify fun w => { w with
    aliases := if w.aliases.any (·.1 == name)
      then w.aliases.map fun a => if a.1 == name then (name, value) else a
      else w.aliases ++ [(name, value)] }

def aliasCommand (arguments : List Octets) : Act Nat := do
  if arguments.isEmpty then
    let sorted := (← get).aliases.mergeSort fun a b => tableOrder 39 a.1 ≤ tableOrder 39 b.1
    sorted.forM fun a => say (aliasText a)
    return 0
  else
    arguments.foldlM (fun status o => do
      let name := match o with
        | c :: rest => c :: rest.takeWhile (· != '=')
        | [] => []
      match o.drop name.length with
      | _ :: value =>
        setAlias name value
        return status
      | [] =>
        match (← get).aliases.lookup o with
        | some value =>
          say (aliasText (o, value))
          return status
        | none =>
          let _ ← write 2 ("alias: ".toList ++ o ++ " not found\n".toList)
          return 1) 0

def unalias (arguments : List Octets) : Act Nat := do
  let g ← options "a" "" arguments
  if g.has 'a' then
    modify ({ · with aliases := [] })
    return 0
  else
    g.rest.foldlM (fun status name => do
      if ((← get).aliases.lookup name).isSome then
        modify fun w => { w with aliases := w.aliases.filter (·.1 != name) }
        return status
      else
        let _ ← write 2 ("unalias: ".toList ++ name ++ " not found\n".toList)
        return 1) 0

end Act
end LineShell.Machine
