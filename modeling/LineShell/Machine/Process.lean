import LineShell.Environment
import LineShell.Machine.Kernel

/-! How a program is found and loaded: along the directories where programs are looked for, and
through the interpreters that scripts ask for. -/
namespace LineShell.Machine
open Sandbox

def isGap (c : Char) : Bool := c == ' ' || c == '\t'

def headSize : Nat := 256

def isGapOrNul (c : Char) : Bool := isGap c || c == nul

def interpreterOn (line : Octets) : Octets × Option Octets :=
  let line := line.dropWhile isGap
  let name := line.takeWhile fun c => !isGapOrNul c
  match line.drop name.length with
  | gap :: rest =>
    if gap == nul then (name, none)
    else match rest.dropWhile isGap with
      | [] => (name, none)
      | argument => (name, some (argument.takeWhile (· != nul)))
  | [] => (name, none)

def withoutTrailingGaps (line : Octets) : Octets := (line.reverse.dropWhile isGap).reverse

/-- The interpreter that the beginning of a file asks for.  What is looked at is filled up with
zeros, and a line that does not end in it may be cut short, but not within the interpreter's name. -/
def interpreter? (bytes : List UInt8) : Option (Octets × Option Octets) :=
  let head := Octets.ofBytes (bytes.take headSize)
  let head := head ++ List.replicate (headSize - head.length) nul
  match head with
  | '#' :: '!' :: rest =>
    let line := rest.takeWhile fun c => c != '\n' && c != nul
    if rest[line.length]? == some '\n' then
      if line.all isGap then none else some (interpreterOn (withoutTrailingGaps line))
    else if (rest.dropWhile isGap).any isGapOrNul then
      some (interpreterOn (withoutTrailingGaps rest.dropLast))
    else none
  | _ => none

def maxInterpreters : Nat := 5

/-- The bytes that one argument or one variable may take, with the one that ends it. -/
def maxArgument : Nat := 131072

def entriesFit (argv entries : List Octets) : Bool :=
  (argv ++ entries).all fun o => o.length < maxArgument

/-- Loads the program at a path; an interpreter is given the path in place of the program's name.
The size of arguments and variables matters once there is a file to run. -/
def loadProgram (t : Tree) (here : Nat) (entries : List Octets) (left : Nat) (path : Octets)
    (argv : List Octets) : Except Fault (Utility × List Octets) :=
  match t.find here path.toText true with
  | .error fault => .error fault
  | .ok id =>
    match t.node? id with
    | some (.utility u) => if entriesFit argv entries then .ok (u, argv) else .error .argumentsTooLong
    | some (.file bytes mode) =>
      if !allows mode .run then .error .accessDenied
      else if !entriesFit argv entries then .error .argumentsTooLong
      else match interpreter? bytes with
        | none => .error .badFormat
        | some (name, argument) =>
          match left with
          | 0 => .error .tooManyLinks
          | left + 1 =>
            loadProgram t here entries left name (name :: (argument.toList ++ path :: argv.drop 1))
    | _ => .error .accessDenied

def searchList (dirs : Octets) : List Octets := dirs.splitOn ':'

def inDirectory (dir name : Octets) : Octets := if dir.isEmpty then name else dir ++ '/' :: name

/-- The paths at which a program is looked for.  A directory that is too long for any path is passed
over, but the working directory is then looked at, unless no directory follows. -/
def programPaths (list name : Octets) : List Octets :=
  if name.contains '/' then [name]
  else
    let room := min list.length (Tree.maxPath - 1) + 1
    let rec along : List Octets → List Octets
      | [] => []
      | [dir] => if dir.length < room then [inDirectory dir name] else []
      | dir :: rest => (if dir.length < room then inDirectory dir name else name) :: along rest
    along (searchList list)

def entryOf (name value : Octets) : Octets := name ++ '=' :: value

def entriesOf (env : Environment) : List Octets :=
  env.bindings.map fun b => entryOf (.ofText b.1) (.ofText b.2)

def loadFirst (t : Tree) (here : Nat) (entries argv : List Octets) (last : Fault) :
    List Octets → Except Fault (Utility × List Octets)
  | [] => .error last
  | path :: rest =>
    match loadProgram t here entries maxInterpreters path argv with
    | .ok image => .ok image
    | .error fault =>
      if fault == .accessDenied then loadFirst t here entries argv fault rest
      else if fault == .noEntry || fault == .notDirectory then
        loadFirst t here entries argv last rest
      else .error fault

def findProgram (t : Tree) (here : Nat) (env : Environment) (argv : List Octets) :
    Except Fault (Utility × List Octets) :=
  if argv.any fun a => a.contains nul then .error .nulInArgument
  else match argv with
    | [] | [] :: _ => .error .noEntry
    | name :: _ =>
      loadFirst t here (entriesOf env) argv .noEntry
        (programPaths (.ofText ((env.get? "PATH").getD "/bin:/usr/bin")) name)

end LineShell.Machine
