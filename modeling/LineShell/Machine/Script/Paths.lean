import LineShell.Machine.Script.Pattern
import LineShell.Sandbox.Tree

/-! The paths that are as a pattern says. -/
namespace LineShell.Machine
open Sandbox
namespace Paths

def closes : Octets → Bool
  | p =>
    let p := if p.head? == some '!' then p.drop 1 else p
    let rec look : Nat → Octets → Bool
      | 0, _ => false
      | n + 1, p =>
        let p := if p.head? == some '\\' then p.drop 1 else p
        match p with
        | [] => false
        | '/' :: _ => false
        | _ :: rest => rest.head? == some ']' || look n rest
    look p.length p

/-- A pattern taken apart: the path before the first name that is a pattern, that name, and what
follows the slash after it, if there is one. -/
structure Split where
  before : Octets
  name : Octets
  after : Option Octets

/-- Goes along a pattern; `path` and `name` are what has been seen, the latest first. -/
def split? (path name : Octets) (isPattern : Bool) : Nat → Octets → Option Split
  | 0, _ => none
  | n + 1, p =>
    let done (after : Option Octets) : Option Split :=
      if isPattern then some { before := path.reverse, name := name.reverse, after } else none
    match p with
    | [] => done none
    | '\\' :: '/' :: rest =>
      if isPattern then done (some rest)
      else split? ('/' :: '\\' :: (name ++ path)) [] false n rest
    | '\\' :: c :: rest => split? path (c :: '\\' :: name) isPattern n rest
    | '/' :: rest =>
      if isPattern then done (some rest) else split? ('/' :: (name ++ path)) [] false n rest
    | c :: rest =>
      let telling := c == '*' || c == '?' || (c == '[' && closes rest)
      split? path (c :: name) (isPattern || telling) n rest

def plainText : Octets → Octets
  | '\\' :: c :: rest => c :: plainText rest
  | c :: rest => c :: plainText rest
  | [] => []

def isHidden (o : Octets) : Bool := o.head? == some '.'

def asksForHidden (p : Octets) : Bool :=
  isHidden (if p.head? == some '\\' then p.drop 1 else p)

def namesIn (t : Tree) (here : Nat) (path : Octets) : List Octets :=
  match t.find here (if path.isEmpty then "." else path.toText) true with
  | .error _ => []
  | .ok id =>
    match t.node? id with
    | some (.directory _ entries) =>
      ['.'] :: ['.', '.'] :: entries.map fun e => Octets.ofText e.1
    | _ => []

def extend (t : Tree) (here : Nat) : Nat → Octets → Octets → List Octets
  | 0, _, _ => []
  | n + 1, path, p =>
    match split? [] [] false (p.length + 1) p with
    | none =>
      let whole := path ++ plainText p
      if path.isEmpty then []
      else if (t.find here whole.toText false).toOption.isSome then [whole] else []
    | some s =>
      let path := path ++ plainText s.before
      let names := (namesIn t here path).filter fun name =>
        (!isHidden name || asksForHidden s.name) && Pattern.matchesText s.name name
      match s.after with
      | none => names.map (path ++ ·)
      | some rest => names.flatMap fun name => extend t here n (path ++ name ++ ['/']) rest

def matching (t : Tree) (here : Nat) (p : Octets) : List Octets :=
  (extend t here (p.length + 1) [] p).mergeSort fun a b => !b.isBefore a

end Paths
end LineShell.Machine
