import LineShell.Fault
import LineShell.Text.Utf8

/-! A tree of files held in memory: numbered nodes, paths that lead to them through directories and
links, and the edits that make and remove them. -/
namespace LineShell.Sandbox

/-- Programs that are part of the system. -/
inductive Utility
  | shell
  | succeed
  | fail
  | format
  deriving DecidableEq, Repr

/-- What the owner of a file may do with it, as bits of its mode. -/
inductive Permission
  | read
  | write
  | run
  deriving DecidableEq, Repr

def Permission.bit : Permission → Nat
  | read => 0o400
  | write => 0o200
  | run => 0o100

def allows (mode : Nat) (p : Permission) : Bool := mode &&& p.bit != 0

/-- A directory knows the node that holds it, and keeps knowing it after it is removed.  The sink
takes everything and holds nothing. -/
inductive Node
  | file (bytes : List UInt8) (mode : Nat)
  | utility (u : Utility)
  | sink
  | directory (parent : Nat) (entries : List (String × Nat))
  | link (target : String)
  deriving Repr

/-- The first node is the root, which holds itself. -/
structure Tree where
  nodes : Array Node := #[.directory 0 []]

namespace Tree

def root : Nat := 0

def node? (t : Tree) (id : Nat) : Option Node := t.nodes[id]?

/-- The bounds on the bytes of a path, with the one that ends it, and on those of a name in it. -/
def maxPath : Nat := 4096
def maxName : Nat := 255

def maxLinks : Nat := 40

def byteSize (text : String) : Nat := text.utf8ByteSize

def components (path : String) : List String := (path.toList.splitOn '/').map String.ofList

def isAbsolute (path : String) : Bool := path.toList.head? == some '/'

def origin (here : Nat) (path : String) : Nat := if isAbsolute path then root else here

def walk (t : Tree) (through : Bool) (links here : Nat) (names : List String) :
    Except Fault Nat :=
  match names with
  | [] => .ok here
  | name :: rest =>
    match t.node? here with
    | some (.directory parent entries) =>
      if name == "" || name == "." then walk t through links here rest
      else if name == ".." then walk t through links parent rest
      else if maxName < byteSize name then .error .nameTooLong
      else match entries.lookup name with
        | none => .error .noEntry
        | some id =>
          match t.node? id with
          | some (.link target) =>
            if rest.isEmpty && !through then .ok id
            else match links with
              | 0 => .error .tooManyLinks
              | left + 1 => walk t through left (origin here target) (components target ++ rest)
          | _ => walk t through links id rest
    | _ => .error .notDirectory
termination_by (links, names.length)

def find (t : Tree) (here : Nat) (path : String) (through : Bool) : Except Fault Nat :=
  if path.toList.contains '\x00' then .error .nulInPath
  else if path.isEmpty then .error .noEntry
  else if maxPath ≤ byteSize path then .error .nameTooLong
  else walk t through maxLinks (origin here path) (components path)

theorem find_eq_walk {t : Tree} {here : Nat} {path : String} {through : Bool} {names : List String}
    (hpath : path.toList.contains '\x00' = false ∧ path.isEmpty = false ∧ byteSize path < maxPath)
    (hnames : components path = names) :
    t.find here path through = t.walk through maxLinks (origin here path) names := by
  obtain ⟨hnul, hempty, hsize⟩ := hpath
  rw [find, hnul, hempty, hnames]
  simp [Nat.not_le.mpr hsize]

def nameOf? (entries : List (String × Nat)) (id : Nat) : Option String :=
  (entries.find? fun e => e.2 == id).map (·.1)

/-- The names from the root to a directory, given at least as many steps as it is deep; none if it
or what holds it has been removed. -/
def namesTo (t : Tree) : Nat → Nat → List String → Option (List String)
  | 0, _, _ => none
  | steps + 1, id, names =>
    if id == root then some names
    else match t.node? id with
      | some (.directory parent _) =>
        match t.node? parent with
        | some (.directory _ entries) =>
          match nameOf? entries id with
          | some name => namesTo t steps parent (name :: names)
          | none => none
        | _ => none
      | _ => none

def pathOf? (t : Tree) (id : Nat) : Option String :=
  (t.namesTo (t.nodes.size + 1) id []).map fun names => "/" ++ "/".intercalate names

def isDirectory (t : Tree) (id : Nat) : Bool :=
  match t.node? id with
  | some (.directory _ _) => true
  | _ => false

/-! Edits. -/

def setEntries (t : Tree) (id : Nat) (change : List (String × Nat) → List (String × Nat)) : Tree :=
  match t.node? id with
  | some (.directory parent entries) =>
    { t with nodes := t.nodes.setIfInBounds id (.directory parent (change entries)) }
  | _ => t

def add (t : Tree) (dir : Nat) (name : String) (node : Node) : Tree × Nat :=
  let id := t.nodes.size
  ({ t with nodes := t.nodes.push node }.setEntries dir (· ++ [(name, id)]), id)

def reach (t : Tree) (here : Nat) : List String → Except Fault (Tree × Nat)
  | [] => if t.isDirectory here then .ok (t, here) else .error .notDirectory
  | name :: rest =>
    match t.walk true maxLinks here [name] with
    | .ok id => reach t id rest
    | .error fault =>
      if fault == .noEntry then
        let (t, id) := t.add here name (.directory here [])
        reach t id rest
      else .error fault

/-- The directory that is to hold a path's last name, made if it is missing, and that name. -/
def holder (t : Tree) (here : Nat) (path : String) : Except Fault (Tree × Nat × String) :=
  let names := components path
  (t.reach (origin here path) names.dropLast).map fun r => (r.1, r.2, names.getLast?.getD "")

def entry? (t : Tree) (dir : Nat) (name : String) : Option Nat :=
  match t.node? dir with
  | some (.directory _ entries) => entries.lookup name
  | _ => none

def makeDir (t : Tree) (here : Nat) (path : String) : Tree :=
  match t.reach (origin here path) (components path) with
  | .ok (t, _) => t
  | .error _ => t

/-- The directory and the name that a path comes down to, links followed, and what is there. -/
def place (t : Tree) (links here : Nat) (names : List String) :
    Except Fault (Nat × String × Option Nat) :=
  match t.walk true maxLinks here names.dropLast with
  | .error fault => .error fault
  | .ok dir =>
    let name := names.getLast?.getD ""
    if !t.isDirectory dir then .error .notDirectory
    else if name == "" || name == "." || name == ".." then .error .isDirectory
    else if maxName < byteSize name then .error .nameTooLong
    else match t.entry? dir name with
      | none => .ok (dir, name, none)
      | some id =>
        match t.node? id with
        | some (.link target) =>
          match links with
          | 0 => .error .tooManyLinks
          | left + 1 => t.place left (origin dir target) (components target)
        | _ => .ok (dir, name, some id)

def obtain (t : Tree) (here : Nat) (path : String) (mode : Nat) : Except Fault (Tree × Nat) :=
  if path.isEmpty then .error .noEntry
  else if maxPath ≤ byteSize path then .error .nameTooLong
  else match t.place maxLinks (origin here path) (components path) with
    | .error fault => .error fault
    | .ok (_, _, some id) => if t.isDirectory id then .error .isDirectory else .ok (t, id)
    | .ok (dir, name, none) => .ok (t.add dir name (.file [] mode))

def setNode (t : Tree) (id : Nat) (node : Node) : Tree :=
  { t with nodes := t.nodes.setIfInBounds id node }

def makeFile (t : Tree) (here : Nat) (path : String) (bytes : List UInt8) (mode : Nat) :
    Except Fault Tree :=
  match t.holder here path with
  | .error fault => .error fault
  | .ok (t, _, _) => (t.obtain here path mode).map fun r => r.1.setNode r.2 (.file bytes mode)

def makeLink (t : Tree) (here : Nat) (path target : String) : Tree :=
  match t.holder here path with
  | .ok (t, dir, name) =>
    if (t.entry? dir name).isSome then t else (t.add dir name (.link target)).1
  | .error _ => t

def liesIn (t : Tree) (top : Nat) : Nat → Nat → Bool
  | 0, _ => false
  | steps + 1, id =>
    id == top || match t.node? id with
      | some (.directory parent _) => id != root && liesIn t top steps parent
      | _ => false

def remove (t : Tree) (here : Nat) (path : String) : Tree :=
  match t.find here path false, t.holder here path with
  | .ok id, .ok (_, dir, name) =>
    let emptied := (List.range t.nodes.size).foldl (fun (u : Tree) (n : Nat) =>
      if t.isDirectory id && t.liesIn id (t.nodes.size + 1) n then u.setEntries n (fun _ => [])
      else u) t
    emptied.setEntries dir (·.filter (·.1 != name))
  | _, _ => t

end Tree
end LineShell.Sandbox
