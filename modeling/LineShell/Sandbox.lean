import LineShell.Host
import LineShell.Sandbox.Tree

/-! A system held in memory: a tree of files, and a working directory in it.  No program runs there. -/
namespace LineShell

structure Sandbox where
  tree : Sandbox.Tree := {}
  here : Nat := Sandbox.Tree.root

namespace Sandbox

def entryKind : Option Node → EntryKind
  | some (.file _ _) | some (.utility _) => .file
  | some (.directory _ _) => .directory
  | some (.link _) => .link
  | some .sink | none => .other

def changeDir (s : Sandbox) (path : String) : Except Fault Sandbox :=
  match s.tree.find s.here path true with
  | .error fault => .error fault
  | .ok id => if s.tree.isDirectory id then .ok { s with here := id } else .error .notDirectory

/-- A program that comes with the system is no text. -/
def readFile (s : Sandbox) (path : String) : Except Fault (List UInt8) :=
  match s.tree.find s.here path true with
  | .error fault => .error fault
  | .ok id =>
    match s.tree.node? id with
    | some (.file bytes mode) => if allows mode .read then .ok bytes else .error .accessDenied
    | some (.utility _) => .ok [0x7F, 0xFF]
    | some .sink => .ok []
    | _ => .error .isDirectory

def readDir (s : Sandbox) (path : String) : Except Fault (List (Except Fault DirEntry)) :=
  match s.tree.find s.here path true with
  | .error fault => .error fault
  | .ok id =>
    match s.tree.node? id with
    | some (.directory _ entries) =>
      .ok (entries.map fun e => .ok { name := utf8 e.1, kind := .ok (entryKind (s.tree.node? e.2)) })
    | _ => .error .notDirectory

def stat (s : Sandbox) (path : String) : Except Fault EntryKind :=
  (s.tree.find s.here path true).map fun id => entryKind (s.tree.node? id)

/-- There is no program of any name. -/
def launch (s : Sandbox) (argv : List String) : Launched Sandbox where
  outcome := .refused (if argv.any (·.toList.contains '\x00') then .nulInArgument else .noEntry)
  host := s

instance : Host Sandbox where
  workingDir s := s.tree.pathOf? s.here
  changeDir := changeDir
  readFile := readFile
  readDir := readDir
  stat := stat
  launch s _ := s.launch

theorem stat_eq_walk {s : Sandbox} {path : String} {names : List String}
    (hpath : path.toList.contains '\x00' = false ∧ path.isEmpty = false ∧
      Tree.byteSize path < Tree.maxPath) (hnames : Tree.components path = names) :
    Host.stat s path = (s.tree.walk true Tree.maxLinks (Tree.origin s.here path) names).map
      fun id => entryKind (s.tree.node? id) := by
  have hstat : Host.stat s path = s.stat path := rfl
  rw [hstat, stat, Tree.find_eq_walk hpath hnames]

end Sandbox
end LineShell
