import LineShell.Machine.Script.Run
import LineShell.Sandbox

/-! A machine held in memory: a tree of files with a few programs in it, and what is to be read by those
that run. -/
namespace LineShell

structure Machine extends Sandbox where
  input : List UInt8 := []
  /-- The number of the last process. -/
  lastProcess : Nat := 1000

namespace Machine
open Sandbox

/-- The number by which the shell is known to the programs it runs. -/
def shellProcess : Nat := 1000

def maxSteps : Nat := 10000000

def changeDir (m : Machine) (path : String) : Except Fault Machine :=
  (m.toSandbox.changeDir path).map fun s => { m with toSandbox := s }

def launch (m : Machine) (env : Environment) (argv : List String) : Launched Machine :=
  match findProgram m.tree m.here env (argv.map .ofText) with
  | .error fault => { outcome := .refused fault, host := m }
  | .ok (utility, argv) =>
    let kernel : Kernel := {
      tree := m.tree, input := m.input, processes := [shellProcess], lastProcess := m.lastProcess }
    let (kernel, process) := kernel.fork
    let (kernel, input) := kernel.put { channel := .input, reads := true }
    let (kernel, out) := kernel.put { channel := .out, writes := true }
    let (kernel, err) := kernel.put { channel := .err, writes := true }
    let (exit, kernel) := Act.runUtility maxSteps utility argv {
      kernel, here := m.here, process, parent := shellProcess
      streams := [(0, input), (1, out), (2, err)], entries := entriesOf env }
    { outcome := exit.outcome, printed := kernel.printed, signals := (kernel.received shellProcess).2
      host := { m with tree := kernel.tree, input := kernel.input, lastProcess := kernel.lastProcess } }

instance : Host Machine where
  workingDir m := Host.workingDir m.toSandbox
  changeDir := changeDir
  readFile m := m.toSandbox.readFile
  readDir m := m.toSandbox.readDir
  stat m := m.toSandbox.stat
  launch := launch

/-! Setting up. -/

/-- The programs of a machine, in both directories where they are looked for. -/
def utilities : List (String × Utility) :=
  [("sh", .shell), ("true", .succeed), ("false", .fail), ("printf", .format)]

def withNodes (m : Machine) (dir : String) (nodes : List (String × Node)) : Machine :=
  match m.tree.reach Tree.root (Tree.components dir) with
  | .error _ => m
  | .ok (tree, id) =>
    { m with tree := nodes.foldl (fun (t : Tree) n => (t.add id n.1 n.2).1) tree }

def withUtilities (m : Machine) (dir : String) : Machine :=
  m.withNodes dir (utilities.map fun u => (u.1, .utility u.2))

def makeDir (m : Machine) (path : String) : Machine :=
  { m with tree := m.tree.makeDir m.here path }

def makeFile (m : Machine) (path : String) (bytes : List UInt8) (mode : Nat) : Machine :=
  { m with tree := (m.tree.makeFile m.here path bytes mode).toOption.getD m.tree }

def makeLink (m : Machine) (path target : String) : Machine :=
  { m with tree := m.tree.makeLink m.here path target }

def remove (m : Machine) (path : String) : Machine :=
  { m with tree := m.tree.remove m.here path }

/-- A machine with its programs and an empty directory, in which it stands. -/
def fresh (dir : String) : Machine :=
  let m := (({} : Machine).withUtilities "/bin").withUtilities "/usr/bin"
  let m := (m.withNodes "/dev" [("null", .sink)]).makeDir dir
  (m.changeDir dir).toOption.getD m

end Machine
end LineShell
