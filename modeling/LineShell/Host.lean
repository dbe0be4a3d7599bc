import LineShell.Environment
import LineShell.Fault

/-! What a shell asks of the system it runs on: the working directory, files, directories, and
programs run to their end. -/
namespace LineShell

inductive EntryKind
  | file
  | directory
  | link
  | other
  deriving DecidableEq, Repr

/-- What a directory holds under a name.  The name is any bytes, and the kind may not be told. -/
structure DirEntry where
  name : List UInt8
  kind : Except Fault EntryKind

structure Printed where
  out : List UInt8 := []
  err : List UInt8 := []
  deriving DecidableEq, Repr

/-- How the request to run a program came out: it was refused, its end could not be learnt, or it
ended by itself or by a signal. -/
inductive Outcome
  | refused (fault : Fault)
  | lost (fault : Fault)
  | exited (code : Nat)
  | signaled (number : Nat)
  deriving DecidableEq, Repr

/-- What is learnt of a program that was to be run, with the signals that reached the shell meanwhile. -/
structure Launched (σ : Type) where
  outcome : Outcome
  printed : Printed := {}
  signals : List Nat := []
  host : σ

class Host (σ : Type) where
  workingDir : σ → Option String
  changeDir : σ → String → Except Fault σ
  readFile : σ → String → Except Fault (List UInt8)
  /-- The entries of a directory as they come, each of which may fail to be read. -/
  readDir : σ → String → Except Fault (List (Except Fault DirEntry))
  /-- The kind of what a path leads to, links followed. -/
  stat : σ → String → Except Fault EntryKind
  /-- Runs a program, found by its name and the `PATH` of the environment, until it ends. -/
  launch : σ → Environment → List String → Launched σ

def Host.isDir {σ : Type} [Host σ] (host : σ) (path : String) : Bool :=
  match stat host path with
  | .ok kind => kind == .directory
  | .error _ => false

end LineShell
