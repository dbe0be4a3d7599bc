import LineShell.Host
import LineShell.Sandbox.Tree
import LineShell.Text.Octets

/-! What the processes of a system share: its files, the openings through which they read and write,
the pipes between them, what has come out of them, and the signals under way. -/
namespace LineShell.Machine
open Sandbox

/-- What stands at the far end of an opening. -/
inductive Channel
  | out
  | err
  | input
  | sink
  | file (id : Nat)
  | pipe (id : Nat)
  deriving DecidableEq, Repr

/-- A way to read or write, with the place in a file that it has come to. -/
structure Opening where
  channel : Channel
  reads : Bool := false
  writes : Bool := false
  appends : Bool := false
  place : Nat := 0
  deriving Repr

structure Pipe where
  bytes : Array UInt8 := #[]
  taken : Nat := 0
  deriving Repr

structure Kernel where
  tree : Tree
  openings : Array Opening := #[]
  pipes : Array Pipe := #[]
  out : Array UInt8 := #[]
  err : Array UInt8 := #[]
  input : List UInt8 := []
  processes : List Nat := []
  lastProcess : Nat
  signals : List (Nat × Nat) := []

/-- How an attempt to write comes out. -/
inductive Written
  | done
  | refused
  | unread
  deriving DecidableEq, Repr

namespace Kernel

def pipeRoom : Nat := 262144

def printed (k : Kernel) : Printed := { out := k.out.toList, err := k.err.toList }

def setOpening (k : Kernel) (id : Nat) (o : Opening) : Kernel :=
  { k with openings := k.openings.setIfInBounds id o }

def put (k : Kernel) (o : Opening) : Kernel × Nat :=
  ({ k with openings := k.openings.push o }, k.openings.size)

/-- A text with bytes put in from a place on; a gap before the place is filled with zeros. -/
def overlaid (old : List UInt8) (place : Nat) (bytes : List UInt8) : List UInt8 :=
  let before := old.take place
  before ++ List.replicate (place - old.length) 0 ++ bytes ++ old.drop (place + bytes.length)

def writeFile (k : Kernel) (id : Nat) (o : Opening) (file : Nat) (bytes : List UInt8) :
    Kernel × Written :=
  match k.tree.node? file with
  | some (.file old mode) =>
    let place := if o.appends then old.length else o.place
    let k := { k with tree := k.tree.setNode file (.file (overlaid old place bytes) mode) }
    (k.setOpening id { o with place := place + bytes.length }, .done)
  | _ => (k, .done)

def write (k : Kernel) (id : Nat) (bytes : List UInt8) : Kernel × Written :=
  match k.openings[id]? with
  | none => (k, .refused)
  | some o =>
    if !o.writes then (k, .refused)
    else match o.channel with
      | .out => ({ k with out := k.out ++ bytes }, .done)
      | .err => ({ k with err := k.err ++ bytes }, .done)
      | .sink => (k, .done)
      | .input => (k, .refused)
      | .file file => k.writeFile id o file bytes
      | .pipe pipe =>
        let held := (k.pipes[pipe]?.map (·.bytes.size)).getD 0
        if pipeRoom < held + bytes.length then (k, .unread)
        else ({ k with pipes := k.pipes.modify pipe fun p => { p with bytes := p.bytes ++ bytes } },
          .done)

def readByte (k : Kernel) (id : Nat) : Kernel × Option UInt8 :=
  match k.openings[id]? with
  | none => (k, none)
  | some o =>
    if !o.reads then (k, none)
    else match o.channel with
      | .input =>
        match k.input with
        | [] => (k, none)
        | byte :: rest => ({ k with input := rest }, some byte)
      | .file file =>
        match k.tree.node? file with
        | some (.file bytes _) =>
          match bytes[o.place]? with
          | some byte => (k.setOpening id { o with place := o.place + 1 }, some byte)
          | none => (k, none)
        | _ => (k, none)
      | .pipe pipe =>
        match k.pipes[pipe]? with
        | some p =>
          match p.bytes[p.taken]? with
          | some byte =>
            ({ k with pipes := k.pipes.modify pipe fun p => { p with taken := p.taken + 1 } },
              some byte)
          | none => (k, none)
        | none => (k, none)
      | _ => (k, none)

def readBytes (k : Kernel) (id : Nat) : Nat → Kernel × List UInt8
  | 0 => (k, [])
  | n + 1 =>
    match k.readByte id with
    | (k, none) => (k, [])
    | (k, some byte) =>
      let (k, rest) := k.readBytes id n
      (k, byte :: rest)

def putPipe (k : Kernel) : Kernel × Nat × Nat :=
  let pipe := k.pipes.size
  let k := { k with pipes := k.pipes.push {} }
  let (k, reader) := k.put { channel := .pipe pipe, reads := true }
  let (k, writer) := k.put { channel := .pipe pipe, writes := true }
  (k, reader, writer)

def putBytes (k : Kernel) (bytes : List UInt8) : Kernel × Nat :=
  { k with pipes := k.pipes.push { bytes := bytes.toArray } }.put
    { channel := .pipe k.pipes.size, reads := true }

def ahead (k : Kernel) (id : Nat) : List UInt8 :=
  match k.openings[id]? with
  | none => []
  | some o =>
    if !o.reads then []
    else match o.channel with
      | .input => k.input
      | .file file =>
        match k.tree.node? file with
        | some (.file bytes _) => bytes.drop o.place
        | _ => []
      | .pipe pipe => (k.pipes[pipe]?.map fun p => p.bytes.toList.drop p.taken).getD []
      | _ => []

/-! Opening files. -/

inductive Use
  | read
  | write
  | append
  | both
  deriving DecidableEq, Repr

def Use.needs : Use → List Permission
  | .read => [.read]
  | .write | .append => [.write]
  | .both => [.read, .write]

def Use.makes : Use → Bool
  | .read => false
  | _ => true

def Use.opening (use : Use) (channel : Channel) : Opening :=
  { channel, reads := use.needs.contains .read, writes := use.needs.contains .write,
    appends := use == .append }

/-- Opens what stands at a node, emptied if it is to be written from its beginning. -/
def openNode (k : Kernel) (id : Nat) (use : Use) : Except Fault (Kernel × Nat) :=
  match k.tree.node? id with
  | some .sink => .ok (k.put (use.opening .sink))
  | some (.file bytes mode) =>
    if use.needs.all (allows mode) then
      let kept := if use == .write then [] else bytes
      .ok ({ k with tree := k.tree.setNode id (.file kept mode) }.put (use.opening (.file id)))
    else .error .accessDenied
  | some (.directory _ _) =>
    if use == .read then .ok (k.put (use.opening (.file id))) else .error .isDirectory
  | some (.utility _) =>
    if use == .read then .ok (k.put (use.opening (.file id))) else .error .accessDenied
  | _ => .error .noEntry

/-- Opens a file by its path.  A file that is missing is made unless it is only to be read, and its
mode does not stand in the way of the one who makes it. -/
def openFile (k : Kernel) (here : Nat) (path : String) (use : Use) (mode : Nat) :
    Except Fault (Kernel × Nat) :=
  if use.makes then
    match k.tree.obtain here path mode with
    | .error fault => .error fault
    | .ok (tree, id) =>
      if id < k.tree.nodes.size then k.openNode id use
      else .ok ({ k with tree }.put (use.opening (.file id)))
  else match k.tree.find here path true with
    | .error fault => .error fault
    | .ok id => k.openNode id use

/-! Processes and signals. -/

def fork (k : Kernel) : Kernel × Nat :=
  let id := k.lastProcess + 1
  ({ k with lastProcess := id, processes := id :: k.processes }, id)

def reap (k : Kernel) (id : Nat) : Kernel := { k with processes := k.processes.filter (· != id) }

def send (k : Kernel) (id signal : Nat) : Kernel := { k with signals := k.signals ++ [(id, signal)] }

def received (k : Kernel) (id : Nat) : Kernel × List Nat :=
  ({ k with signals := k.signals.filter (·.1 != id) },
    (k.signals.filter (·.1 == id)).map (·.2))

end Kernel
end LineShell.Machine
