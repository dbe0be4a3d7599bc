import LineShell.Machine.Script.Command.Names
import LineShell.Machine.Script.Expand

/-! Where the streams of a command lead while it is carried out. -/
namespace LineShell.Machine
namespace Act

abbrev Changed := List (Nat × Option Nat)

def targetsOf (run : Option Script → Act Octets) (rs : List Redirect) : Act (List Target) :=
  rs.mapM fun r => do
    match r with
    | .file stream use guarded path =>
      return .file stream use guarded (← textOf run { home := true } path)
    | .copy stream source => return .copy stream source
    | .document stream number => return .document stream number
    | .copyNamed stream word =>
      match ← textOf run { home := true } word with
      | ['-'] => return .copy stream none
      | o =>
        match o with
        | [c] => if c.isDigit then return .copy stream (some (digitWorth c))
        | _ => pure ()
        modify fun w => { w with line := w.readLine }
        failText "Syntax error: Bad fd number"

def setStream (stream : Nat) (opening : Option Nat) : Act Unit :=
  modify fun w =>
    let others := w.streams.filter (·.1 != stream)
    { w with streams := match opening with
        | some id => (stream, id) :: others
        | none => others }

def openFile (use : Kernel.Use) (path : Octets) : Act Nat := do
  let w ← get
  match w.kernel.openFile w.here path.toText use (0o666 &&& (0o777 ^^^ w.mask)) with
  | .ok (kernel, id) =>
    set { w with kernel }
    return id
  | .error fault =>
    if use.makes then
      fail ("cannot create ".toList ++ path ++ ": ".toList ++
        (faultText fault "Directory nonexistent").toList)
    else
      fail ("cannot open ".toList ++ path ++ ": ".toList ++ (faultText fault "No such file").toList)

def guard (path : Octets) : Act Unit := do
  let w ← get
  if w.options.contains 'C' then
    match w.kernel.tree.find w.here path.toText true with
    | .error _ => return
    | .ok id =>
      match w.kernel.tree.node? id with
      | some (.file _ _) | some (.utility _) =>
        fail ("cannot create ".toList ++ path ++ ": File exists".toList)
      | _ => return

/-- Carries out one redirection; where the stream led before is added to what was changed. -/
def redirect (run : Option Script → Act Octets) (changed : Changed) (t : Target) :
    Act Changed := do
  let stream := t.stream
  let note : Act Changed := do
    if changed.any (·.1 == stream) then return changed
    else return (stream, ← opening? stream) :: changed
  match t with
  | .file _ use guarded path =>
    if guarded then guard path
    let id ← openFile use path
    let changed ← note
    setStream stream (some id)
    return changed
  | .document _ number =>
    let text ← textOf run { quoted := true } ((← get).documents.getD number [])
    let id ← modifyGet fun w =>
      let (kernel, id) := w.kernel.putBytes text.toBytes
      (id, { w with kernel })
    let changed ← note
    setStream stream (some id)
    return changed
  | .copy _ none =>
    let changed ← note
    setStream stream none
    return changed
  | .copy _ (some source) =>
    if source == stream then return changed
    else
      let changed ← note
      match ← opening? source with
      | some id =>
        setStream stream (some id)
        return changed
      | none => fail (decimalText source ++ ": Bad file descriptor".toList)

def restoreStreams (changed : Changed) : Act Unit := changed.forM fun c => setStream c.1 c.2

/-- Carries out redirections.  If one fails, those before it are undone, and the status tells. -/
def redirectAll (run : Option Script → Act Octets) (ts : List Target) :
    Act (Except Nat Changed) := do
  let rec go : List Target → Changed → Act (Except Nat Changed)
    | [], changed => return .ok changed
    | t :: rest, changed => do
      let before := (← get).streams
      match ← attempt (redirect run changed t) with
      | .ok changed => go rest changed
      | .error .trouble =>
        modify ({ · with streams := before })
        restoreStreams changed
        return .error troubleStatus
      | .error s => stop s
  go ts []

end Act
end LineShell.Machine
