import LineShell.Machine.Script.Expand
import LineShell.Machine.Script.Reader

/-! Where a script comes from.  It is taken in blocks from a file or from the input, as it is needed,
so that the commands in it may take what stands beyond the block themselves. -/
namespace LineShell.Machine
namespace Act

def readDepth : Nat := 1000000

def blockSize : Nat := 8192

def sourceOpening? : Act (Option Nat) := do
  let w ← get
  match w.origin with
  | .text => return none
  | .input => return w.streams.lookup 0
  | .opening id => return some id

def readable (bytes : List UInt8) : Octets := Octets.ofBytes (bytes.filter (· != 0))

/-- Takes blocks until so many characters have been taken or nothing is left.  Comes back with how many
have been taken. -/
def takeBlocks (id : Nat) (wanted : Nat) : Nat → Nat → Act Nat
  | 0, taken => return taken
  | n + 1, taken => do
    if wanted ≤ taken then return taken
    else
      let bytes ← modifyGet fun w =>
        let (kernel, bytes) := w.kernel.readBytes id blockSize
        (bytes, { w with kernel })
      if bytes.isEmpty then return taken
      else takeBlocks id wanted n (taken + (readable bytes).length)

def yetToCome : Act Octets := do
  match ← sourceOpening? with
  | none => return []
  | some id => return readable ((← get).kernel.ahead id)

/-- Takes what has been read of what was to come, and leaves off the rest of it. -/
def takeRead (coming rest : Octets) : Act Octets := do
  match ← sourceOpening? with
  | none => return rest
  | some id =>
    let wanted := coming.length - rest.length
    let taken ← takeBlocks id wanted (coming.length + 1) 0
    return rest.take (rest.length - (coming.length - taken))

def throughLine (whole : Octets) (n : Nat) : Nat :=
  match n with
  | 0 => 0
  | k + 1 =>
    let after := whole.drop k
    let line := after.takeWhile (· != '\n')
    min (k + line.length + 1) whole.length

/-- Writes the lines of a script as they are read, if the options say so.  `told` is how many
characters have been told of before.  Comes back with how many of those that are left. -/
def tellLines (whole : Octets) (consumed told : Nat) : Act Nat := do
  if consumed ≤ told then return told - consumed
  else
    let shown := throughLine whole consumed
    if ← has 'v' then
      let _ ← write 2 ((whole.take shown).drop told)
    return shown - consumed

def expanded (run : Option Script → Act Octets) (text : Octets) : Act Octets := do
  match (Reading.stretch (Reading.within readDepth) readDepth { place := .document } []).run
      { rest := text } with
  | .ok (parts, _) => textOf run { quoted := true } parts
  | .error _ => return text

def askWith (run : Option Script → Act Octets) (name : String) : Act Unit := do
  let _ ← write 2 (← expanded run ((← textOf? name).getD []))

end Act
end LineShell.Machine
