import LineShell.Text.Octets

/-! Words that are being put together: characters, some of which stand for themselves only, the places
where quotation marks stood, and the stretches in which a word may end. -/
namespace LineShell.Machine

inductive Glyph
  | plain (c : Char)
  | exact (c : Char)
  | mark
  deriving DecidableEq, Repr, Inhabited

/-- A stretch that came from a value.  It is cut where the separators stand, or only between the
arguments that it is made of. -/
structure Region where
  start : Nat
  stop : Nat
  byArgument : Bool := false
  deriving Repr

structure Draft where
  glyphs : Array Glyph := #[]
  regions : Array Region := #[]

namespace Glyph

def char? : Glyph → Option Char
  | plain c | exact c => some c
  | mark => none

def text (gs : List Glyph) : Octets := gs.filterMap char?

/-- The pattern that is written so.  `free` holds unless a plain backslash has just gone before. -/
def pattern : Bool → List Glyph → Octets
  | _, [] => []
  | _, mark :: rest => pattern true rest
  | _, plain c :: rest => c :: pattern (c != '\\') rest
  | free, exact c :: rest => if free then '\\' :: c :: pattern true rest else c :: pattern true rest

end Glyph

namespace Draft

def size (d : Draft) : Nat := d.glyphs.size

def push (d : Draft) (g : Glyph) : Draft := { d with glyphs := d.glyphs.push g }

def addRegion (d : Draft) (start : Nat) (byArgument : Bool) : Draft :=
  { d with regions := d.regions.push { start, stop := d.size, byArgument } }

def cutAt (d : Draft) (place : Nat) : Draft :=
  { glyphs := d.glyphs.take place
    regions := (d.regions.filter fun r => r.start < place).map fun r =>
      { r with stop := min r.stop place } }

end Draft

def blankSeparators : Octets := " \t\n".toList

/-- How far the cutting of a text into fields has come.  `room` is the number of fields that may still
be cut off, if there is a bound, `loose` is where the separators begin that are left off the last
field. -/
structure Cutting where
  start : Nat := 0
  room : Option Nat := none
  afterBlank : Bool := false
  loose : Option Nat := none
  fields : List (List Glyph) := []

namespace Cutting

def nul : Char := Char.ofNat 0

def slice (gs : Array Glyph) (start stop : Nat) : List Glyph := (gs.extract start stop).toList

def pass (c : Cutting) (place : Nat) : Cutting :=
  if c.room == some 0 then { c with loose := none, afterBlank := false }
  else { c with start := if c.afterBlank then place else c.start, afterBlank := false }

def step (gs : Array Glyph) (separators : Octets) (quiet : Bool) (c : Cutting) (place : Nat) :
    Cutting :=
  match (gs[place]?).getD .mark with
  | .mark => c.pass place
  | .plain d | .exact d =>
    let isSeparator := d == nul || separators.contains d
    let isBlank := isSeparator && (d == nul || blankSeparators.contains d)
    if c.room == some 0 then
      if isBlank then { c with loose := some (c.loose.getD place) }
      else
        { c with
          loose := if isSeparator && c.afterBlank then c.loose else none, afterBlank := false }
    else
      let start := if c.afterBlank then (if isSeparator then place + 1 else place) else c.start
      if c.afterBlank && isBlank then { c with start }
      else if isSeparator && !c.afterBlank then
        let afterBlank := if quiet then c.afterBlank else isBlank
        if place == c.start && afterBlank then { c with start := place + 1, afterBlank := false }
        else match c.room with
          | some 1 => { c with room := some 0, loose := some place, afterBlank }
          | room =>
            { c with
              room := room.map (· - 1), afterBlank, start := place + 1
              fields := slice gs c.start place :: c.fields }
      else { c with start, afterBlank := false }

end Cutting

/-- Cuts a text into fields, at most so many if a bound is given. -/
def Draft.fields (d : Draft) (separators : Octets) (room : Option Nat) : List (List Glyph) :=
  let walk := fun (acc : Cutting × Bool) (r : Region) =>
    let quiet := acc.2 || r.byArgument
    let c := (List.range' r.start (r.stop - r.start)).foldl
      (Cutting.step d.glyphs (if r.byArgument then [] else separators) quiet)
      { acc.1 with afterBlank := false }
    (c, r.byArgument)
  let (c, byArgument) := d.regions.foldl walk ({ room }, false)
  let last := Cutting.slice d.glyphs c.start (c.loose.getD d.size)
  if last.isEmpty && !byArgument then c.fields.reverse else (last :: c.fields).reverse

end LineShell.Machine
