/-! Text and its UTF-8 bytes, in both directions: strictly, and as it is shown when the bytes may be
cut short or damaged. -/
namespace LineShell

def utf8 (text : String) : List UInt8 := text.toList.flatMap String.utf8EncodeChar

def ofUtf8? (bytes : List UInt8) : Option String := String.fromUTF8? ⟨bytes.toArray⟩

/-- The character that stands for bytes which are no text. -/
def replacement : Char := Char.ofNat 0xFFFD

/-- A character of which the first bytes have been read: their bits, how many bytes are to come,
and the bounds of the next one. -/
structure Partial where
  bits : Nat
  missing : Nat
  low : Nat := 0x80
  high : Nat := 0xBF

/-- What a byte at the beginning of a character promises. -/
def Partial.lead? (byte : Nat) : Option Partial :=
  if 0xC2 ≤ byte && byte ≤ 0xDF then some { bits := byte % 32, missing := 1 }
  else if byte == 0xE0 then some { bits := 0, missing := 2, low := 0xA0 }
  else if byte == 0xED then some { bits := 0xD, missing := 2, high := 0x9F }
  else if 0xE1 ≤ byte && byte ≤ 0xEF then some { bits := byte % 16, missing := 2 }
  else if byte == 0xF0 then some { bits := 0, missing := 3, low := 0x90 }
  else if byte == 0xF4 then some { bits := 4, missing := 3, high := 0x8F }
  else if 0xF1 ≤ byte && byte ≤ 0xF3 then some { bits := byte % 8, missing := 3 }
  else none

/-- The text shown for bytes, one replacement character for each longest beginning of a character
that is not completed and for each byte that begins none. -/
def shownFrom : Option Partial → List UInt8 → List Char
  | none, [] => []
  | some _, [] => [replacement]
  | state, byte :: rest =>
    let b := byte.toNat
    let fresh :=
      if b < 0x80 then Char.ofNat b :: shownFrom none rest
      else match Partial.lead? b with
        | some p => shownFrom (some p) rest
        | none => replacement :: shownFrom none rest
    match state with
    | none => fresh
    | some p =>
      if p.low ≤ b && b ≤ p.high then
        let bits := p.bits * 64 + b % 64
        if p.missing ≤ 1 then Char.ofNat bits :: shownFrom none rest
        else shownFrom (some { bits, missing := p.missing - 1 }) rest
      else replacement :: fresh

def shown (bytes : List UInt8) : String :=
  (ofUtf8? bytes).getD (String.ofList (shownFrom none bytes))

@[simp] theorem utf8_append (a b : String) : utf8 (a ++ b) = utf8 a ++ utf8 b := by
  simp [utf8]

@[simp] theorem utf8_empty : utf8 "" = [] := rfl

end LineShell
