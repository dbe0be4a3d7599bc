import LineShell.Words

/-! The ways of writing words as a line, as a grammar. -/
namespace LineShell

/-- What a word is written with: a character as it is, a character after a backslash, and a quote
that opens or closes a quoted stretch. -/
inductive Stroke
  | plain (c : Char)
  | escaped (c : Char)
  | mark (c : Char)
  deriving DecidableEq, Repr

namespace Stroke

def written : Stroke → List Char
  | plain c => [c]
  | escaped c => ['\\', c]
  | mark c => [c]

def meant : Stroke → List Char
  | plain c | escaped c => [c]
  | mark _ => []

/-- Whether strokes are well placed where a quoted stretch is open or not: what is plain would not
be taken for something else, and every quoted stretch is closed in the end. -/
def Placed : Bool → List Stroke → Prop
  | quoted, [] => quoted = false
  | quoted, plain c :: rest =>
    c ≠ '\\' ∧ isQuote c = false ∧ (isSeparator c = true → quoted = true) ∧ Placed quoted rest
  | quoted, escaped _ :: rest => Placed quoted rest
  | quoted, mark c :: rest => isQuote c = true ∧ Placed (!quoted) rest

end Stroke

def Writes (word text : List Char) : Prop :=
  ∃ strokes : List Stroke, Stroke.Placed false strokes ∧
    strokes.flatMap Stroke.meant = word ∧ strokes.flatMap Stroke.written = text

def AreSeparators (gap : List Char) : Prop := ∀ c ∈ gap, isSeparator c = true

/-- The text is a way of writing words one after another: separators stand between them, and may
stand before the first and after the last. -/
inductive WritesAll : List (List Char) → List Char → Prop
  | gap {gap : List Char} (hgap : AreSeparators gap) : WritesAll [] gap
  | last {gap word text after : List Char} (hgap : AreSeparators gap) (hword : Writes word text)
      (hafter : AreSeparators after) : WritesAll [word] (gap ++ text ++ after)
  | more {gap word text rest : List Char} {c : Char} {words : List (List Char)}
      (hgap : AreSeparators gap) (hword : Writes word text) (hc : isSeparator c = true)
      (hrest : WritesAll words rest) : WritesAll (word :: words) (gap ++ text ++ c :: rest)

end LineShell
