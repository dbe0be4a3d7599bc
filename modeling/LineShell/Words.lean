import LineShell.Text.Blank

/-! Cutting a line into words.  A quote of either kind opens and closes one and the same quoted
stretch; a backslash makes the next character plain, inside such a stretch and outside it. -/
namespace LineShell

def isQuote (c : Char) : Bool := c == '"' || c == '\''

/-- How far a line has been read.  `done` holds the finished words, latest first, and `word` the
characters of the unfinished one, latest first. -/
structure Scan where
  done : List (List Char) := []
  word : List Char := []
  quoted : Bool := false
  escaped : Bool := false
  deriving DecidableEq, Repr

namespace Scan

/-- Finishes the word at hand; an empty one leaves no trace. -/
def cut (s : Scan) : Scan :=
  if s.word.isEmpty then s else { s with done := s.word.reverse :: s.done, word := [] }

def step (s : Scan) (c : Char) : Scan :=
  if s.escaped then { s with word := c :: s.word, escaped := false }
  else if c == '\\' then { s with escaped := true }
  else if isQuote c then { s with quoted := !s.quoted }
  else if isSeparator c && !s.quoted then s.cut
  else { s with word := c :: s.word }

def words (s : Scan) : List (List Char) := s.cut.done.reverse

end Scan

/-- The scan of a whole line, from the start. -/
def scan (line : List Char) : Scan := line.foldl Scan.step {}

/-- The words of a line.  An open quote or a last backslash is no error: what was read is kept. -/
def wordsOf (line : List Char) : List (List Char) := (scan line).words

def words (line : String) : List String := (wordsOf line.toList).map String.ofList

@[simp] theorem scan_nil : scan [] = {} := rfl

theorem scan_append (a b : List Char) : scan (a ++ b) = b.foldl Scan.step (scan a) := by
  simp [scan]

@[simp] theorem words_empty : words "" = [] := rfl

end LineShell
