import LineShell.Words

/-! The words of a line without a scan: what a character does is said of its position alone, by the
backslashes right before it and the quotes anywhere before it. -/
namespace LineShell.Positional

/-- Whether the run of backslashes right before a position has odd length. -/
def isEscaped (text : List Char) (i : Nat) : Bool :=
  ((text.take i).reverse.takeWhile (· == '\\')).length % 2 == 1

def holdsAt (p : Char → Bool) (text : List Char) (i : Nat) : Bool := text[i]?.any p

def isMark (text : List Char) (i : Nat) : Bool := holdsAt isQuote text i && !isEscaped text i

/-- Whether an odd number of such quotes stands before a position. -/
def isQuoted (text : List Char) (i : Nat) : Bool := (List.range i).countP (isMark text) % 2 == 1

def isCut (text : List Char) (i : Nat) : Bool :=
  holdsAt isSeparator text i && !isEscaped text i && !isQuoted text i

/-- Quotes and backslashes that are not escaped are no part of a word. -/
def isDropped (text : List Char) (i : Nat) : Bool :=
  !isEscaped text i && holdsAt (fun c => isQuote c || c == '\\') text i

/-- The positions of a line, cut apart where a separator counts. -/
def pieces (text : List Char) : List (List Nat) :=
  (List.range text.length).splitOnP (isCut text)

def kept (text : List Char) (piece : List Nat) : List Char :=
  (piece.filter fun i => !isDropped text i).filterMap fun i => text[i]?

def wordsOf (text : List Char) : List (List Char) :=
  ((pieces text).map (kept text)).filter fun word => !word.isEmpty

end LineShell.Positional
