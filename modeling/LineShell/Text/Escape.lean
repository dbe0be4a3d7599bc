/-! Escape sequences that style a text: the escape character, a bracket, parameters, and the letter
that ends the sequence. -/
namespace LineShell

def escape : Char := Char.ofNat 27

/-- The sequence with the given parameters. -/
def styleSequence (parameters : String) : List Char :=
  escape :: '[' :: (parameters.toList ++ ['m'])

/-- A text without its styling sequences.  The first argument tells whether one is open. -/
def unstyledFrom : Bool → List Char → List Char
  | _, [] => []
  | true, c :: rest => unstyledFrom (c != 'm') rest
  | false, [c] => [c]
  | false, c :: d :: rest =>
    if c == escape && d == '[' then unstyledFrom true rest else c :: unstyledFrom false (d :: rest)

def unstyled (text : List Char) : List Char := unstyledFrom false text

end LineShell
