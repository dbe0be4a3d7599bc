import LineShell.Builtin
import LineShell.Text.Blank
import LineShell.Text.Runs

/-! Coloring the line that is being typed.  Some of its words are shown in styles, and nothing else is
changed. -/
namespace LineShell

inductive Color
  | cyan
  | green
  | yellow
  | rgb (red green blue : Nat)
  deriving DecidableEq, Repr

structure Style where
  foreground : Color
  bold : Bool := false
  deriving DecidableEq, Repr

namespace Style

def builtin : Style := { foreground := .cyan, bold := true }

def program : Style := { foreground := .green, bold := true }

def option : Style := { foreground := .yellow }

def hint : Style := { foreground := .rgb 128 128 128 }

end Style

/-- The level of colors that a terminal supports, if it supports any, and the form in which a text is
shown in a style. -/
structure Painter (κ : Type) where
  support : Option κ
  paint : Style → List Char → List Char

/-- A stretch of text in a style, or plain. -/
abbrev Stretch := Option Style × List Char

def commandStyle (word : List Char) : Style :=
  if (Builtin.ofName? (String.ofList word)).isSome then .builtin else .program

def argumentStyle? (word : List Char) : Option Style :=
  if word.head? = some '-' then some .option else none

/-- The runs of a line with their styles.  `first` holds until a word has been met. -/
def styled (first : Bool) : List (Bool × List Char) → List Stretch
  | [] => []
  | (false, blanks) :: rest => (none, blanks) :: styled first rest
  | (true, word) :: rest =>
    (if first then some (commandStyle word) else argumentStyle? word, word) :: styled false rest

def stretches (line : List Char) : List Stretch := styled true (runs (fun c => !isBlank c) line)

def render (paint : Style → List Char → List Char) (stretches : List Stretch) : List Char :=
  stretches.flatMap fun s => (s.1.map (paint · s.2)).getD s.2

variable {κ : Type}

/-- The line as it is shown. -/
def highlighted (p : Painter κ) (line : String) : String :=
  match p.support with
  | none => line
  | some _ => String.ofList (render p.paint (stretches line.toList))

/-- A hint as it is shown after the line. -/
def highlightedHint (p : Painter κ) (hint : String) : String :=
  match p.support with
  | none => hint
  | some _ => String.ofList (p.paint .hint hint.toList)

end LineShell
