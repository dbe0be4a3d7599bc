import LineShell.Text.Blank

/-! The integer that a text begins with, read leniently: separators, one sign, then as many decimal
digits as follow.  A text without digits reads as zero. -/
namespace LineShell

/-- The largest magnitude that is told apart, `2 ^ 63 - 1`. -/
def maxMagnitude : Nat := 9223372036854775807

def digitValue (c : Char) : Nat := c.toNat - '0'.toNat

/-- The value of a run of digits, where everything above `maxMagnitude` counts as `maxMagnitude`. -/
def magnitude (digits : List Char) : Nat :=
  digits.foldl (fun m c => min (m * 10 + digitValue c) maxMagnitude) 0

/-- The exact value of a run of digits. -/
def decimal (digits : List Char) : Nat :=
  digits.foldl (fun m c => m * 10 + digitValue c) 0

def leadingDigits (text : List Char) : List Char := text.takeWhile Char.isDigit

def leadingInt (text : String) : Int :=
  match text.toList.dropWhile isSeparator with
  | '-' :: rest => -magnitude (leadingDigits rest)
  | '+' :: rest => magnitude (leadingDigits rest)
  | rest => magnitude (leadingDigits rest)

@[simp] theorem magnitude_nil : magnitude [] = 0 := rfl
@[simp] theorem decimal_nil : decimal [] = 0 := rfl

end LineShell
