import LineShell.Text.Blank
import LineShell.Text.Octets

/-! Whole numbers at the beginning of a text: decimal, or with the base that their first digits tell,
and what is left of them in a word of 64 bits. -/
namespace LineShell.Machine

/-- A number read from the beginning of a text; without digits nothing is taken off. -/
structure Numeral where
  value : Int := 0
  hasDigits : Bool := false
  rest : Octets
  deriving DecidableEq, Repr

def digitWorth (c : Char) : Nat :=
  if c.isDigit then c.toNat - '0'.toNat
  else if 'a' ≤ c && c ≤ 'z' then c.toNat - 'a'.toNat + 10
  else if 'A' ≤ c && c ≤ 'Z' then c.toNat - 'A'.toNat + 10
  else 36

def isDigitIn (base : Nat) (c : Char) : Bool := digitWorth c < base

def worth (base : Nat) (digits : Octets) : Nat :=
  digits.foldl (fun n c => n * base + digitWorth c) 0

namespace Numeral

/-- The base that the first digits tell: sixteen after `0x`, eight after `0`, otherwise ten. -/
def baseOf : Octets → Nat × Octets
  | '0' :: x :: d :: rest =>
    if (x == 'x' || x == 'X') && isDigitIn 16 d then (16, d :: rest) else (8, '0' :: x :: d :: rest)
  | '0' :: rest => (8, '0' :: rest)
  | cs => (10, cs)

def signOf : Octets → Bool × Octets
  | '-' :: rest => (true, rest)
  | '+' :: rest => (false, rest)
  | cs => (false, cs)

def read (anyBase : Bool) (o : Octets) : Numeral :=
  let (negative, cs) := signOf (o.dropWhile isSeparator)
  let (base, cs) := if anyBase then baseOf cs else (10, cs)
  let digits := cs.takeWhile (isDigitIn base)
  if digits.isEmpty then { rest := o }
  else
    let n : Int := worth base digits
    { value := if negative then -n else n, hasDigits := true, rest := cs.drop digits.length }

end Numeral

def wordMin : Int := -Int.pow 2 63
def wordMax : Int := Int.pow 2 63 - 1

def isWord (n : Int) : Bool := decide (wordMin ≤ n) && decide (n ≤ wordMax)

def saturated (n : Int) : Int := max wordMin (min n wordMax)

def wrapped (n : Int) : Int := Int.bmod n (Nat.pow 2 64)

def decimalText (n : Int) : Octets := (toString n).toList

/-- The number that a whole text stands for, with gaps around it; none if it is none or too large. -/
def wholeNumber? (anyBase : Bool) (o : Octets) : Option Int :=
  let n := Numeral.read anyBase o
  if n.rest.all isSeparator && isWord n.value && (n.hasDigits || anyBase) then some n.value else none

end LineShell.Machine
