import LineShell.Machine.Format.Directive

/-! Binary floating point: the nearest number that a format of so many bits holds, read from a text,
and its exact value laid out in decimal or in base sixteen. -/
namespace LineShell.Machine.Format

/-- How many bits a number keeps, and between which powers of two they lie. -/
structure FloatKind where
  bits : Nat
  lowest : Int
  highest : Int
  /-- The bits of a number that stand before the point in base sixteen. -/
  leadingBits : Nat

def FloatKind.double : FloatKind := ⟨53, -1074, 1023, 1⟩
def FloatKind.extended : FloatKind := ⟨64, -16445, 16383, 4⟩

/-- `finite negative m e` is `m * 2 ^ e` with its sign. -/
inductive Number
  | finite (negative : Bool) (m : Nat) (e : Int)
  | infinite (negative : Bool)
  | undefined (negative : Bool)
  deriving Repr

def roundedQuotient (num den : Nat) : Nat :=
  let q := num / den
  let twice := 2 * (num % den)
  if den < twice || (twice == den && q % 2 == 1) then q + 1 else q

def scaledBy (num den : Nat) (e : Int) : Nat × Nat :=
  if 0 ≤ e then (num * Nat.pow 2 e.toNat, den) else (num, den * Nat.pow 2 (-e).toNat)

def floorLog (num den : Nat) : Int :=
  let guess : Int := (Nat.log2 num : Int) - Nat.log2 den
  let (a, b) := scaledBy num den (-guess)
  if a < b then guess - 1 else guess

namespace FloatKind

/-- The nearest number to a quotient, and whether it lies outside the range of the format. -/
def nearest (k : FloatKind) (negative : Bool) (num den : Nat) : Number × Bool :=
  if num == 0 then (.finite negative 0 0, false)
  else
    let e := max (floorLog num den - (k.bits - 1)) k.lowest
    let (a, b) := scaledBy num den (-e)
    let m := roundedQuotient a b
    if k.highest < floorLog (max m 1) 1 + e then (.infinite negative, true)
    else (.finite negative m e, m < Nat.pow 2 (k.bits - 1) && m * b != a)

def farthest : Int := 20000

end FloatKind

def pointed (isDigit : Char → Bool) (o : Octets) : Octets × Nat × Octets :=
  let whole := o.takeWhile isDigit
  match o.drop whole.length with
  | '.' :: rest =>
    let part := rest.takeWhile isDigit
    if whole.isEmpty && part.isEmpty then ([], 0, o)
    else (whole ++ part, part.length, rest.drop part.length)
  | rest => (whole, 0, rest)

/-- The power that follows one of the given letters; without digits nothing is taken off. -/
def power (letters : List Char) (o : Octets) : Int × Octets :=
  match o with
  | c :: rest =>
    if letters.contains c then
      let (negative, digits) := Numeral.signOf rest
      let shown := digits.takeWhile Char.isDigit
      if shown.isEmpty then (0, o)
      else
        let n : Int := worth 10 shown
        (if negative then -n else n, digits.drop shown.length)
    else (0, o)
  | [] => (0, o)

def afterWord? (word : String) (o : Octets) : Option Octets :=
  if (o.take word.length).map Char.toLower == word.toList then some (o.drop word.length) else none

def isNaNChar (c : Char) : Bool := c.isAlphanum || c == '_'

def afterPayload (o : Octets) : Octets :=
  match o with
  | '(' :: rest =>
    match rest.dropWhile isNaNChar with
    | ')' :: rest => rest
    | _ => o
  | _ => o

/-- Reads a number.  Comes back with what follows it, and whether the number is out of range. -/
def readFloat (k : FloatKind) (o : Octets) : Option (Number × Octets × Bool) :=
  let (negative, cs) := Numeral.signOf (o.dropWhile isSeparator)
  match afterWord? "infinity" cs, afterWord? "inf" cs, afterWord? "nan" cs with
  | some rest, _, _ | none, some rest, _ => some (.infinite negative, rest, false)
  | none, none, some rest => some (.undefined negative, afterPayload rest, false)
  | none, none, none =>
    let hex := match cs with
      | '0' :: x :: rest => if x == 'x' || x == 'X' then some (pointed (isDigitIn 16) rest) else none
      | _ => none
    match hex with
    | some (d :: digits, places, rest) =>
      let (p, rest) := power ['p', 'P'] rest
      let e := max (-8 * FloatKind.farthest) (min (8 * FloatKind.farthest) (p - 4 * places))
      let (num, den) := scaledBy (worth 16 (d :: digits)) 1 e
      let (n, out) := k.nearest negative num den
      some (n, rest, out)
    | _ =>
      match pointed Char.isDigit cs with
      | ([], _, _) => none
      | (digits, places, rest) =>
        let (p, rest) := power ['e', 'E'] rest
        let n := worth 10 digits
        let size : Int := p - places + digits.length
        if n == 0 then some (.finite negative 0 0, rest, false)
        else if FloatKind.farthest < size then some (.infinite negative, rest, true)
        else if size < -FloatKind.farthest then some (.finite negative 0 0, rest, true)
        else
          let e := p - places
          let (n, out) :=
            if 0 ≤ e then k.nearest negative (n * Nat.pow 10 e.toNat) 1
            else k.nearest negative n (Nat.pow 10 (-e).toNat)
          some (n, rest, out)

namespace Directive

def roundedTimesTen (m : Nat) (e places : Int) : Nat :=
  let (num, den) := scaledBy m 1 e
  if 0 ≤ places then roundedQuotient (num * Nat.pow 10 places.toNat) den
  else roundedQuotient num (den * Nat.pow 10 (-places).toNat)

def withPoint (d : Directive) (places : Nat) (digits : Octets) : Octets :=
  let digits := List.replicate (places + 1 - digits.length) '0' ++ digits
  let whole := digits.take (digits.length - places)
  let part := digits.drop (digits.length - places)
  if part.isEmpty && !d.alternate then whole else whole ++ '.' :: part

def fixed (d : Directive) (places m : Nat) (e : Int) : Octets :=
  d.withPoint places (Nat.toDigits 10 (roundedTimesTen m e places))

def floorLogTen (m : Nat) (e : Int) : Int :=
  let (num, den) := scaledBy m 1 e
  let guess : Int := ((Nat.toDigits 10 num).length : Int) - (Nat.toDigits 10 den).length
  let isBelow (x : Int) : Bool :=
    if 0 ≤ x then num < den * Nat.pow 10 x.toNat else num * Nat.pow 10 (-x).toNat < den
  if isBelow guess then guess - 1 else guess

/-- The digits of a value, one before the point and so many after it, and its power of ten. -/
def scientificDigits (places m : Nat) (e : Int) : Nat × Int :=
  if m == 0 then (0, 0)
  else
    let x := floorLogTen m e
    let n := roundedTimesTen m e (places - x)
    if n == Nat.pow 10 (places + 1) then (n / 10, x + 1) else (n, x)

def exponentText (x : Int) : Octets :=
  let shown := Nat.toDigits 10 x.natAbs
  (if x < 0 then '-' else '+') :: (List.replicate (2 - shown.length) '0' ++ shown)

def scientific (d : Directive) (places m : Nat) (e : Int) : Octets :=
  let (n, x) := scientificDigits places m e
  let digits := Nat.toDigits 10 n
  let digits := if n == 0 then List.replicate (places + 1) '0' else digits
  d.withPoint places digits ++ 'e' :: exponentText x

def withoutZeros (o : Octets) : Octets :=
  if o.contains '.' then
    let o := o.reverse.dropWhile (· == '0')
    (if o.head? == some '.' then o.drop 1 else o).reverse
  else o

def general (d : Directive) (m : Nat) (e : Int) : Octets :=
  let wanted := max 1 (d.precision.getD 6)
  let (_, x) := scientificDigits (wanted - 1) m e
  if -4 ≤ x && x < wanted then
    let shown := d.fixed (wanted - 1 - x).toNat m e
    if d.alternate then shown else withoutZeros shown
  else
    let shown := d.scientific (wanted - 1) m e
    if d.alternate then shown
    else withoutZeros (shown.takeWhile (· != 'e')) ++ shown.dropWhile (· != 'e')

def hexadecimal (d : Directive) (k : FloatKind) (m : Nat) (e : Int) : Octets :=
  let size := Nat.log2 m + 1
  let (m, e) := if m == 0 then (0, 0)
    else (m * Nat.pow 2 (k.bits - size), e - (k.bits - size : Nat))
  let after := k.bits - k.leadingBits
  let places := (d.precision.getD (after / 4))
  let kept := if places < after / 4 then roundedQuotient m (Nat.pow 2 (after - 4 * places)) else
    m * Nat.pow 2 (4 * places - after)
  let digits := Nat.toDigits 16 kept
  let shown := d.withPoint places digits
  let shown := if d.precision.isNone && !d.alternate then withoutZeros shown else shown
  let x : Int := if m == 0 then 0 else e + after
  shown ++ 'p' :: (if x < 0 then '-' else '+') :: Nat.toDigits 10 x.natAbs

def float (d : Directive) (k : FloatKind) (letter : Char) (n : Number) : Octets :=
  let raise (o : Octets) : Octets := if letter.isUpper then upper o else o
  match n with
  | .infinite negative => d.padded (raise (d.signBefore negative ++ "inf".toList))
  | .undefined negative => d.padded (raise (d.signBefore negative ++ "nan".toList))
  | .finite negative m e =>
    let places := d.precision.getD 6
    let sign := d.signBefore negative
    let (before, digits) := match letter.toLower with
      | 'f' => (sign, d.fixed places m e)
      | 'e' => (sign, d.scientific places m e)
      | 'g' => (sign, d.general m e)
      | _ => (sign ++ ['0', 'x'], d.hexadecimal k m e)
    raise (d.paddedNumber d.zero before digits)

end Directive
end LineShell.Machine.Format
