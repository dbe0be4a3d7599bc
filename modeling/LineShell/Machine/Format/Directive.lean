import LineShell.Machine.Numeral

/-! A directive of a format: its flags, width and precision, and how whole numbers and texts are laid
out after it. -/
namespace LineShell.Machine.Format

structure Directive where
  left : Bool := false
  plus : Bool := false
  space : Bool := false
  alternate : Bool := false
  zero : Bool := false
  width : Nat := 0
  precision : Option Nat := none
  deriving Repr

namespace Directive

def isFlag (c : Char) : Bool := ['-', '+', ' ', '#', '0'].contains c

def ofFlags (flags : Octets) : Directive :=
  { left := flags.contains '-', plus := flags.contains '+', space := flags.contains ' ',
    alternate := flags.contains '#', zero := flags.contains '0' }

def withWidth (d : Directive) (n : Int) : Directive :=
  { d with left := d.left || n < 0, width := n.natAbs }

def withPrecision (d : Directive) (n : Int) : Directive :=
  { d with precision := if n < 0 then none else some n.toNat }

def fill (d : Directive) (size : Nat) (c : Char) : Octets := List.replicate (d.width - size) c

def padded (d : Directive) (o : Octets) : Octets :=
  if d.left then o ++ d.fill o.length ' ' else d.fill o.length ' ' ++ o

/-- A number, with what stands before its digits, brought up to the width. -/
def paddedNumber (d : Directive) (zeros : Bool) (before digits : Octets) : Octets :=
  if zeros && !d.left then before ++ d.fill (before.length + digits.length) '0' ++ digits
  else d.padded (before ++ digits)

def text (d : Directive) (o : Octets) : Octets := d.padded (o.take (d.precision.getD o.length))

def signBefore (d : Directive) (negative : Bool) : Octets :=
  if negative then ['-'] else if d.plus then ['+'] else if d.space then [' '] else []

/-- The digits of a number, as many as the precision asks for; zero may have none. -/
def digits (d : Directive) (base n : Nat) : Octets :=
  let shown := if n == 0 then (if d.precision == some 0 then [] else ['0']) else Nat.toDigits base n
  List.replicate (d.precision.getD 0 - shown.length) '0' ++ shown

def signed (d : Directive) (n : Int) : Octets :=
  d.paddedNumber (d.zero && d.precision.isNone) (d.signBefore (n < 0)) (d.digits 10 n.natAbs)

def upper (o : Octets) : Octets := o.map Char.toUpper

/-- A number without a sign, in base eight, ten or sixteen by its letter. -/
def unsigned (d : Directive) (letter : Char) (n : Nat) : Octets :=
  let zeros := d.zero && d.precision.isNone
  if letter == 'o' then
    let shown := d.digits 8 n
    let shown := if d.alternate && shown.head? != some '0' then '0' :: shown else shown
    d.paddedNumber zeros [] shown
  else if letter == 'u' then d.paddedNumber zeros [] (d.digits 10 n)
  else
    let before := if d.alternate && n != 0 then ['0', 'x'] else []
    let shown := d.paddedNumber zeros before (d.digits 16 n)
    if letter == 'X' then upper shown else shown

end Directive
end LineShell.Machine.Format
