import LineShell.Machine.Format.Float
import LineShell.Machine.Format.Quoting

/-! The program that prints its arguments after a format. -/
namespace LineShell.Machine.Format

/-- What a program that prints has come to: its name, its output and its complaints, latest first,
its status, and whether nothing more is to be printed. -/
structure Printing where
  name : Octets
  out : List Octets := []
  complaints : List Octets := []
  status : Nat := 0
  finished : Bool := false

namespace Printing

def print (p : Printing) (o : Octets) : Printing := { p with out := o :: p.out }

def advise (p : Printing) (o : Octets) : Printing := { p with complaints := o :: p.complaints }

def complain (p : Printing) (o : Octets) : Printing := p.advise (p.name ++ ": ".toList ++ o)

def blame (p : Printing) (o : Octets) : Printing := { p.complain o with status := 1 }

def fail (p : Printing) (o : Octets) : Printing := { p.blame o with finished := true }

def printed (p : Printing) : Octets := p.out.reverse.flatten

end Printing

namespace Program

def isOctal (c : Char) : Bool := '0' ≤ c && c ≤ '7'

def byteOf (n : Nat) : Char := Char.ofNat (n % 256)

def missingHexadecimal : Octets := "missing hexadecimal number in escape".toList

def codePoint (n : Nat) : Octets :=
  let digits := Directive.upper (Nat.toDigits 16 n)
  let shown (letter : Char) (size : Nat) : Octets :=
    '\\' :: letter :: (List.replicate (size - digits.length) '0' ++ digits)
  if n < 128 then [Char.ofNat n] else if n < 65536 then shown 'u' 4 else shown 'U' 8

def isForbidden (n : Nat) : Bool :=
  (n ≤ 0x9F && n != 0x24 && n != 0x40 && n != 0x60) || (0xD800 ≤ n && n ≤ 0xDFFF)

def universal (p : Printing) (letter : Char) (rest : Octets) : Printing × Octets :=
  let size := if letter == 'u' then 4 else 8
  let digits := (rest.take size).takeWhile (isDigitIn 16)
  let n := worth 16 digits
  if digits.length < size then (p.fail missingHexadecimal, [])
  else if isForbidden n then
    let shown := Nat.toDigits 16 n
    (p.fail ("invalid universal character name \\".toList ++ letter ::
      (List.replicate (size - shown.length) '0' ++ shown)), [])
  else (p.print (codePoint n), rest.drop size)

/-- Prints what a backslash and the characters after it stand for.  In an argument an octal number
may have a zero before its digits. -/
def escape (inArgument : Bool) (p : Printing) : Octets → Printing × Octets
  | [] => (p.print ['\\'], [])
  | 'x' :: rest =>
    let digits := (rest.take 2).takeWhile (isDigitIn 16)
    if digits.isEmpty then (p.fail missingHexadecimal, [])
    else (p.print [byteOf (worth 16 digits)], rest.drop digits.length)
  | 'a' :: rest => (p.print [byteOf 7], rest)
  | 'b' :: rest => (p.print [byteOf 8], rest)
  | 'c' :: _ => ({ p with finished := true, status := 0 }, [])
  | 'e' :: rest => (p.print [byteOf 27], rest)
  | 'f' :: rest => (p.print [byteOf 12], rest)
  | 'n' :: rest => (p.print ['\n'], rest)
  | 'r' :: rest => (p.print ['\r'], rest)
  | 't' :: rest => (p.print ['\t'], rest)
  | 'v' :: rest => (p.print [byteOf 11], rest)
  | c :: rest =>
    if isOctal c then
      let cs := if inArgument && c == '0' then rest else c :: rest
      let digits := (cs.take 3).takeWhile isOctal
      (p.print [byteOf (worth 8 digits)], cs.drop digits.length)
    else if c == 'u' || c == 'U' then universal p c rest
    else if c == '"' || c == '\\' then (p.print [c], rest)
    else (p.print ['\\', c], rest)

/-- Prints an argument with its escape sequences replaced, in at most so many steps. -/
def escaped : Nat → Printing → Octets → Printing
  | 0, p, _ => p
  | n + 1, p, cs =>
    if p.finished then p
    else match cs with
      | [] => p
      | '\\' :: rest =>
        let (p, rest) := escape true p rest
        escaped n p rest
      | c :: rest => escaped n (p.print [c]) rest

def outOfRange : Octets := ": Numerical result out of range".toList

/-- The number of the character after a quotation mark; more characters after it are complained of. -/
def character? (p : Printing) : Octets → Option (Nat × Printing)
  | q :: c :: rest =>
    if q == '\'' || q == '"' then
      some (c.toNat, if rest.isEmpty then p else
        p.complain ("warning: ".toList ++ rest ++
          ": character(s) following character constant have been ignored".toList))
    else none
  | _ => none

def checked (p : Printing) (argument rest : Octets) (out : Bool) : Printing :=
  if out then p.blame (inMessage argument ++ outOfRange)
  else if rest.isEmpty then p
  else if rest.length == argument.length then
    p.blame (inMessage argument ++ ": expected a numeric value".toList)
  else p.blame (inMessage argument ++ ": value not completely converted".toList)

def signedArgument (p : Printing) (argument : Octets) : Int × Printing :=
  match character? p argument with
  | some (n, p) => (n, p)
  | none =>
    let n := Numeral.read true argument
    (saturated n.value, checked p argument n.rest (!isWord n.value))

/-- The numbers without a sign that a word holds; a number below zero counts from their end. -/
def unsignedArgument (p : Printing) (argument : Octets) : Nat × Printing :=
  match character? p argument with
  | some (n, p) => (n, p)
  | none =>
    let n := Numeral.read true argument
    let out := Nat.pow 2 64 ≤ n.value.natAbs
    (if out then Nat.pow 2 64 - 1 else (n.value % Int.pow 2 64).toNat, checked p argument n.rest out)

def floatArgument (p : Printing) (argument : Octets) : Number × Printing :=
  match character? p argument with
  | some (n, p) => (.finite false n 0, p)
  | none =>
    match readFloat .extended argument with
    | some (n, rest, out) => (n, checked p argument rest out)
    | none => (.finite false 0 0, checked p argument argument false)

/-- What has been read of a directive. -/
structure Reading where
  directive : Directive
  /-- The letters that may not follow any more. -/
  barred : List Char
  text : Octets
  rest : Octets
  arguments : List Octets
  printing : Printing

def barredBy (c : Char) : List Char :=
  if c == '\'' || c == 'I' then "aAceEosxX".toList
  else if c == '#' then "cdisu".toList
  else if c == '0' then "cs".toList
  else []

def largest : Int := Int.pow 2 31 - 1

/-- A number in a directive: from the next argument after a star, otherwise from its digits. -/
def amount (r : Reading) (what : String) : Option Int × Reading :=
  match r.rest with
  | '*' :: rest =>
    let r := { r with rest, text := r.text ++ ['*'] }
    match r.arguments with
    | [] => (some 0, r)
    | argument :: arguments =>
      let (n, p) := signedArgument r.printing argument
      let r := { r with arguments, printing := p }
      if largest < n || (what == "field width" && n < -largest - 1) then
        (none, { r with
          printing := p.fail ("invalid ".toList ++ what.toList ++ ": ".toList ++ inMessage argument) })
      else (some n, r)
  | cs =>
    let digits := cs.takeWhile Char.isDigit
    (some (worth 10 digits), { r with rest := cs.drop digits.length, text := r.text ++ digits })

def flags (r : Reading) : Reading :=
  let isFlag (c : Char) : Bool := Directive.isFlag c || c == '\'' || c == 'I'
  let shown := r.rest.takeWhile isFlag
  { r with
    directive := Directive.ofFlags shown, barred := shown.flatMap barredBy,
    rest := r.rest.drop shown.length, text := r.text ++ shown }

def widthOf (r : Reading) : Reading :=
  let (n, r) := amount r "field width"
  { r with directive := r.directive.withWidth (n.getD 0) }

def precisionOf (r : Reading) : Reading :=
  match r.rest with
  | '.' :: rest =>
    let (n, r) := amount { r with rest, text := r.text ++ ['.'] } "precision"
    { r with directive := r.directive.withPrecision (n.getD 0), barred := 'c' :: r.barred }
  | _ => r

def lengths (r : Reading) : Reading :=
  let shown := r.rest.takeWhile "lLhjtz".toList.contains
  { r with rest := r.rest.drop shown.length, text := r.text ++ shown }

def letters : List Char := "aAcdeEfFgGiosuxX".toList

def conversion (d : Directive) (letter : Char) (argument : Octets) (p : Printing) : Printing :=
  if letter == 'd' || letter == 'i' then
    let (n, p) := signedArgument p argument
    p.print (d.signed n)
  else if "ouxX".toList.contains letter then
    let (n, p) := unsignedArgument p argument
    p.print (d.unsigned letter n)
  else if letter == 'c' then p.print (d.padded [argument.headD (Char.ofNat 0)])
  else if letter == 's' then p.print (d.text argument)
  else
    let (n, p) := floatArgument p argument
    p.print (d.float .extended letter n)

/-- One pass over a format, in at most so many steps.  Comes back with the arguments left. -/
def pass : Nat → Octets → List Octets → Printing → Printing × List Octets
  | 0, _, arguments, p => (p, arguments)
  | n + 1, cs, arguments, p =>
    if p.finished then (p, arguments)
    else match cs with
      | [] => (p, arguments)
      | '\\' :: rest =>
        let (p, rest) := escape false p rest
        pass n rest arguments p
      | '%' :: '%' :: rest => pass n rest arguments (p.print ['%'])
      | '%' :: 'b' :: rest =>
        let p := (arguments.head?.map fun a => escaped (a.length + 1) p a).getD p
        pass n rest (arguments.drop 1) p
      | '%' :: 'q' :: rest =>
        let p := (arguments.head?.map fun a => p.print (forShell a)).getD p
        pass n rest (arguments.drop 1) p
      | '%' :: rest =>
        let r := lengths (precisionOf (widthOf (flags
          { directive := {}, barred := [], text := ['%'], rest, arguments, printing := p })))
        if r.printing.finished then (r.printing, r.arguments)
        else match r.rest with
          | letter :: rest =>
            if letters.contains letter && !r.barred.contains letter then
              pass n rest (r.arguments.drop 1)
                (conversion r.directive letter (r.arguments.headD []) r.printing)
            else (r.printing.fail (r.text ++ letter :: ": invalid conversion specification".toList),
              r.arguments)
          | [] => (r.printing.fail (r.text ++ ": invalid conversion specification".toList),
              r.arguments)
      | c :: rest => pass n rest arguments (p.print [c])

def passes (format : Octets) : Nat → List Octets → Printing → Printing × List Octets
  | 0, arguments, p => (p, arguments)
  | n + 1, arguments, p =>
    let (p, left) := pass (format.length + 1) format arguments p
    if p.finished || left.isEmpty || left.length == arguments.length then (p, left)
    else passes format n left p

def run (argv : List Octets) : Printing :=
  let p : Printing := { name := argv.headD [] }
  let arguments := match argv.drop 1 with
    | ['-', '-'] :: rest => rest
    | rest => rest
  match arguments with
  | [] =>
    (p.fail "missing operand".toList).advise
      ("Try '".toList ++ p.name ++ " --help' for more information.".toList)
  | format :: arguments =>
    let (p, left) := passes format (arguments.length + 1) arguments p
    match left with
    | extra :: _ =>
      if p.finished then p
      else p.complain ("warning: ignoring excess arguments, starting with ".toList ++ inMessage extra)
    | [] => p

end Program
end LineShell.Machine.Format
