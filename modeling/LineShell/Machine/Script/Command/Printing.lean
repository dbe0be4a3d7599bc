import LineShell.Machine.Format.Float
import LineShell.Machine.Script.Command.Options

/-! The built-in commands that print: `echo` and `printf`. -/
namespace LineShell.Machine
namespace Printing

def isOctal (c : Char) : Bool := '0' ≤ c && c ≤ '7'

def byteOf (n : Nat) : Char := Char.ofNat (n % 256)

/-- What a backslash and the characters after it stand for, and what follows them. -/
def escape (cs : Octets) : Char × Octets :=
  match cs with
  | [] => ('\\', [])
  | c :: rest =>
    let digits := (cs.take 3).takeWhile isOctal
    if !digits.isEmpty then (byteOf (worth 8 digits), cs.drop digits.length)
    else match c with
      | '\\' => ('\\', rest)
      | 'a' => (byteOf 7, rest)
      | 'b' => (byteOf 8, rest)
      | 'f' => (byteOf 12, rest)
      | 'n' => ('\n', rest)
      | 'r' => ('\r', rest)
      | 't' => ('\t', rest)
      | 'v' => (byteOf 11, rest)
      | _ => ('\\', cs)

/-- A text with its escape sequences replaced, and whether one of them ends all printing. -/
def unescaped : Nat → Octets → Octets × Bool
  | 0, _ => ([], false)
  | n + 1, cs =>
    match cs with
    | [] => ([], false)
    | '\\' :: 'c' :: _ => ([], true)
    | '\\' :: rest =>
      let rest := match rest with
        | '0' :: d :: more => if isOctal d then d :: more else rest
        | _ => rest
      let (c, rest) := escape rest
      let (o, finished) := unescaped n rest
      (c :: o, finished)
    | c :: rest =>
      let (o, finished) := unescaped n rest
      (c :: o, finished)

def unescapedAll : List Octets → List Octets × Bool
  | [] => ([], false)
  | o :: rest =>
    let (o, finished) := unescaped (o.length + 1) o
    if finished then ([o], true)
    else
      let (os, finished) := unescapedAll rest
      (o :: os, finished)

def echo (arguments : List Octets) : Act Nat := do
  let (silent, arguments) := match arguments with
    | ['-', 'n'] :: rest => (true, rest)
    | arguments => (false, arguments)
  let (os, finished) := unescapedAll arguments
  Act.say ([' '].intercalate os)
  if !(finished || silent) then Act.say ['\n']
  return 0

/-! Printing after a format. -/

/-- The arguments that are left and the status so far. -/
structure Formatting where
  arguments : List Octets
  status : Nat := 0
  finished : Bool := false

abbrev Step := StateT Formatting Act

def blame (o why : Octets) : Step Unit := do
  (Act.warn (o ++ ": ".toList ++ why) : Act Unit)
  modify ({ · with status := 1 })

def takeArgument : Step (Option Octets) :=
  modifyGet fun f => (f.arguments.head?, { f with arguments := f.arguments.drop 1 })

def check (argument rest : Octets) (out : Bool) : Step Unit := do
  if !rest.isEmpty then
    if rest.length == argument.length then blame argument "expected numeric value".toList
    else blame argument "not completely converted".toList
  else if out then blame argument "Numerical result out of range".toList

def characterOf? : Octets → Option Nat
  | q :: rest => if q == '\'' || q == '"' then some (rest.headD (Char.ofNat 0)).toNat else none
  | [] => none

def takeSigned : Step Int := do
  match ← takeArgument with
  | none => return 0
  | some o =>
    match characterOf? o with
    | some n => return n
    | none =>
      let n := Numeral.read true o
      check o n.rest (!isWord n.value)
      return saturated n.value

def takeUnsigned : Step Nat := do
  match ← takeArgument with
  | none => return 0
  | some o =>
    match characterOf? o with
    | some n => return n
    | none =>
      let n := Numeral.read true o
      let out := Nat.pow 2 64 ≤ n.value.natAbs
      check o n.rest out
      return if out then Nat.pow 2 64 - 1 else (n.value % Int.pow 2 64).toNat

def takeFloat : Step Format.Number := do
  match ← takeArgument with
  | none => return .finite false 0 0
  | some o =>
    match characterOf? o with
    | some n => return .finite false n 0
    | none =>
      match Format.readFloat .double o with
      | some (n, rest, out) =>
        check o rest out
        return n
      | none =>
        check o o false
        return .finite false 0 0

/-- A width or a precision: from the next argument after a star, otherwise from its digits. -/
def amount (cs : Octets) : Step (Int × Octets) := do
  match cs with
  | '*' :: rest => return (Int.bmod (← takeSigned) (Nat.pow 2 32), rest)
  | cs =>
    let digits := cs.takeWhile Char.isDigit
    return (worth 10 digits, cs.drop digits.length)

def say (o : Octets) : Step Unit := (Act.say o : Act Unit)

/-- Prints an argument as a directive asks; its own text is given for complaints. -/
def conversion (d : Format.Directive) (letter : Char) (text : Octets) : Step Unit := do
  if letter == 'b' then
    let o := (← takeArgument).getD []
    let (o, finished) := unescaped (o.length + 1) o
    say (d.text o)
    modify ({ · with finished })
  else if letter == 'c' then
    say (d.padded [((← takeArgument).getD []).headD (Char.ofNat 0)])
  else if letter == 's' then say (d.text ((← takeArgument).getD []))
  else if letter == 'd' || letter == 'i' then say (d.signed (← takeSigned))
  else if "ouxX".toList.contains letter then say (d.unsigned letter (← takeUnsigned))
  else if "aAeEfFgG".toList.contains letter then say (d.float .double letter (← takeFloat))
  else Act.fail (text ++ letter :: ": invalid directive".toList)

def pass : Nat → Octets → Step Unit
  | 0, _ => return
  | n + 1, cs => do
    if (← get).finished then return
    match cs with
    | [] => return
    | '\\' :: rest =>
      let (c, rest) := escape rest
      say [c]
      pass n rest
    | '%' :: '%' :: rest =>
      say ['%']
      pass n rest
    | '%' :: rest =>
      let flags := rest.takeWhile Format.Directive.isFlag
      let (width, after) ← amount (rest.drop flags.length)
      let d := (Format.Directive.ofFlags flags).withWidth width
      let (d, after) ← match after with
        | '.' :: more => do
          let (precision, after) ← amount more
          pure (d.withPrecision precision, after)
        | after => pure (d, after)
      match after with
      | [] => Act.failText "missing format character"
      | letter :: following =>
        conversion d letter ('%' :: rest.take (rest.length - after.length))
        pass n following
    | c :: rest =>
      say [c]
      pass n rest

def passes (format : Octets) : Nat → Step Unit
  | 0 => return
  | n + 1 => do
    let before := (← get).arguments.length
    pass (format.length + 1) format
    let f ← get
    if f.finished || f.arguments.isEmpty || f.arguments.length == before then return
    else passes format n

def printf (arguments : List Octets) : Act Nat := do
  match ← Act.noOptions arguments with
  | [] => Act.failText "usage: printf format [arg ...]"
  | format :: arguments =>
    let ((), f) ← (passes format (arguments.length + 1)).run { arguments }
    return f.status

end Printing
end LineShell.Machine
