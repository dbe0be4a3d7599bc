import LineShell.Machine.Script.Command.Options

/-! The permissions that new files are not given, written in octal or by letters. -/
namespace LineShell.Machine
namespace Mask

def octalText (mask : Nat) : Octets :=
  let digits := Nat.toDigits 8 mask
  List.replicate (4 - digits.length) '0' ++ digits

/-- The permissions that are left, by letters. -/
def lettersText (mask : Nat) : Octets :=
  let part (who : Char) (shift : Nat) : Octets :=
    let bits := mask / Nat.pow 2 shift
    let letter (c : Char) (bit : Nat) : Octets := if bits &&& bit == 0 then [c] else []
    who :: '=' :: (letter 'r' 4 ++ letter 'w' 2 ++ letter 'x' 1)
  [','].intercalate [part 'u' 6, part 'g' 3, part 'o' 0]

def everyone : Nat := 0o111

def whose (c : Char) : Nat :=
  if c == 'a' then 0o111 else if c == 'u' then 0o100 else if c == 'g' then 0o10 else 1

def isWho (c : Char) : Bool := "augo".toList.contains c

def isOperator (c : Char) : Bool := "=+-".toList.contains c

/-- What a letter stands for, given the permissions before. -/
def bitsOf (before : Nat) (c : Char) : Nat :=
  match c with
  | 'r' => 4
  | 'w' => 2
  | 'x' => 1
  | 'u' => before / 64
  | 'g' => before / 8
  | 'o' => before
  | 'X' => if before &&& everyone == 0 then 0 else 1
  | _ => 0

def all : Nat := 0o7777

/-- Reads changes of permissions, in at most so many steps.  Comes back with what could not be
read. -/
def changed (before : Nat) : Nat → Nat → Nat → Octets → Nat × Octets
  | 0, _, now, cs => (now, cs)
  | n + 1, who, now, cs =>
    if cs.isEmpty then (now, [])
    else
      let names := cs.takeWhile isWho
      let who := names.foldl (fun w c => w ||| whose c) who
      let who := if who == 0 then everyone else who
      match cs.drop names.length with
      | [] => (now, [])
      | op :: rest =>
        if !isOperator op then (now, op :: rest)
        else
          let letters := rest.takeWhile "rwxugoXs".toList.contains
          let value := ((letters.foldl (fun v c => v ||| bitsOf before c) 0) &&& 7) * who
          let now :=
            if op == '-' then now &&& (all ^^^ (value &&& all))
            else if op == '+' then now ||| value
            else value ||| (now &&& (all ^^^ (who * 7)))
          match rest.drop letters.length with
          | ',' :: rest => changed before n 0 now rest
          | c :: rest =>
            if isOperator c then changed before n who now (c :: rest) else (now, c :: rest)
          | [] => (now, [])

def umask (arguments : List Octets) : Act Nat := do
  let g ← Act.options "S" "" arguments
  let mask := (← get).mask
  match g.rest with
  | [] =>
    Act.say ((if g.has 'S' then lettersText mask else octalText mask) ++ ['\n'])
    return 0
  | o :: _ =>
    if (o.head?.map Char.isDigit).getD false then
      if o.all fun c => '0' ≤ c && c ≤ '7' then
        modify ({ · with mask := worth 8 o % 0o1000 })
        return 0
      else Act.badNumber o
    else
      let before := all ^^^ mask
      let (now, left) := changed before (o.length + 1) 0 before o
      if left.isEmpty then
        modify ({ · with mask := (all ^^^ (now &&& all)) % 0o1000 })
        return 0
      else Act.fail ("Illegal mode: ".toList ++ o)

end Mask
end LineShell.Machine
