import LineShell.Machine.Script.Work

/-! Sums: whole numbers of 64 bits, the variables that hold them, and the signs between them. -/
namespace LineShell.Machine
namespace Sum

/-- What a sum is written with. -/
inductive Mark
  | number (n : Int)
  | name (o : Octets)
  | sign (text : String)
  | stray
  | stop
  deriving DecidableEq, Repr

def signs : List String :=
  ["<<=", ">>=", "<<", ">>", "<=", ">=", "==", "!=", "&&", "||", "+=", "-=", "*=", "/=", "%=", "&=",
    "|=", "^=", "+", "-", "*", "/", "%", "<", ">", "=", "!", "&", "|", "^", "~", "?", ":", "(", ")"]

def marks : Nat → Octets → List Mark
  | 0, _ => []
  | n + 1, cs =>
    match cs with
    | [] => [.stop]
    | c :: rest =>
      if c == ' ' || c == '\t' || c == '\n' then marks n rest
      else if c.isDigit then
        let (base, cs) := Numeral.baseOf cs
        let digits := cs.takeWhile (isDigitIn base)
        .number (saturated (worth base digits)) :: marks n (cs.drop digits.length)
      else if isNameStart c then
        let name := cs.takeWhile isNameChar
        .name name :: marks n (cs.drop name.length)
      else match signs.find? fun s => s.toList.isPrefixOf cs with
        | some s => .sign s :: marks n (cs.drop s.length)
        | none => [.stray]

def level? : String → Option Nat
  | "*" | "/" | "%" => some 0
  | "+" | "-" => some 1
  | "<<" | ">>" => some 2
  | "<" | "<=" | ">" | ">=" => some 3
  | "==" | "!=" => some 4
  | "&" => some 5
  | "^" => some 6
  | "|" => some 7
  | _ => none

def Mark.level? : Mark → Option Nat
  | .sign s => Sum.level? s
  | _ => none

/-- The sign that a sign for setting a variable stands for; none for plain setting. -/
def setter? : Mark → Option (Option String)
  | .sign "=" => some none
  | .sign s =>
    if ["+=", "-=", "*=", "/=", "%=", "&=", "|=", "^=", "<<=", ">>="].contains s then
      some (some (s.dropEnd 1).toString)
    else none
  | _ => none

/-- The sum at hand, the marks not yet read, and the one read last. -/
structure Reckoning where
  text : Octets
  marks : List Mark
  last : Mark := .stop

abbrev Step := StateT Reckoning Act

def wrong {α : Type} (reason : String) : Step α := do
  let text := (← get).text
  Act.fail ("arithmetic expression: ".toList ++ reason.toList ++ ": \"".toList ++ text ++ ['"'])

/-- The next mark; at the end and at a stray character it stays the same. -/
def next : Step Mark :=
  modifyGet fun r =>
    match r.marks with
    | [] => (.stop, r)
    | .stop :: _ => (.stop, r)
    | .stray :: _ => (.stray, r)
    | m :: rest => (m, { r with marks := rest })

def setLast (m : Mark) : Step Unit := modify ({ · with last := m })

def last : Step Mark := return (← get).last

def truth (b : Bool) : Int := if b then 1 else 0

def bits (n : Int) : Nat := (n % Int.pow 2 64).toNat

def ofBits (n : Nat) : Int := wrapped n

def floatingPointException : Nat := 8

def reckon (sign : String) (a b : Int) : Step Int := do
  match sign with
  | "/" | "%" =>
    if b == 0 then wrong "division by zero"
    else if a == wordMin && b == -1 then
      Act.stop (.finished (.signal floatingPointException))
    else return if sign == "/" then Int.tdiv a b else Int.tmod a b
  | "*" => return wrapped (a * b)
  | "+" => return wrapped (a + b)
  | "-" => return wrapped (a - b)
  | "<<" => return wrapped (a * Int.pow 2 (bits b % 64))
  | ">>" => return Int.fdiv a (Int.pow 2 (bits b % 64))
  | "<" => return truth (a < b)
  | "<=" => return truth (a ≤ b)
  | ">" => return truth (b < a)
  | ">=" => return truth (b ≤ a)
  | "==" => return truth (a == b)
  | "!=" => return truth (a != b)
  | "&" => return ofBits (bits a &&& bits b)
  | "^" => return ofBits (bits a ^^^ bits b)
  | _ => return ofBits (bits a ||| bits b)

def valueOf (name : Octets) : Step Int := do
  let text := (← (Act.valueOf? name : Act (Option Octets))).getD []
  match wholeNumber? true text with
  | some n => return n
  | none => Act.badNumber text

mutual

/-- A number, a variable, a bracket, or one of them after a sign.  `idle` holds where nothing is
reckoned; the mark after the given one has been read. -/
def primary : Nat → Bool → Mark → Mark → Step Int
  | 0, _, _, _ => wrong "expecting primary"
  | n + 1, idle, m, ahead => do
    match m with
    | .number k =>
      setLast ahead
      return k
    | .name name =>
      setLast ahead
      if idle then return 0 else valueOf name
    | .sign "(" =>
      let k ← setting n idle ahead
      if (← last) != .sign ")" then wrong "expecting ')'"
      setLast (← next)
      return k
    | .sign "+" => primary n idle ahead (← next)
    | .sign "-" => return wrapped (-(← primary n idle ahead (← next)))
    | .sign "!" => return truth ((← primary n idle ahead (← next)) == 0)
    | .sign "~" => return wrapped (-(← primary n idle ahead (← next)) - 1)
    | _ => wrong "expecting primary"
termination_by structural n => n

/-- What follows a number and a sign, up to a sign that does not bind more closely. -/
def chain : Nat → Bool → Int → String → Nat → Step Int
  | 0, _, _, _, _ => wrong "expecting primary"
  | n + 1, idle, a, sign, bound => do
    let m ← next
    let b ← primary n idle m (← next)
    let own := (level? sign).getD 0
    let b ← match ← last with
      | .sign s =>
        match level? s with
        | some l => if l < own then chain n idle b s own else pure b
        | none => pure b
      | _ => pure b
    let a ← if idle then pure b else reckon sign a b
    match ← last with
    | .sign s =>
      match level? s with
      | some l => if bound ≤ l then return a else chain n idle a s bound
      | none => return a
    | _ => return a
termination_by structural n => n

def operation : Nat → Bool → Mark → Mark → Step Int
  | 0, _, _, _ => wrong "expecting primary"
  | n + 1, idle, m, ahead => do
    let a ← primary n idle m ahead
    match ← last with
    | .sign s => if (level? s).isSome then chain n idle a s 8 else return a
    | _ => return a
termination_by structural n => n

def conjunction : Nat → Bool → Mark → Mark → Step Int
  | 0, _, _, _ => wrong "expecting primary"
  | n + 1, idle, m, ahead => do
    let a ← operation n idle m ahead
    if (← last) == .sign "&&" then
      let m ← next
      let b ← conjunction n (idle || a == 0) m (← next)
      return truth (a != 0 && b != 0)
    else return a
termination_by structural n => n

def disjunction : Nat → Bool → Mark → Mark → Step Int
  | 0, _, _, _ => wrong "expecting primary"
  | n + 1, idle, m, ahead => do
    let a ← conjunction n idle m ahead
    if (← last) == .sign "||" then
      let m ← next
      let b ← disjunction n (idle || a != 0) m (← next)
      return truth (a != 0 || b != 0)
    else return a
termination_by structural n => n

def choice : Nat → Bool → Mark → Mark → Step Int
  | 0, _, _, _ => wrong "expecting primary"
  | n + 1, idle, m, ahead => do
    let a ← disjunction n idle m ahead
    if (← last) == .sign "?" then
      let b ← setting n (idle || a == 0) (← next)
      if (← last) != .sign ":" then wrong "expecting ':'"
      let m ← next
      let c ← choice n (idle || a != 0) m (← next)
      return if a != 0 then b else c
    else return a
termination_by structural n => n

def setting : Nat → Bool → Mark → Step Int
  | 0, _, _ => wrong "expecting primary"
  | n + 1, idle, m => do
    let ahead ← next
    match m, setter? ahead with
    | .name name, some sign =>
      let k ← setting n idle (← next)
      if idle then return k
      else
        let k ← match sign with
          | some s => reckon s (← valueOf name) k
          | none => pure k
        Act.setVariable name (decimalText k)
        return k
    | _, _ => choice n idle m ahead
termination_by structural n => n

end

def result (text : Octets) : Act Int := do
  let go : Step Int := do
    let k ← setting (8 * text.length + 16) false (← next)
    if (← last) != .stop then wrong "expecting EOF"
    return k
  return (← go.run { text, marks := marks (text.length + 1) text }).1

end Sum
end LineShell.Machine
