import LineShell.Machine.Script.Command.Options

/-! The built-in command that tells whether something holds of texts, numbers and files. -/
namespace LineShell.Machine
open Sandbox
namespace Test

inductive Kind
  | unary
  | binary
  | negation
  | joint
  | bracket
  deriving DecidableEq, Repr

def unarySigns : List String :=
  ["-r", "-w", "-x", "-e", "-f", "-d", "-c", "-b", "-p", "-u", "-g", "-k", "-s", "-t", "-z", "-n",
    "-h", "-O", "-G", "-L", "-S"]

def binarySigns : List String :=
  ["=", "!=", "<", ">", "-eq", "-ne", "-ge", "-gt", "-le", "-lt", "-nt", "-ot", "-ef"]

def kindOf? (text : String) : Option Kind :=
  if unarySigns.contains text then some .unary
  else if binarySigns.contains text then some .binary
  else if text == "!" then some .negation
  else if text == "-a" || text == "-o" then some .joint
  else if text == "(" || text == ")" then some .bracket
  else none

/-- What stands at a place among the words of a test: nothing, a word, or a sign. -/
inductive Mark
  | stop
  | word
  | sign (text : String) (kind : Kind)
  deriving DecidableEq, Repr

/-- The words of a test, and the place that has been reached. -/
structure Reading where
  words : List String
  place : Nat := 0
  mark : Mark := .word

abbrev Step := StateT Reading Act

/-- A sign for one word is a word itself if no word follows, or a sign for two. -/
def isWordHere (words : List String) (place : Nat) : Bool :=
  match words[place + 1]?, words[place + 2]? with
  | none, _ => true
  | some _, none => false
  | some next, some _ => kindOf? next == some .binary

def look (place : Nat) : Step Mark :=
  modifyGet fun r =>
    let mark := match r.words[place]? with
      | none => .stop
      | some text =>
        match kindOf? text with
        | none => .word
        | some kind =>
          if (kind == .unary && isWordHere r.words place) ||
            (text == "(" && r.words.length ≤ place + 1) then .word
          else .sign text kind
    (mark, { r with mark })

def here : Step Nat := return (← get).place

def go (place : Nat) : Step Unit := modify ({ · with place })

def wordAt? (place : Nat) : Step (Option String) := return (← get).words[place]?

def wrong {α : Type} (about why : String) : Step α :=
  Act.failText (if about.isEmpty then why else about ++ ": " ++ why)

def numberOf (text : String) : Step Int := (Act.number text.toList : Act Int)

/-- What there is to know of a file. -/
structure Facts where
  isRegular : Bool := false
  isDirectory : Bool := false
  isLink : Bool := false
  isDevice : Bool := false
  mode : Nat
  isEmpty : Bool

def Facts.ofNode : Node → Facts
  | .file bytes mode => { isRegular := true, mode, isEmpty := bytes.isEmpty }
  | .utility _ => { isRegular := true, mode := 0o755, isEmpty := false }
  | .sink => { isDevice := true, mode := 0o666, isEmpty := true }
  | .directory _ _ => { isDirectory := true, mode := 0o755, isEmpty := false }
  | .link _ => { isLink := true, mode := 0o777, isEmpty := false }

def factsOf? (path : String) (through : Bool) : Step (Option Facts) := do
  let w ← (get : Act Work)
  return match w.kernel.tree.find w.here (Octets.toText path.toList) through with
    | .ok id => (w.kernel.tree.node? id).map Facts.ofNode
    | .error _ => none

def isTerminal (_ : Int) : Bool := false

def fileHolds (sign path : String) : Step Bool := do
  match ← factsOf? path (sign != "-L" && sign != "-h") with
  | none => return false
  | some f =>
    return match sign with
      | "-r" => allows f.mode .read
      | "-w" => allows f.mode .write
      | "-x" => allows f.mode .run
      | "-f" => f.isRegular
      | "-d" => f.isDirectory
      | "-c" => f.isDevice
      | "-u" => f.mode &&& 0o4000 != 0
      | "-g" => f.mode &&& 0o2000 != 0
      | "-k" => f.mode &&& 0o1000 != 0
      | "-s" => !f.isEmpty
      | "-L" | "-h" => f.isLink
      | "-e" | "-O" | "-G" => true
      | _ => false

def areOneFile (a b : String) : Step Bool := do
  let w ← (get : Act Work)
  let find (path : String) := w.kernel.tree.find w.here (Octets.toText path.toList) true
  return match find a, find b with
    | .ok x, .ok y => x == y
    | _, _ => false

def pairHolds (sign a b : String) : Step Bool := do
  let numbers (p : Int → Int → Bool) : Step Bool := return p (← numberOf a) (← numberOf b)
  match sign with
  | "=" => return a == b
  | "!=" => return a != b
  | "<" => return Octets.isBefore a.toList b.toList
  | ">" => return Octets.isBefore b.toList a.toList
  | "-eq" => numbers (· == ·)
  | "-ne" => numbers (· != ·)
  | "-ge" => numbers fun x y => y ≤ x
  | "-gt" => numbers fun x y => y < x
  | "-le" => numbers fun x y => x ≤ y
  | "-lt" => numbers fun x y => x < y
  | "-ef" => areOneFile a b
  | _ => return false

mutual

def alternatives : Nat → Bool → Mark → Step Bool
  | 0, _, _ => return false
  | n + 1, before, m => do
    let holds ← conjuncts n true m
    let place ← here
    if (← look (place + 1)) == .sign "-o" .joint then
      go (place + 2)
      alternatives n (before || holds) (← look (place + 2))
    else return before || holds
termination_by structural n => n

def conjuncts : Nat → Bool → Mark → Step Bool
  | 0, _, _ => return false
  | n + 1, before, m => do
    let holds ← perhapsNegated n m
    let place ← here
    if (← look (place + 1)) == .sign "-a" .joint then
      go (place + 2)
      conjuncts n (before && holds) (← look (place + 2))
    else return before && holds
termination_by structural n => n

def perhapsNegated : Nat → Mark → Step Bool
  | 0, _ => return false
  | n + 1, m => do
    if m == .sign "!" .negation then
      let place ← here
      let m ← look (place + 1)
      if m != .stop then go (place + 1)
      return !(← perhapsNegated n m)
    else single n m
termination_by structural n => n

def single : Nat → Mark → Step Bool
  | 0, _ => return false
  | n + 1, m => do
    let place ← here
    match m with
    | .stop => return false
    | .sign "(" .bracket =>
      go (place + 1)
      let m ← look (place + 1)
      if m == .sign ")" .bracket then return false
      let holds ← alternatives n false m
      let place ← here
      go (place + 1)
      if (← look (place + 1)) != .sign ")" .bracket then wrong "" "closing paren expected"
      return holds
    | m =>
      match (← get).mark with
      | .sign sign .unary =>
        go (place + 1)
        match ← wordAt? (place + 1) with
        | none => wrong sign "argument expected"
        | some text =>
          let _ := m
          match sign with
          | "-z" => return text.isEmpty
          | "-n" => return !text.isEmpty
          | "-t" => return isTerminal (← numberOf text)
          | sign => fileHolds sign text
      | _ =>
        match ← look (place + 1) with
        | .sign sign .binary =>
          go (place + 2)
          match ← wordAt? place, ← wordAt? (place + 2) with
          | some a, some b => pairHolds sign a b
          | _, _ => wrong sign "argument expected"
        | _ => return ((← wordAt? place).map fun t => !t.isEmpty).getD false
termination_by structural n => n

end

/-- Whether the words hold, or do not.  Up to four words are read by their number first. -/
def holds (words : List String) (negated : Bool) : Nat → Act Bool
  | 0 => return negated
  | n + 1 => do
    let evaluate (words : List String) (start : Option Mark) : Act Bool := do
      let go : Step Bool := do
        let m ← match start with
          | some m => pure m
          | none => look 0
        let holds ← alternatives (4 * words.length + 8) false m
        let place ← here
        match ← wordAt? place, ← wordAt? (place + 1) with
        | some text, some _ => wrong text "unexpected operator"
        | _, _ => return holds
      let (holds, _) ← go.run { words }
      return holds != negated
    let bracketed := words.head? == some "(" && words.getLast? == some ")"
    match words with
    | [] => return negated
    | [_, sign, _] =>
      if kindOf? sign == some .binary then evaluate words (some .word)
      else if bracketed then evaluate (words.drop 1).dropLast none
      else if words.head? == some "!" then holds (words.drop 1) true n
      else evaluate words none
    | [_, _, _, _] =>
      if bracketed then evaluate (words.drop 1).dropLast none
      else if words.head? == some "!" then holds (words.drop 1) true n
      else evaluate words none
    | words => evaluate words none

/-- The test, under either of its names. -/
def run (name : Octets) (arguments : List Octets) : Act Nat := do
  if name.head? == some '[' && arguments.getLast? != some [']'] then Act.failText "missing ]"
  let arguments := if name.head? == some '[' then arguments.dropLast else arguments
  let words := arguments.map fun o => String.ofList o
  return if ← holds words false (words.length + 1) then 0 else 1

end Test
end LineShell.Machine
