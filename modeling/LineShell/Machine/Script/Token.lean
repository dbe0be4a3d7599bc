import LineShell.Machine.Numeral
import LineShell.Machine.Script.Basic

/-! The words and signs of which a script is made, and the place that a reader of scripts has come
to. -/
namespace LineShell.Machine

/-- The signs that let a stream lead elsewhere. -/
inductive Arrow
  | source
  | target
  | append
  | clobber
  | both
  | copy
  | document (strips : Bool)
  deriving DecidableEq, Repr

inductive Token
  | stop
  | newline
  | sign (text : String)
  | arrow (stream : Nat) (kind : Arrow)
  | word (phrase : Phrase) (quoted : Bool)
  | key (name : String)

namespace Token

def keywords : List String :=
  ["!", "case", "do", "done", "elif", "else", "esac", "fi", "for", "if", "in", "then", "until",
    "while", "\x7b", "\x7d"]

def isSign (text : String) : Token → Bool
  | sign other => other == text
  | _ => false

def isKey (name : String) : Token → Bool
  | key other => other == name
  | _ => false

def isStop : Token → Bool
  | stop => true
  | _ => false

def endsList : Token → Bool
  | stop => true
  | sign text => text == ")" || text == ";;"
  | key name => ["do", "done", "elif", "else", "esac", "fi", "then", "\x7d"].contains name
  | _ => false

def between (text : String) : String := "\"" ++ text ++ "\""

def name : Token → String
  | stop => "end of file"
  | newline => "newline"
  | sign text => between text
  | arrow _ _ => "redirection"
  | word _ _ => "word"
  | key text => between text

def phrase? : Token → Option Phrase
  | word phrase _ => some phrase
  | key text => some (text.toList.map .plain)
  | _ => none

end Token

/-- Why a script cannot be read on, on which line, and how much of it is left there. -/
structure Trouble where
  line : Nat
  reason : String
  left : Nat
  deriving DecidableEq, Repr

/-- A document whose text is still to come. -/
structure Pending where
  number : Nat
  mark : Octets
  strips : Bool
  expands : Bool

/-- The place in a script.  `back` is a token that was read ahead, `active` are the names that are
being replaced, each with the length of what follows their replacement, and in `documents` stand the
texts of the documents read so far. -/
structure Reader where
  rest : Octets
  line : Nat := 1
  aliases : List (Octets × Octets) := []
  active : List (Octets × Nat) := []
  again : Bool := false
  marking : Bool := false
  back : Option Token := none
  latest : Phrase := []
  pending : List Pending := []
  documents : Array Phrase := #[]

abbrev Reading := StateT Reader (Except Trouble)

namespace Reading

def stuck {α : Type} (reason : String) : Reading α := do
  throw { line := (← get).line, reason, left := (← get).rest.length }

def misread {α : Type} (reason : String) : Reading α := stuck ("Syntax error: " ++ reason)

def unexpected {α : Type} (t : Token) : Reading α := misread (t.name ++ " unexpected")

def expected {α : Type} (t : Token) (wanted : String) : Reading α :=
  misread (t.name ++ " unexpected (expecting " ++ wanted ++ ")")

def joinLines : Nat → Octets → Nat → Octets × Nat
  | n + 1, '\\' :: '\n' :: rest, line => joinLines n rest (line + 1)
  | _, cs, line => (cs, line)

def look : Reading (Option Char) :=
  modifyGet fun r =>
    match r.rest with
    | '\\' :: '\n' :: _ =>
      let (rest, line) := joinLines r.rest.length r.rest r.line
      (rest.head?, { r with rest, line })
    | _ => (r.rest.head?, r)

def pass : Reading Unit :=
  modify fun r => { r with
    rest := r.rest.drop 1, line := if r.rest.head? == some '\n' then r.line + 1 else r.line }

def take : Reading (Option Char) := do
  let c ← look
  pass
  return c

def takeRaw : Reading (Option Char) := do
  let c := (← get).rest.head?
  pass
  return c

def takeWhile (p : Char → Bool) : Nat → Reading Octets
  | 0 => return []
  | n + 1 => do
    match ← look with
    | some c =>
      if p c then
        pass
        return c :: (← takeWhile p n)
      else return []
    | none => return []

/-- Forgets the replaced names whose replacement has been read.  If one of them ended in a blank, the
next word may be such a name too. -/
def settleAliases : Reading Unit :=
  modify fun r =>
    if r.active.isEmpty then r
    else
      let size := r.rest.length
      let blank := (r.active.filter fun a => size ≤ a.2).any fun a =>
        match (r.aliases.lookup a.1).bind List.getLast? with
        | some c => c == ' ' || c == '\t'
        | none => false
      { r with again := r.again || blank, active := r.active.filter fun a => a.2 < size }

def replaceAlias (name : Octets) : Reading Bool :=
  modifyGet fun r =>
    match r.aliases.lookup name with
    | some text =>
      if r.active.any (·.1 == name) then (false, r)
      else (true, { r with
        active := if text.isEmpty then r.active else (name, r.rest.length) :: r.active
        rest := text ++ r.rest })
    | none => (false, r)

/-- Whether the line here is the mark that ends a document; tabs before it may be passed over. -/
def atMark (p : Pending) : Reading Bool :=
  modifyGet fun r =>
    let rest := if p.strips then r.rest.dropWhile (· == '\t') else r.rest
    if p.mark.isPrefixOf rest then
      match rest.drop p.mark.length with
      | [] => (true, { r with rest := [] })
      | '\n' :: after => (true, { r with rest := after, line := r.line + 1 })
      | _ => (false, { r with rest })
    else (false, { r with rest })

end Reading
end LineShell.Machine
