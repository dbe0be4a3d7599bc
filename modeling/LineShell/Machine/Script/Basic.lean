import LineShell.Machine.Kernel

/-! Scripts of the system's shell, as they are once read. -/
namespace LineShell.Machine

/-- What is made of the value of a name.  `empty` holds when an empty value counts as none. -/
inductive Use
  | itself (empty : Bool)
  | length
  | orElse (empty : Bool)
  | orAssign (empty : Bool)
  | orFail (empty : Bool)
  | replaced (empty : Bool)
  | cut (atEnd longest : Bool)
  | unclear
  deriving DecidableEq, Repr, Inhabited

/-- How two commands, or the commands before and after a word, belong together. -/
inductive Joint
  | both
  | either
  | next
  deriving DecidableEq, Repr

mutual

/-- A part of a word.  A character that is `exact` stands for itself only. -/
inductive Part
  | plain (c : Char)
  | exact (c : Char)
  | quotes (parts : List Part)
  | value (name : Octets) (use : Use) (word : List Part)
  | output (body : Option Script)
  | sum (parts : List Part)

/-- A change of where a stream leads.  The text of a document is kept by its number. -/
inductive Redirect
  | file (stream : Nat) (use : Kernel.Use) (guarded : Bool) (path : List Part)
  | copy (stream : Nat) (source : Option Nat)
  | copyNamed (stream : Nat) (word : List Part)
  | document (stream number : Nat)

inductive Script
  | simple (line : Nat) (settings words : List (List Part)) (redirects : List Redirect)
  | pipeline (commands : List Script) (background : Bool)
  | joined (joint : Joint) (first second : Script)
  | negated (body : Script)
  | isolated (line : Nat) (body : Option Script) (redirects : List Redirect)
  | background (line : Nat) (body : Script) (redirects : List Redirect)
  | redirected (line : Nat) (body : Option Script) (redirects : List Redirect)
  | choice (test yes no : Option Script)
  | loop (goal : Bool) (test body : Option Script)
  | each (line : Nat) (name : Octets) (words : Option (List (List Part))) (body : Option Script)
  | cases (line : Nat) (word : List Part) (arms : List (List (List Part) × Option Script))
  | definition (name : Octets) (body : Option Script)

end

abbrev Phrase := List Part

def Part.self (name : Octets) : Part := .value name (.itself false) []

instance : Inhabited Part := ⟨.plain ' '⟩
instance : Inhabited Script := ⟨.simple 0 [] [] []⟩

def isReserved (c : Char) : Bool := 0x81 ≤ c.toNat && c.toNat ≤ 0x88

def isNameStart (c : Char) : Bool := c.isAlpha || c == '_'
def isNameChar (c : Char) : Bool := c.isAlphanum || c == '_'

def isName (o : Octets) : Bool := (o.head?.map isNameStart).getD false && o.all isNameChar

def bareText? : Phrase → Option Octets
  | [] => some []
  | .plain c :: rest => (bareText? rest).map (c :: ·)
  | _ => none

def setting? (phrase : Phrase) : Option (Octets × Phrase) :=
  let name := phrase.takeWhile fun
    | .plain c => isNameChar c
    | _ => false
  match bareText? name, phrase.drop name.length with
  | some text, .plain '=' :: value => if isName text then some (text, value) else none
  | _, _ => none

end LineShell.Machine
