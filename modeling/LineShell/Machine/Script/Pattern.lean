import LineShell.Text.Octets

/-! Patterns for texts and for the names of files: `*` and `?`, sets of characters in brackets, and
backslashes before characters that stand for themselves. -/
namespace LineShell.Machine
namespace Pattern

def classes : List (String × (Char → Bool)) :=
  [("alnum", Char.isAlphanum), ("cntrl", fun c => c.toNat < 32 || c.toNat == 127),
    ("lower", Char.isLower), ("space", fun c => c.toNat == 32 || (9 ≤ c.toNat && c.toNat ≤ 13)),
    ("alpha", Char.isAlpha), ("digit", Char.isDigit),
    ("print", fun c => 32 ≤ c.toNat && c.toNat < 127), ("upper", Char.isUpper),
    ("blank", fun c => c == ' ' || c == '\t'), ("graph", fun c => 32 < c.toNat && c.toNat < 127),
    ("punct", fun c => 32 < c.toNat && c.toNat < 127 && !c.isAlphanum),
    ("xdigit", fun c => c.isDigit || ('a' ≤ c && c ≤ 'f') || ('A' ≤ c && c ≤ 'F'))]

def class? (p : Octets) : Option ((Char → Bool) × Octets) :=
  classes.findSome? fun k =>
    let name := ':' :: k.1.toList ++ [':', ']']
    if name.isPrefixOf p then some (k.2, p.drop name.length) else none

def rank (c : Char) : Int := if c.toNat < 128 then c.toNat else (c.toNat : Int) - 256

def isBetween (low high c : Char) : Bool := rank low ≤ rank c && rank c ≤ rank high

/-- Looks for a character in the rest of a set: whether it is there, and what follows the set; none if
the set does not end.  A closing bracket does not end the set in first place. -/
def inSet (c : Char) : Nat → Bool → Bool → Octets → Option (Bool × Octets)
  | 0, _, _, _ => none
  | n + 1, first, found, p =>
    match p with
    | [] => none
    | d :: rest =>
      if d == ']' && !first then some (found, rest)
      else match if d == '[' then class? rest else none with
        | some (isIn, rest) => inSet c n false (found || isIn c) rest
        | none =>
          let (d, rest) := match d, rest with
            | '\\', e :: rest => (e, rest)
            | d, rest => (d, rest)
          match rest with
          | '-' :: '\\' :: e :: rest => inSet c n false (found || isBetween d e c) rest
          | '-' :: e :: rest =>
            if e == ']' then inSet c n false (found || c == d) ('-' :: e :: rest)
            else inSet c n false (found || isBetween d e c) rest
          | rest => inSet c n false (found || c == d) rest

def fits : Nat → Octets → Octets → Bool
  | 0, _, _ => false
  | n + 1, p, o =>
    match p with
    | [] => o.isEmpty
    | '\\' :: c :: rest => o.head? == some c && fits n rest (o.drop 1)
    | '?' :: rest => !o.isEmpty && fits n rest (o.drop 1)
    | '*' :: rest =>
      fits n rest o || match o with
        | [] => false
        | _ :: o => fits n ('*' :: rest) o
    | '[' :: set =>
      match o with
      | [] => false
      | c :: o =>
        let (negated, set) := match set with
          | '!' :: set => (true, set)
          | set => (false, set)
        match inSet c (set.length + 1) true false set with
        | some (found, rest) => found != negated && fits n rest o
        | none => c == '[' && fits n (p.drop 1) o
    | c :: rest => o.head? == some c && fits n rest (o.drop 1)

def matchesText (p o : Octets) : Bool := fits (p.length + o.length + 1) p o

/-- Where a text is to be cut so that its beginning or its end is as a pattern says, as short or as long
as can be. -/
def cut? (atEnd longest : Bool) (p o : Octets) : Option Nat :=
  let places := List.range (o.length + 1)
  if atEnd then
    (if longest then places else places.reverse).find? fun k => matchesText p (o.drop k)
  else (if longest then places.reverse else places).find? fun k => matchesText p (o.take k)

end Pattern
end LineShell.Machine
