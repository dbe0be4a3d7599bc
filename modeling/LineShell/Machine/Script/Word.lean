import LineShell.Machine.Script.Token

/-! Reading the words of a script, with what is quoted in them and what is to be replaced. -/
namespace LineShell.Machine

/-- Where a stretch of a word stands: outside of quotation marks or between them, in the braces
around a name, in a document, or in a sum that so many brackets are open in. -/
inductive Place
  | bare
  | braces
  | doubled (inBraces : Bool)
  | doubledBraces
  | document
  | sum (depth : Nat)
  deriving DecidableEq, Repr

namespace Place

def isBare : Place → Bool
  | bare | braces => true
  | _ => false

def inner : Place → Place
  | bare | braces => braces
  | _ => doubledBraces

def frees (inDocument : Bool) : Place → Char → Bool
  | place, c =>
    c == '\\' || c == '\x60' || c == '$' ||
      match place with
      | doubled inBraces => c == '"' || (c == '}' && inBraces)
      | doubledBraces => c == '"' || c == '}'
      | document => false
      | _ => c == '"' && !inDocument

end Place

/-- Where a stretch stands, and the document that it stands in. -/
structure Setting where
  place : Place
  document : Option Pending := none

namespace Reading

def endsWord (c : Char) : Bool := "<>();&| \t\n".toList.contains c

/-- A character that is quoted.  Only those that could be taken for more are marked as exact. -/
def quoted (c : Char) : Part :=
  if "!*?[=~:/-]\\".toList.contains c || isReserved c then .exact c else .plain c

def unquoted (c : Char) : Part := if isReserved c then .exact c else .plain c

def inPlace (place : Place) (c : Char) : Part :=
  match place with
  | .bare | .braces | .sum _ => unquoted c
  | _ => quoted c

def tooLong {α : Type} : Reading α := stuck "Out of space"

def cutOff {α : Type} (s : Setting) : Reading α :=
  match s.place with
  | .sum _ => misread "Missing '))'"
  | .braces => misread "Missing '\x7d'"
  | _ => if s.document.isSome then misread "Missing '\x7d'" else misread "Unterminated quoted string"

def atEnd (s : Setting) (parts : List Part) : Reading (List Part) :=
  match s.place with
  | .bare | .document => return parts.reverse
  | _ => cutOff s

def single : Nat → List Part → Reading (List Part)
  | 0, _ => tooLong
  | n + 1, parts => do
    match ← takeRaw with
    | none => misread "Unterminated quoted string"
    | some c => if c == '\'' then return parts.reverse else single n (quoted c :: parts)

def lineBegins (s : Setting) : Reading Bool := do
  match s.document with
  | none => return false
  | some p =>
    let _ ← look
    atMark p

def oldCommand (inDoubled : Bool) : Nat → Octets → Reading Octets
  | 0, _ => tooLong
  | n + 1, cs => do
    match ← take with
    | none => misread "EOF in backquote substitution"
    | some c =>
      if c == '\x60' then return cs.reverse
      else if c == '\\' then
        match ← takeRaw with
        | none => misread "EOF in backquote substitution"
        | some d =>
          if d == '\\' || d == '\x60' || d == '$' || (d == '"' && inDoubled) then
            oldCommand inDoubled n (d :: cs)
          else oldCommand inDoubled n (d :: '\\' :: cs)
      else oldCommand inDoubled n (c :: cs)

def isSpecialName (c : Char) : Bool := "#?$!-*@".toList.contains c

def useOf : Reading Use := do
  let plainUse (empty : Bool) : Reading Use := do
    match ← take with
    | some '}' => return .itself empty
    | some '-' => return .orElse empty
    | some '+' => return .replaced empty
    | some '?' => return .orFail empty
    | some '=' => return .orAssign empty
    | _ => return .unclear
  let cutUse (c : Char) : Reading Use := do
    pass
    if (← look) == some c then
      pass
      return .cut (c == '%') true
    else return .cut (c == '%') false
  match ← look with
  | some ':' => do
    pass
    plainUse true
  | some '%' => cutUse '%'
  | some '#' => cutUse '#'
  | none => return .unclear
  | _ => plainUse false

def bracedName : Reading (Octets × Use) := do
  let length (name : Octets) : Reading (Octets × Use) := do
    if (← look) == some '}' then return (name, .length) else return (name, .unclear)
  let size := (← get).rest.length
  match ← look with
  | none => return ([], .unclear)
  | some c =>
    if isNameStart c then
      let name ← takeWhile isNameChar size
      return (name, ← useOf)
    else if c.isDigit then
      let name ← takeWhile Char.isDigit size
      return (name, ← useOf)
    else if c == '}' then return ([], .unclear)
    else
      pass
      if c != '#' then
        if isSpecialName c then return ([c], ← useOf) else return ([], .unclear)
      else
        match ← look with
        | none => return (['#'], ← useOf)
        | some d =>
          if isNameStart d then length (← takeWhile isNameChar size)
          else if d.isDigit then length (← takeWhile Char.isDigit size)
          else
            let before ← get
            pass
            if d != '}' && (← look) == some '}' then
              if isSpecialName d then return ([d], .length) else return ([], .unclear)
            else
              set before
              return (['#'], ← useOf)

/-- Reads a stretch of a word to its end.  The commands in it are read by `commands`, which is told
whether the whole text is to be read or what stands before a closing bracket. -/
def stretch (commands : Bool → Reading (Option Script)) :
    Nat → Setting → List Part → Reading (List Part)
  | 0, _, _ => tooLong
  | n + 1, s, parts => do
    match ← look with
    | none => atEnd s parts
    | some c =>
      if s.place == .bare && endsWord c then return parts.reverse
      else
        pass
        let go (more : List Part) : Reading (List Part) := stretch commands n s (more ++ parts)
        match c with
        | '\n' =>
          if ← lineBegins s then atEnd s (.plain '\n' :: parts) else go [.plain '\n']
        | '\\' =>
          match ← takeRaw with
          | none => go [.exact '\\']
          | some d =>
            if s.place.isBare || s.place.frees s.document.isSome d then go [.exact d]
            else go [.exact d, .exact '\\']
        | '\'' =>
          if s.place.isBare then
            let inside ← single n []
            go [.quotes inside]
          else go [quoted '\'']
        | '"' =>
          match s.place with
          | .bare =>
            let inside ← stretch commands n { s with place := .doubled false } []
            go [.quotes inside]
          | .braces =>
            let inside ← stretch commands n { s with place := .doubled true } []
            go [.quotes inside]
          | .doubledBraces =>
            let inside ← stretch commands n { s with place := .doubled true } []
            if s.document.isSome then go inside.reverse else go [.quotes inside]
          | .doubled _ => return parts.reverse
          | _ => go [quoted '"']
        | '}' =>
          match s.place with
          | .braces | .doubledBraces => return parts.reverse
          | _ => go [.plain '}']
        | '(' =>
          match s.place with
          | .sum depth =>
            stretch commands n { s with place := .sum (depth + 1) } (.plain '(' :: parts)
          | _ => go [.plain '(']
        | ')' =>
          match s.place with
          | .sum 0 =>
            if (← look) == some ')' then
              pass
              return parts.reverse
            else go [.plain ')']
          | .sum (depth + 1) =>
            stretch commands n { s with place := .sum depth } (.plain ')' :: parts)
          | _ => go [.plain ')']
        | '\x60' =>
          if (← get).marking then go [.plain '\x60']
          else
            let text ← oldCommand (!s.place.isBare) n []
            let outer ← get
            set { outer with
              rest := text, line := 1, active := [], again := false, pending := [] }
            let script ← commands true
            let inner ← get
            set { outer with documents := inner.documents }
            go [.output script]
        | '$' =>
          let marking := (← get).marking
          match ← look with
          | none => go [.plain '$']
          | some d =>
            if marking then go [.plain '$']
            else if d == '(' then
              pass
              if (← look) == some '(' then
                pass
                let inside ← stretch commands n { s with place := .sum 0 } []
                go [.sum inside]
              else
                let pending := (← get).pending
                modify ({ · with pending := [] })
                let script ← commands false
                modify ({ · with pending })
                go [.output script]
            else if d == '{' then
              pass
              let (name, use) ← bracedName
              match use with
              | .itself _ => go [.value name use []]
              | .cut _ _ =>
                let word ← stretch commands n { s with place := .braces } []
                go [.value name use word]
              | _ =>
                let word ← stretch commands n { s with place := s.place.inner } []
                go [.value name use word]
            else if isNameStart d then
              let name ← takeWhile isNameChar (← get).rest.length
              go [.self name]
            else if d.isDigit || isSpecialName d then
              pass
              go [.self [d]]
            else go [.plain '$']
        | c => go [inPlace s.place c]

/-- Reads the text of a document, in which nothing is to be replaced unless its mark says so. -/
def document (commands : Bool → Reading (Option Script)) (n : Nat) (p : Pending) :
    Reading Unit := do
  let s : Setting := { place := .document, document := some p }
  let rec exactly : Nat → List Part → Reading (List Part)
    | 0, _ => tooLong
    | n + 1, parts => do
      match ← takeRaw with
      | none => return parts.reverse
      | some c =>
        if c == '\n' then
          if ← atMark p then return (.plain c :: parts).reverse else exactly n (.plain c :: parts)
        else exactly n (.plain c :: parts)
  let parts ← if p.expands then do
      if ← lineBegins s then pure [] else stretch commands n s []
    else if ← atMark p then pure []
    else exactly n []
  modify fun r => { r with documents := r.documents.setIfInBounds p.number parts }

def documentsDue (commands : Bool → Reading (Option Script)) (n : Nat) : Reading Unit := do
  let pending := (← get).pending
  modify ({ · with pending := [] })
  pending.forM (document commands n)

end Reading
end LineShell.Machine
