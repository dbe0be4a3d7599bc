import LineShell.Machine.Script.Word

/-! Reading tokens as commands. -/
namespace LineShell.Machine

/-- What is looked for in the next token: line ends to be passed over, keywords, and names that
stand for other texts. -/
structure Heed where
  newlines : Bool := false
  keywords : Bool := false
  aliases : Bool := false

namespace Heed

def command : Heed := { keywords := true, aliases := true }
def laterCommand : Heed := { newlines := true, keywords := true, aliases := true }

end Heed

def isQuoted (phrase : Phrase) : Bool :=
  phrase.any fun
    | .quotes _ => true
    | .exact c => !isReserved c
    | _ => false

/-- The characters of a word as it stands, without its quotation marks. -/
def writtenText (phrase : Phrase) : Octets :=
  let rec text : List Part → Octets
    | [] => []
    | .plain c :: rest | .exact c :: rest => c :: text rest
    | .quotes parts :: rest => text parts ++ text rest
    | _ :: rest => text rest
  text phrase

def specialCommands : List String :=
  [".", ":", "break", "continue", "eval", "exec", "exit", "export", "local", "readonly", "return",
    "set", "shift", "times", "trap", "unset"]

namespace Reading

def endsComment (c : Char) : Bool := c == '\n'

def skipComment : Reading Unit :=
  modify fun r => { r with rest := r.rest.dropWhile fun c => !endsComment c }

def follows (c : Char) : Reading Bool := do
  if (← look) == some c then
    pass
    return true
  else return false

def arrowOf (c : Char) : Reading Arrow := do
  if c == '>' then
    if ← follows '>' then return .append
    else if ← follows '|' then return .clobber
    else if ← follows '&' then return .copy
    else return .target
  else
    if ← follows '<' then return .document (← follows '-')
    else if ← follows '&' then return .copy
    else if ← follows '>' then return .both
    else return .source

def streamOf? : Phrase → Option (Option Nat)
  | [] => some none
  | [.plain c] => if c.isDigit then some (some (digitWorth c)) else none
  | _ => none

def wordOrArrow (commands : Bool → Reading (Option Script)) (n : Nat) : Reading Token := do
  let phrase ← stretch commands n { place := .bare } []
  let next ← look
  match next, streamOf? phrase with
  | some c, some stream =>
    if c == '<' || c == '>' then
      pass
      let kind ← arrowOf c
      return .arrow (stream.getD (if c == '<' then 0 else 1)) kind
    else
      modify ({ · with latest := phrase })
      return .word phrase (isQuoted phrase)
  | _, _ =>
    modify ({ · with latest := phrase })
    return .word phrase (isQuoted phrase)

def rawToken (commands : Bool → Reading (Option Script)) : Nat → Reading Token
  | 0 => tooLong
  | n + 1 => do
    match (← get).back with
    | some t =>
      modify ({ · with back := none })
      return t
    | none =>
      settleAliases
      match ← look with
      | none => return .stop
      | some c =>
        let sign (text : String) : Reading Token := do
          pass
          return .sign text
        let either (c : Char) (one two : String) : Reading Token := do
          pass
          if ← follows c then return .sign two else return .sign one
        match c with
        | ' ' | '\t' =>
          pass
          rawToken commands n
        | '#' =>
          skipComment
          rawToken commands n
        | '\n' =>
          pass
          return .newline
        | '&' => either '&' "&" "&&"
        | '|' => either '|' "|" "||"
        | ';' => either ';' ";" ";;"
        | '(' => sign "("
        | ')' => sign ")"
        | _ => wordOrArrow commands n

/-- Goes past the ends of lines, and reads the documents that begin after each. -/
def pastNewlines (commands : Bool → Reading (Option Script)) : Nat → Token → Reading Token
  | n + 1, .newline => do
    documentsDue commands n
    let t ← rawToken commands n
    pastNewlines commands n t
  | _, t => return t

def next (commands : Bool → Reading (Option Script)) : Nat → Heed → Reading Token
  | 0, _ => tooLong
  | n + 1, heed => do
    modify ({ · with again := false })
    let t ← rawToken commands n
    let t ← if heed.newlines then pastNewlines commands n t else pure t
    let again := (← get).again
    match t with
    | .word phrase false =>
      match bareText? phrase with
      | none => return t
      | some text =>
        match if heed.keywords then Token.keywords.find? fun k => k.toList == text else none with
        | some k => return .key k
        | none =>
          if heed.aliases || again then
            if ← replaceAlias text then next commands n { heed with aliases := true } else return t
          else return t
    | _ => return t

def putBack (t : Token) : Reading Unit := modify ({ · with back := some t })

def awaitDocument (mark : Phrase) (quoted strips : Bool) : Reading Nat := do
  modifyGet fun r =>
    let number := r.documents.size
    (number, { r with
      documents := r.documents.push []
      pending := r.pending ++ [{ number, mark := writtenText mark, strips, expands := !quoted }] })

def redirectOf (commands : Bool → Reading (Option Script)) (n stream : Nat) (kind : Arrow) :
    Reading Redirect := do
  modify ({ · with marking := kind == .document true || kind == .document false })
  let t ← next commands n {}
  modify ({ · with marking := false })
  match t with
  | .word phrase quoted =>
    let file (use : Kernel.Use) (guarded : Bool) : Redirect := .file stream use guarded phrase
    match kind with
    | .source => return file .read false
    | .target => return file .write true
    | .clobber => return file .write false
    | .append => return file .append false
    | .both => return file .both false
    | .document strips => return .document stream (← awaitDocument phrase quoted strips)
    | .copy =>
      match phrase with
      | [.plain '-'] => return .copy stream none
      | [.plain c] =>
        if c.isDigit then return .copy stream (some (digitWorth c))
        else return .copyNamed stream phrase
      | _ => return .copyNamed stream phrase
  | t => unexpected t

/-- Reads the redirections that come next, and puts back what follows them. -/
def redirects (commands : Bool → Reading (Option Script)) :
    Nat → Heed → List Redirect → Reading (List Redirect)
  | 0, _, _ => tooLong
  | n + 1, heed, rs => do
    match ← next commands n heed with
    | .arrow stream kind =>
      let r ← redirectOf commands n stream kind
      redirects commands n {} (r :: rs)
    | t =>
      putBack t
      return rs.reverse

/-- What a command without keywords is made of. -/
structure Simple where
  line : Nat
  settings : List Phrase := []
  words : List Phrase := []
  redirects : List Redirect := []

def simple (commands : Bool → Reading (Option Script)) : Nat → Simple → Reading (Simple × Token)
  | 0, _ => tooLong
  | n + 1, s => do
    match ← next commands n { aliases := s.words.isEmpty } with
    | .word phrase quoted =>
      if s.words.isEmpty && (setting? phrase).isSome then
        simple commands n { s with settings := phrase :: s.settings }
      else
        let _ := quoted
        simple commands n { s with words := phrase :: s.words }
    | .arrow stream kind =>
      let r ← redirectOf commands n stream kind
      simple commands n { s with redirects := r :: s.redirects }
    | t => return (s, t)

def words (commands : Bool → Reading (Option Script)) :
    Nat → List Phrase → Reading (List Phrase × Token)
  | 0, _ => tooLong
  | n + 1, ws => do
    match ← next commands n {} with
    | .word phrase _ => words commands n (phrase :: ws)
    | t => return (ws.reverse, t)

/-- Reads the patterns of an arm, each after a bar; the first has been read. -/
def patterns (commands : Bool → Reading (Option Script)) :
    Nat → List Phrase → Reading (List Phrase × Token)
  | 0, _ => tooLong
  | n + 1, ps => do
    let ps := (← get).latest :: ps
    match ← next commands n {} with
    | .sign "|" =>
      let _ ← next commands n {}
      patterns commands n ps
    | t => return (ps.reverse, t)

def joinScripts : Option Script → Script → Script
  | none, s => s
  | some first, s => .joined .next first s

def inBackground : Script → Script
  | .pipeline commands _ => .pipeline commands true
  | .redirected line body redirects =>
    .background line (body.getD (.redirected line none [])) redirects
  | s => .background 0 s []

/-- Which ends a list of commands may have: a whole script ends at the end of a line, a list of the
second kind may be empty. -/
inductive Extent
  | line
  | some
  | any
  deriving DecidableEq, Repr

mutual

/-- The commands within a text, up to its end or to a closing bracket. -/
def within : Nat → Bool → Reading (Option Script)
  | 0, _ => tooLong
  | n + 1, whole => do
    let script ← list n .any none
    if whole then return script
    else
      match ← next (within n) n {} with
      | .sign ")" =>
        let pending := (← get).pending
        modify fun r => { r with
          pending := [], documents := pending.foldl (fun ds p => ds.setIfInBounds p.number []) r.documents }
        return script
      | t => expected t "\")\""
termination_by structural n => n

def list : Nat → Extent → Option Script → Reading (Option Script)
  | 0, _, _ => tooLong
  | n + 1, extent, before => do
    let top := extent == .line
    let t ← next (within n) n { newlines := !top, keywords := true, aliases := true }
    match t with
    | .newline => do
      documentsDue (within n) n
      return before
    | .stop => do
      documentsDue (within n) n
      putBack .stop
      return before
    | t =>
      putBack t
      if extent == .any && t.endsList then return before
      else
        let script ← andOr n
        match ← next (within n) n {} with
        | .sign "&" => list n (if top then .line else .any) (joinScripts before (inBackground script))
        | .sign ";" => list n (if top then .line else .any) (joinScripts before script)
        | .newline =>
          putBack .newline
          list n (if top then .line else .any) (joinScripts before script)
        | .stop =>
          documentsDue (within n) n
          putBack .stop
          return joinScripts before script
        | t =>
          if top then unexpected t
          else
            putBack t
            return joinScripts before script
termination_by structural n => n

def andOr : Nat → Reading Script
  | 0 => tooLong
  | n + 1 => do
    let first ← pipeline n {}
    joined n first
termination_by structural n => n

def joined : Nat → Script → Reading Script
  | 0, _ => tooLong
  | n + 1, first => do
    match ← next (within n) n {} with
    | .sign "&&" =>
      let second ← pipeline n .laterCommand
      joined n (.joined .both first second)
    | .sign "||" =>
      let second ← pipeline n .laterCommand
      joined n (.joined .either first second)
    | t =>
      putBack t
      return first
termination_by structural n => n

def pipeline : Nat → Heed → Reading Script
  | 0, _ => tooLong
  | n + 1, heed => do
    let t ← next (within n) n heed
    let negated := t.isKey "!"
    if !negated then putBack t
    let first ← command n (if negated then .command else {})
    let script ← match ← next (within n) n {} with
      | .sign "|" => do
        let rest ← piped n []
        pure (.pipeline (first :: rest) false)
      | t => do
        putBack t
        pure first
    return if negated then .negated script else script
termination_by structural n => n

def piped : Nat → List Script → Reading (List Script)
  | 0, _ => tooLong
  | n + 1, scripts => do
    let script ← command n .laterCommand
    match ← next (within n) n {} with
    | .sign "|" => piped n (script :: scripts)
    | t =>
      putBack t
      return (script :: scripts).reverse
termination_by structural n => n

def keyword : Nat → Heed → String → Reading Unit
  | 0, _, _ => tooLong
  | n + 1, heed, name => do
    let t ← next (within n) n heed
    if t.isKey name then return () else expected t (Token.between name)
termination_by structural n => n

def command : Nat → Heed → Reading Script
  | 0, _ => tooLong
  | n + 1, heed => do
    let line := (← get).line
    match ← next (within n) n heed with
    | .key "if" => do
      let body ← choice n
      redirected n line body
    | .key "while" => do
      let body ← loop n true
      redirected n line body
    | .key "until" => do
      let body ← loop n false
      redirected n line body
    | .key "for" => do
      let body ← each n line
      redirected n line body
    | .key "case" => do
      let body ← cases n line
      redirected n line body
    | .key "\x7b" => do
      let body ← list n .some none
      keyword n {} "\x7d"
      let rs ← redirects (within n) n .command []
      match body with
      | some script =>
        if rs.isEmpty then return script else return .redirected line (some script) rs
      | none => return .redirected line none rs
    | .sign "(" => do
      let body ← list n .some none
      match ← next (within n) n {} with
      | .sign ")" =>
        let rs ← redirects (within n) n .command []
        return .isolated line body rs
      | t => expected t "\")\""
    | .word phrase quoted => do
      putBack (.word phrase quoted)
      simpleOrFunction n
    | .arrow stream kind => do
      putBack (.arrow stream kind)
      simpleOrFunction n
    | t => unexpected t
termination_by structural n => n

def redirected : Nat → Nat → Script → Reading Script
  | 0, _, _ => tooLong
  | n + 1, line, body => do
    let rs ← redirects (within n) n .command []
    if rs.isEmpty then return body else return .redirected line (some body) rs
termination_by structural n => n

def choice : Nat → Reading Script
  | 0 => tooLong
  | n + 1 => do
    let test ← list n .some none
    keyword n {} "then"
    let yes ← list n .some none
    match ← next (within n) n {} with
    | .key "elif" =>
      let no ← choice n
      return .choice test yes (some no)
    | .key "else" =>
      let no ← list n .some none
      keyword n {} "fi"
      return .choice test yes no
    | t =>
      putBack t
      keyword n {} "fi"
      return .choice test yes none
termination_by structural n => n

def loop : Nat → Bool → Reading Script
  | 0, _ => tooLong
  | n + 1, goal => do
    let test ← list n .some none
    keyword n {} "do"
    let body ← list n .some none
    keyword n {} "done"
    return .loop goal test body
termination_by structural n => n

def each : Nat → Nat → Reading Script
  | 0, _ => tooLong
  | n + 1, line => do
    let name ← match ← next (within n) n {} with
      | .word phrase false =>
        match bareText? phrase with
        | some name => if isName name then pure name else misread "Bad for loop variable"
        | none => misread "Bad for loop variable"
      | _ => misread "Bad for loop variable"
    let t ← next (within n) n .laterCommand
    let ws ← if t.isKey "in" then do
        let (ws, t) ← words (within n) n []
        match t with
        | .newline | .sign ";" => pure (some ws)
        | t => unexpected t
      else do
        if !t.isSign ";" then putBack t
        pure none
    keyword n .laterCommand "do"
    let body ← list n .some none
    keyword n {} "done"
    return .each line name ws body
termination_by structural n => n

def cases : Nat → Nat → Reading Script
  | 0, _ => tooLong
  | n + 1, line => do
    match ← next (within n) n {} with
    | .word phrase _ =>
      keyword n .laterCommand "in"
      let found ← arms n []
      return .cases line phrase found
    | t => expected t "word"
termination_by structural n => n

def arms : Nat → List (List Phrase × Option Script) → Reading (List (List Phrase × Option Script))
  | 0, _ => tooLong
  | n + 1, before => do
    let t ← next (within n) n { newlines := true, keywords := true }
    if t.isKey "esac" then return before.reverse
    else
      if t.isSign "(" then
        let _ ← next (within n) n {}
      let (ps, t) ← patterns (within n) n []
      if !t.isSign ")" then expected t "\")\""
      else
        let body ← list n .any none
        let t ← next (within n) n { newlines := true, keywords := true }
        if t.isKey "esac" then return ((ps, body) :: before).reverse
        else if t.isSign ";;" then arms n ((ps, body) :: before)
        else expected t "\";;\""
termination_by structural n => n

/-- Reads a command without keywords, or the definition of a function. -/
def simpleOrFunction : Nat → Reading Script
  | 0 => tooLong
  | n + 1 => do
    let line := (← get).line
    let (s, t) ← simple (within n) n { line }
    match t, s.words with
    | .sign "(", [word] =>
      if s.settings.isEmpty && s.redirects.isEmpty then
        match ← next (within n) n {} with
        | .sign ")" =>
          match bareText? word with
          | some name =>
            if !isName name || specialCommands.any fun c => c.toList == name then
              misread "Bad function name"
            else
              let body ← command n .laterCommand
              return .definition name (some body)
          | none => misread "Bad function name"
        | t => expected t "\")\""
      else
        putBack t
        return .simple s.line s.settings.reverse s.words.reverse s.redirects.reverse
    | t, _ =>
      putBack t
      return .simple s.line s.settings.reverse s.words.reverse s.redirects.reverse
termination_by structural n => n

end

/-- What is read of a script in one go: a command that may be empty, or that nothing is left. -/
inductive Portion
  | commands (script : Option Script) (last : Bool)
  | finished

def portion (n : Nat) : Reading Portion := do
  modify fun r => { r with back := none, pending := [] }
  let script ← list n .line none
  let atEnd := ((← get).back.map Token.isStop).getD false
  if atEnd && script.isNone then return .finished else return .commands script atEnd

end Reading
end LineShell.Machine
