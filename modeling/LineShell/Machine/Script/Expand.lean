import LineShell.Machine.Script.Arithmetic
import LineShell.Machine.Script.Glyph
import LineShell.Machine.Script.Paths

/-! What the words of a script become: values, the output of commands and sums take their places, then
the words are cut into fields and the paths that are as they say are put in. -/
namespace LineShell.Machine

/-- How a word is taken. -/
structure Manner where
  /-- It becomes any number of fields. -/
  full : Bool := false
  /-- It is a pattern. -/
  pattern : Bool := false
  quoted : Bool := false
  /-- A home directory may stand at its beginning, -/
  home : Bool := false
  /-- or after the first equals sign and after colons, -/
  homes : Bool := false
  /-- of which the equals sign has gone by. -/
  isSet : Bool := false
  /-- It stands in for a value. -/
  standsIn : Bool := false
  /-- Nothing is to come of it. -/
  idle : Bool := false

namespace Manner

def keepsMarks (m : Manner) : Bool := m.full || m.pattern

end Manner

abbrev Drafting := StateT Draft Act

namespace Drafting

def act {α : Type} (a : Act α) : Drafting α := a

def put (m : Manner) (g : Glyph) : Drafting Unit := do
  if !m.idle then
    match g with
    | .plain _ => modify (·.push g)
    | .exact c => modify (·.push (if m.keepsMarks then g else .plain c))
    | .mark => if m.keepsMarks then modify (·.push g)

def ofValue (m : Manner) (c : Char) : Glyph :=
  if isReserved c || (m.quoted && "!*?[=~:/-]\\".toList.contains c) then .exact c
  else .plain c

def putText (m : Manner) (o : Octets) : Drafting Unit := o.forM fun c => put m (ofValue m c)

def region (start : Nat) (byArgument : Bool) : Drafting Unit := modify (·.addRegion start byArgument)

def place : Drafting Nat := return (← get).size

def homes : List (String × String) :=
  [("root", "/root"), ("daemon", "/usr/sbin"), ("bin", "/bin"), ("sys", "/dev"), ("sync", "/bin"),
    ("games", "/usr/games"), ("man", "/var/cache/man"), ("lp", "/var/spool/lpd"),
    ("mail", "/var/mail"), ("news", "/var/spool/news"), ("uucp", "/var/spool/uucp"),
    ("proxy", "/bin"), ("www-data", "/var/www"), ("backup", "/var/backups"),
    ("list", "/var/list"), ("irc", "/run/ircd"), ("_apt", "/nonexistent"),
    ("nobody", "/nonexistent")]

/-- Puts in the home directory that is asked for at the beginning of a word, and comes back with what
follows. -/
def putHome (m : Manner) (parts : List Part) : Drafting (List Part) := do
  match parts with
  | .plain '~' :: rest =>
    let ends : Part → Bool
      | .plain c => c == '/' || (c == ':' && m.homes)
      | _ => false
    let name := rest.takeWhile fun p => !ends p
    match bareText? name with
    | none => return parts
    | some user =>
      let home ← if m.idle then pure (some [])
        else if user.isEmpty then act (Act.textOf? "HOME")
        else pure ((homes.find? fun h => h.1.toList == user).map (·.2.toList))
      match home with
      | none => return parts
      | some home =>
        putText { m with quoted := true } home
        return rest.drop name.length
  | parts => return parts

def putNumber (m : Manner) (n : Int) : Drafting Nat := do
  let digits := decimalText n
  putText m digits
  return digits.length

def putValue (m : Manner) (o : Option Octets) : Drafting (Option Nat) := do
  match o with
  | none => return none
  | some o =>
    putText m o
    return some o.length

def optionLetters (w : Work) : Octets :=
  (Act.optionNames.reverse.map (·.2)).filter fun c => c.isAlpha && w.options.contains c

/-- Puts in what a name stands for.  Comes back with the length of it, if it stands for anything. -/
def putParameter (m : Manner) (name : Octets) : Drafting (Option Nat) := do
  let w ← act get
  let all (separator : Option Char) : Drafting (Option Nat) := do
    let total ← w.arguments.zipIdx.foldlM (fun (total : Nat) (a : Octets × Nat) => do
      putText m a.1
      match separator with
      | some c =>
        if a.2 + 1 < w.arguments.length then
          put m (ofValue m c)
          return total + a.1.length + 1
        else return total + a.1.length
      | none => return total + a.1.length) 0
    return some total
  let nul := Char.ofNat 0
  let joined : Drafting (Option Nat) := do
    match ← act Act.separators? with
    | none => all (some ' ')
    | some ifs =>
      if m.full && !m.quoted then all (some nul) else all ifs.head?
  match name with
  | ['$'] => return some (← putNumber m w.shell)
  | ['?'] => return some (← putNumber m w.status)
  | ['#'] => return some (← putNumber m w.arguments.length)
  | ['!'] => if w.background == 0 then return none else return some (← putNumber m w.background)
  | ['-'] => putValue m (some (optionLetters w))
  | ['@'] => if m.quoted && m.full then all (some nul) else joined
  | ['*'] => joined
  | name =>
    if name.all Char.isDigit then
      let n := worth 10 name
      if n == 0 then putValue m (some w.name) else putValue m w.arguments[n - 1]?
    else putValue m (← act (Act.valueOf? name))

def notSet {α : Type} (name : Octets) (why : Octets) : Drafting α :=
  Act.fail (name ++ ": ".toList ++ why)

def settle (m : Manner) (name : Octets) (start : Nat) : Drafting Unit := do
  if m.idle then return
  if !m.quoted then region start false
  else if name == ['@'] && !(← act get).arguments.isEmpty then region start true

/-- Whether a value that is empty counts as none. -/
def refusesEmpty : Use → Bool
  | .itself e | .orElse e | .orAssign e | .orFail e | .replaced e => e
  | _ => false

mutual

/-- Puts in the parts of a word.  `own` holds between quotation marks that stand in the word itself. -/
def putParts (run : Option Script → Act Octets) :
    Nat → Manner → Bool → Option Nat → List Part → Drafting Unit
  | 0, _, _, _, _ => return
  | n + 1, m, own, begun, parts => do
    let cuts := m.standsIn && !m.quoted && !own && !m.idle
    let close : Drafting Unit := do
      match begun with
      | some start => if start < (← place) then region start false
      | none => return
    let inner : Manner := { m with quoted := m.quoted || own }
    match parts with
    | [] => close
    | .plain c :: rest =>
      let start ← place
      let begun := if cuts then some (begun.getD start) else none
      put m (.plain c)
      if m.homes && (c == ':' || (c == '=' && !m.isSet)) then
        let m := { m with isSet := m.isSet || c == '=' }
        let rest ← putHome m rest
        putParts run n m own begun rest
      else putParts run n m own begun rest
    | .exact c :: rest =>
      close
      put m (.exact c)
      putParts run n m own none rest
    | .quotes parts :: rest =>
      close
      match parts with
      | [.value ['@'] (.itself false) []] =>
        putUse run n { m with quoted := true } ['@'] (.itself false) []
      | parts =>
        put m .mark
        putParts run n m true none parts
        put m .mark
      putParts run n m own none rest
    | .value name use word :: rest =>
      close
      putUse run n inner name use word
      putParts run n m own none rest
    | .output body :: rest =>
      close
      if !m.idle then
        let start ← place
        let output ← act (run body)
        let kept := output.reverse.dropWhile (· == '\n')
        putText inner kept.reverse
        if !inner.quoted then region start false
      putParts run n m own none rest
    | .sum parts :: rest =>
      close
      let start ← place
      putParts run n { idle := m.idle } false none parts
      if !m.idle then
        let text := Glyph.text ((← get).glyphs.extract start (← place)).toList
        modify (·.cutAt start)
        let k ← act (Sum.result text)
        let _ ← putNumber inner k
        if !inner.quoted then region start false
      putParts run n m own none rest
termination_by structural n => n

def putWord (run : Option Script → Act Octets) : Nat → Manner → List Part → Drafting Unit
  | 0, _, _ => return
  | n + 1, m, word => do
    let word ← if m.home then putHome m word else pure word
    putParts run n { m with home := false } false none word
termination_by structural n => n

def putUse (run : Option Script → Act Octets) :
    Nat → Manner → Octets → Use → List Part → Drafting Unit
  | 0, _, _, _, _ => return
  | n + 1, m, name, use, word => do
    let start ← place
    let hidden := match use with
      | .length | .replaced _ => true
      | _ => false
    if use == .unclear && !m.idle then act (Act.failText "Bad substitution")
    let size ← if use == .unclear then pure none
      else putParameter { m with idle := m.idle || hidden } name
    let size := if refusesEmpty use && size == some 0 then none else size
    let unset := size.isNone
    let check : Drafting Unit := do
      if unset && !m.idle && (← act (Act.has 'u')) then notSet name "parameter not set".toList
    match use with
    | .itself _ =>
      check
      settle { m with idle := m.idle || unset } name start
    | .length =>
      check
      if !m.idle then
        let _ ← putNumber m (size.getD 0)
        settle m name start
    | .cut atEnd longest =>
      check
      let m := { m with idle := m.idle || unset }
      let middle ← place
      putWord run n { pattern := true, home := true, idle := m.idle } word
      if !m.idle then
        let gs := (← get).glyphs
        let pattern := Glyph.pattern true (gs.extract middle gs.size).toList
        let value := (gs.extract start middle).toList
        modify (·.cutAt start)
        let kept := match Pattern.cut? atEnd longest pattern (Glyph.text value) with
          | none => value
          | some k => if atEnd then value.take k else value.drop k
        kept.forM fun g => modify (·.push g)
        settle m name start
    | .orAssign _ =>
      if m.idle || !unset then
        putWord run n { home := true, idle := true } word
        settle m name start
      else
        putWord run n { home := true } word
        let text := Glyph.text ((← get).glyphs.extract start (← place)).toList
        modify (·.cutAt start)
        act (Act.setVariable name text)
        putUse run n m name (.itself false) []
    | .orFail empty =>
      if m.idle || !unset then
        putWord run n { home := true, idle := true } word
        settle m name start
      else
        putWord run n { home := true } word
        let text := Glyph.text ((← get).glyphs.extract start (← place)).toList
        notSet name (if word.isEmpty then
            "parameter not set".toList ++ (if empty then " or null".toList else [])
          else text)
    | .replaced _ =>
      putWord run n { m with home := true, standsIn := true, idle := m.idle || unset } word
      if unset then settle m name start
    | _ =>
      putWord run n { m with home := true, standsIn := true, idle := m.idle || !unset } word
      if !unset then settle m name start
termination_by structural n => n

end

end Drafting

namespace Act
open Drafting

def wordDepth : Nat := 1000000

def drafted (run : Option Script → Act Octets) (m : Manner) (phrase : Phrase) : Act Draft := do
  let ((), d) ← (putWord run wordDepth m phrase).run {}
  return d

def textOf (run : Option Script → Act Octets) (m : Manner) (phrase : Phrase) : Act Octets :=
  return Glyph.text (← drafted run m phrase).glyphs.toList

/-- The fields that a word becomes, with the paths that are as they say. -/
def fieldsOf (run : Option Script → Act Octets) (phrase : Phrase) : Act (List Octets) := do
  let d ← drafted run { full := true, home := true } phrase
  let separators := (← separators?).getD blankSeparators
  let fields := d.fields separators none
  let w ← get
  return fields.flatMap fun gs =>
    let plainly := Glyph.text gs
    if w.options.contains 'f' || !plainly.any (fun c => c == '*' || c == '?' || c == '[') then
      [plainly]
    else match Paths.matching w.kernel.tree w.here (Glyph.pattern true gs) with
      | [] => [plainly]
      | paths => paths

def isLike (run : Option Script → Act Octets) (text : Octets) (phrase : Phrase) : Act Bool := do
  let d ← drafted run { pattern := true, home := true } phrase
  return Pattern.matchesText (Glyph.pattern true d.glyphs.toList) text

end Act
end LineShell.Machine
