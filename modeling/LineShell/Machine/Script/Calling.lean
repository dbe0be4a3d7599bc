import LineShell.Machine.Script.Source
import LineShell.Machine.Script.Command.Variables
import LineShell.Machine.Script.Command.Names

/-! From the words of a command to what it calls. -/
namespace LineShell.Machine
namespace Act

/-- What has been made of the words of a command so far: its fields, the words still to be replaced, and
what its name stands for. -/
structure Calling where
  fields : List Octets := []
  words : List Phrase
  meaning : Meaning := .builtin
  /-- Whether the first built-in command is special. -/
  special : Option Bool := none
  settings : Bool := false
  functions : Bool := true
  /-- Where programs are looked for, if not in the usual place. -/
  path : Option Octets := none

namespace Calling

def name (c : Calling) : Octets := c.fields.headD []

def isBuiltin (c : Calling) : Bool :=
  match c.meaning with
  | .builtin => true
  | _ => false

end Calling

def replaceWords (run : Option Script → Act Octets) : List Phrase → List Octets →
    Act (List Octets × List Phrase)
  | [], fields => return (fields, [])
  | word :: words, fields => do
    match ← fieldsOf run word with
    | [] => replaceWords run words fields
    | more => return (fields ++ more, words)

def replacedTo (run : Option Script → Act Octets) (k : Nat) (c : Calling) : Act Calling := do
  if c.fields.length ≤ k then
    let (fields, words) ← replaceWords run c.words c.fields
    return { c with fields, words }
  else return c

/-- Goes past the options of `command`, and comes back with whether it is to call what follows them
rather than to tell about names. -/
def pastOptions (run : Option Script → Act Octets) : Nat → Nat → Calling → Act (Bool × Calling)
  | 0, _, c => return (false, c)
  | n + 1, k, c => do
    let c ← replacedTo run k c
    match c.fields[k]? with
    | none => return (false, c)
    | some ['-', '-'] => do
      let c ← replacedTo run (k + 1) c
      if c.fields.length ≤ k + 1 then return (false, c)
      else return (true, { c with fields := c.fields.drop (k + 1) })
    | some ('-' :: letter :: letters) =>
      if (letter :: letters).all (· == 'p') then
        pastOptions run n (k + 1) { c with path := some defaultPath }
      else return (false, c)
    | some _ => return (true, { c with fields := c.fields.drop k })

def resolve (run : Option Script → Act Octets) : Nat → Calling → Act Calling
  | 0, c => return c
  | n + 1, c => do
    let meaning ← if c.name.contains '/' then pure (.program none)
      else do
        let w ← get
        match if c.functions then w.functions.lookup c.name else none with
        | some body => pure (.function body)
        | none => pure (if Machine.isBuiltin c.name then .builtin else .unknown)
    let c := { c with meaning }
    if !c.isBuiltin then return c
    else
      let c := { c with
        settings := takesSettings c.name
        special := c.special.or (some (isSpecialCommand c.name)) }
      if c.name != "command".toList then return c
      else match ← pastOptions run (c.words.length + c.fields.length + 8) 1 c with
        | (false, c) => return c
        | (true, next) => resolve run n { next with functions := false }

def replaceRest (run : Option Script → Act Octets) (c : Calling) : Act (List Octets) := do
  let more ← c.words.mapM fun word => do
    if c.settings && (setting? word).isSome then
      return [← textOf run { homes := true } word]
    else fieldsOf run word
  return c.fields ++ more.flatten

def trace (run : Option Script → Act Octets) (opening : Option Nat) (words : List Octets) :
    Act Unit := do
  let w ← get
  if w.options.contains 'x' && !w.tracing then
    modify ({ · with tracing := true })
    let text ← expanded run ((← textOf? "PS4").getD [])
    modify ({ · with tracing := false })
    match opening with
    | some id =>
      let _ ← writeTo id (text ++ [' '].intercalate words ++ ['\n'])
    | none => return

end Act
end LineShell.Machine
