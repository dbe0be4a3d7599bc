import LineShell.Text.Octets

/-! Quoting: how a text is shown in a message, and how it is written so that a shell reads it back. -/
namespace LineShell.Machine.Format

def isShownAsItIs (c : Char) : Bool := 32 ≤ c.toNat && c.toNat < 127

def controlLetter? (c : Char) : Option Char :=
  match c.toNat with
  | 7 => some 'a'
  | 8 => some 'b'
  | 9 => some 't'
  | 10 => some 'n'
  | 11 => some 'v'
  | 12 => some 'f'
  | 13 => some 'r'
  | _ => none

def octalDigits (c : Char) : Octets :=
  let digits := Nat.toDigits 8 c.toNat
  List.replicate (3 - digits.length) '0' ++ digits

def escapedByte (c : Char) : Octets :=
  match controlLetter? c with
  | some letter => ['\\', letter]
  | none => '\\' :: octalDigits c

def inMessage (o : Octets) : Octets :=
  let shown := o.flatMap fun c =>
    if c == '\'' || c == '\\' then ['\\', c]
    else if isShownAsItIs c then [c]
    else escapedByte c
  '\'' :: shown ++ ['\'']

def isTelling (c : Char) : Bool := "\x09\x0a !\"$&'()*;<=>?[\\^\x60|".toList.contains c

/-- Characters that mean something to a shell at the beginning of a word. -/
def isTellingAtStart (c : Char) : Bool := c == '#' || c == '~'

def needsQuotes (o : Octets) : Bool :=
  o.isEmpty || o.any (fun c => isTelling c || !isShownAsItIs c) ||
    (o.head?.map isTellingAtStart).getD false || o == ['{'] || o == ['}']

/-- The stretches of plain characters and of others, written between single quotes and between such
quotes after a dollar sign.  `raw` holds in the second kind. -/
def quotedFrom (raw : Bool) : Octets → Octets
  | [] => ['\'']
  | c :: rest =>
    if isShownAsItIs c then
      let step := if c == '\'' then ['\'', '\\', '\'', '\''] else [c]
      if raw then
        if c == '\'' then "'\\''".toList ++ quotedFrom false rest
        else "''".toList ++ step ++ quotedFrom false rest
      else step ++ quotedFrom false rest
    else (if raw then [] else "'$'".toList) ++ escapedByte c ++ quotedFrom true rest

/-- A text written for a shell.  Double quotes do if only single ones are in the way. -/
def forShell (o : Octets) : Octets :=
  if !needsQuotes o then o
  else if o.contains '\'' && o.all (fun c => isShownAsItIs c && !"\"$\x60\\".toList.contains c)
    then '"' :: o ++ ['"']
  else '\'' :: quotedFrom false o

end LineShell.Machine.Format
