import LineShell.Text.Unprintable

/-! Text shown between double quotes, so that every character of it can be told from the others. -/
namespace LineShell

def hexDigits (n : Nat) : String := String.ofList (Nat.toDigits 16 n)

/-- One character as it is shown between double quotes. -/
def quotedChar (c : Char) : String :=
  if c == '"' then "\\\""
  else if c == '\\' then "\\\\"
  else if c == '\n' then "\\n"
  else if c == '\t' then "\\t"
  else if c == '\r' then "\\r"
  else if c.toNat == 0 then "\\0"
  else if isUnprintable c then "\\u\x7b" ++ hexDigits c.toNat ++ "\x7d"
  else c.toString

def quoted (text : String) : String :=
  "\"" ++ String.join (text.toList.map quotedChar) ++ "\""

end LineShell
