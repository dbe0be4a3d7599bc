import LineShell.Text.Utf8

/-! Texts that need not be UTF-8: sequences of bytes, each held as the character with its number. -/
namespace LineShell

abbrev Octets := List Char

namespace Octets

def ofBytes (bytes : List UInt8) : Octets := bytes.map fun b => Char.ofNat b.toNat

def toBytes (o : Octets) : List UInt8 := o.map fun c => c.toNat.toUInt8

def ofText (text : String) : Octets := ofBytes (utf8 text)

/-- The text as it is shown. -/
def toText (o : Octets) : String := shown o.toBytes

/-- Two texts are in order when they agree up to a byte that is less in the first. -/
def isBefore : Octets → Octets → Bool
  | _, [] => false
  | [], _ :: _ => true
  | c :: cs, d :: ds => c.toNat < d.toNat || (c == d && isBefore cs ds)

end Octets
end LineShell
