/-! Characters that leave a gap in a line.  Two classes are in use: the six separators that cut a
line into words, and the wider class of blanks that the line editor and the startup file go by. -/
namespace LineShell

def isSeparator (c : Char) : Bool :=
  c.toNat == 32 || (9 ≤ c.toNat && c.toNat ≤ 13)

/-- The Unicode property `White_Space`. -/
def isBlank (c : Char) : Bool :=
  isSeparator c || c.toNat == 0x85 || c.toNat == 0xA0 || c.toNat == 0x1680 ||
    (0x2000 ≤ c.toNat && c.toNat ≤ 0x200A) || c.toNat == 0x2028 || c.toNat == 0x2029 ||
    c.toNat == 0x202F || c.toNat == 0x205F || c.toNat == 0x3000

theorem isBlank_of_isSeparator {c : Char} (h : isSeparator c = true) : isBlank c = true := by
  simp [isBlank, h]

end LineShell
