import LineShell.Proofs.Integer.Clamped

/-! The status that a text is read as.  Of the integer that the text begins with 32 bits are kept, so that
integers of 32 bits come out as they are written and those too long for 64 bits come out as one, with the
sign turned. -/
namespace LineShell

def exitCode (text : String) : Int32 := Int32.ofInt (leadingInt text)

namespace IntText
variable {t : IntText} {n : Int}

/-- The value that the text would have if there were no largest magnitude. -/
def exactValue (t : IntText) : Int := (if t.sign = ['-'] then -1 else 1) * (decimal t.digits : Nat)

theorem value_of_le (h : decimal t.digits ≤ maxMagnitude) : t.value = t.exactValue := by
  rw [value, exactValue, Nat.min_eq_left h]

theorem value_of_ge (h : maxMagnitude ≤ decimal t.digits) :
    t.value = (if t.sign = ['-'] then -1 else 1) * (maxMagnitude : Nat) := by
  rw [value, Nat.min_eq_right h]

/-- An integer as it may be written: after any gap and any number of zeros, with a sign that may be left
away unless it is a minus, and with anything behind it that does not begin with a digit. -/
structure Writes (t : IntText) (n : Int) : Prop where
  gap : ∀ c ∈ t.gap, isSeparator c = true
  sign : t.sign = ['-'] ∧ n ≤ 0 ∨ (t.sign = [] ∨ t.sign = ['+']) ∧ 0 ≤ n
  digits : ∃ zeros, t.digits = List.replicate zeros '0' ++ Nat.toDigits 10 n.natAbs
  rest : ∀ c ∈ t.rest.head?, c.isDigit = false

theorem Writes.parsed (h : t.Writes n) : t.Parsed := by
  obtain ⟨zeros, hdigits⟩ := h.digits
  refine parsed_of_ne_nil h.gap ?_ ?_ ?_ h.rest
  · rcases h.sign with ⟨hminus, -⟩ | ⟨hnil | hplus, -⟩
    · exact .inr (.inl hminus)
    · exact .inl hnil
    · exact .inr (.inr hplus)
  · intro c hc
    rw [hdigits] at hc
    rcases List.mem_append.mp hc with hzero | hdigit
    · obtain rfl := List.eq_of_mem_replicate hzero
      rfl
    · exact Nat.isDigit_of_mem_toDigits (by decide) (by decide) hdigit
  · rw [hdigits]
    exact List.append_ne_nil_of_right_ne_nil _ Nat.toDigits_ne_nil

theorem Writes.exactValue_eq (h : t.Writes n) : t.exactValue = n := by
  obtain ⟨zeros, hdigits⟩ := h.digits
  rw [exactValue, hdigits, decimal_zeros, decimal_toDigits]
  rcases h.sign with ⟨hminus, hn⟩ | ⟨hsign, hn⟩
  · rw [if_pos hminus]
    omega
  · have hplain : t.sign ≠ ['-'] := by
      rcases hsign with hnil | hplus
      · simp [hnil]
      · simp [hplus]
    rw [if_neg hplain]
    omega

theorem Parsed.toInt_exitCode (h : t.Parsed) :
    (exitCode (String.ofList t.chars)).toInt = t.value.bmod (2 ^ 32) := by
  rw [exitCode, Int32.toInt_ofInt, h.leadingInt_eq]
  rfl

theorem Writes.toInt_exitCode (h : t.Writes n) (hlow : -2 ^ 31 ≤ n) (hhigh : n < 2 ^ 31) :
    (exitCode (String.ofList t.chars)).toInt = n := by
  have hexact := h.exactValue_eq
  have hfits : decimal t.digits ≤ maxMagnitude := by
    rw [exactValue] at hexact
    rw [maxMagnitude]
    split at hexact <;> omega
  rw [h.parsed.toInt_exitCode, value_of_le hfits, hexact]
  exact Int.bmod_eq_of_le_mul_two (by omega) (by omega)

theorem Parsed.exitCode_of_no_digits (h : t.Parsed) (hnone : t.digits = []) :
    exitCode (String.ofList t.chars) = 0 := by
  rw [← Int32.toInt_inj, h.toInt_exitCode, value, hnone, decimal_nil, Nat.zero_min]
  split <;> rfl

/-- All 64 bits but the first are set in the largest magnitude, and so are the last 32. -/
theorem Parsed.exitCode_of_ge (h : t.Parsed) (hlarge : maxMagnitude ≤ decimal t.digits) :
    exitCode (String.ofList t.chars) = if t.sign = ['-'] then 1 else -1 := by
  rw [← Int32.toInt_inj, h.toInt_exitCode, value_of_ge hlarge]
  split <;> decide

end IntText

/-- How a text comes out as a status. -/
structure ComesOutAs (text : String) (code : Int32) : Prop where
  /-- The digits after the gap and the sign are cut off once at the largest magnitude, and of the integer
  they make with the sign 32 bits are kept. -/
  truncated : ∃ t : IntText, t.Parsed ∧ t.chars = text.toList ∧ code.toInt = Int.bmod
    ((if t.sign = ['-'] then -1 else 1) * (min (decimal t.digits) (2 ^ 63 - 1) : Nat)) (2 ^ 32)
  written {t : IntText} {n : Int} : t.Writes n → t.chars = text.toList →
    -2 ^ 31 ≤ n → n < 2 ^ 31 → code.toInt = n
  unwritten {t : IntText} : t.Parsed → t.chars = text.toList → t.digits = [] → code = 0
  above {t : IntText} : t.Parsed → t.chars = text.toList → t.sign ≠ ['-'] →
    2 ^ 63 - 1 ≤ decimal t.digits → code = -1
  below {t : IntText} : t.Parsed → t.chars = text.toList → t.sign = ['-'] →
    2 ^ 63 - 1 ≤ decimal t.digits → code = 1

theorem comesOutAs_exitCode (text : String) : ComesOutAs text (exitCode text) := by
  have hchars {t : IntText} (h : t.chars = text.toList) :
      exitCode text = exitCode (String.ofList t.chars) := by rw [h, String.ofList_toList]
  refine ⟨?_, ?_, ?_, ?_, ?_⟩
  · have hparts := IntText.chars_ofChars text.toList
    have hparsed := IntText.parsed_ofChars text.toList
    refine ⟨_, hparsed, hparts, ?_⟩
    rw [hchars hparts, hparsed.toInt_exitCode]
    rfl
  · intro t n hwrites htext hlow hhigh
    rw [hchars htext, hwrites.toInt_exitCode hlow hhigh]
  · intro t hparsed htext hnone
    rw [hchars htext, hparsed.exitCode_of_no_digits hnone]
  · intro t hparsed htext hsign hlarge
    rw [hchars htext, hparsed.exitCode_of_ge hlarge, if_neg hsign]
  · intro t hparsed htext hsign hlarge
    rw [hchars htext, hparsed.exitCode_of_ge hlarge, if_pos hsign]

end LineShell
