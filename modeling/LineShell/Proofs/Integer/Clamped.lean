import LineShell.LeadingInt
import LineShell.Proofs.Text.Border
import Mathlib

/-! The integer that a text begins with is the exact value of the digits it is read from, cut off
once at the largest magnitude, whatever the digits are and whatever follows them. -/
namespace LineShell

/-! Cutting off after each digit is cutting off once. -/

theorem foldl_clamped (digits : List Char) (m : Nat) :
    digits.foldl (fun m c => min (m * 10 + digitValue c) maxMagnitude) (min m maxMagnitude) =
      min (digits.foldl (fun m c => m * 10 + digitValue c) m) maxMagnitude := by
  induction digits generalizing m with
  | nil => rfl
  | cons c rest ih =>
    have hstep : min (min m maxMagnitude * 10 + digitValue c) maxMagnitude =
        min (m * 10 + digitValue c) maxMagnitude := by
      rw [maxMagnitude]
      omega
    rw [List.foldl_cons, List.foldl_cons, hstep, ih]

theorem magnitude_eq_min (digits : List Char) :
    magnitude digits = min (decimal digits) maxMagnitude := by
  rw [decimal, ← foldl_clamped, magnitude, Nat.zero_min]

/-! The exact value. -/

theorem decimal_eq_ofDigitChars (digits : List Char) :
    decimal digits = Nat.ofDigitChars 10 digits 0 := by
  rw [decimal, Nat.ofDigitChars_eq_foldl]
  congr 1
  funext m c
  rw [digitValue, Nat.mul_comm]

theorem decimal_zeros (count : Nat) (digits : List Char) :
    decimal (List.replicate count '0' ++ digits) = decimal digits := by
  rw [decimal_eq_ofDigitChars, decimal_eq_ofDigitChars, Nat.ofDigitChars_append,
    Nat.ofDigitChars_replicate_zero, Nat.mul_zero]

theorem decimal_toDigits (n : Nat) : decimal (Nat.toDigits 10 n) = n := by
  rw [decimal_eq_ofDigitChars, Nat.ofDigitChars_ten_toDigits]

/-- A text taken apart for the integer it begins with: a gap, a sign, digits, and what is left. -/
structure IntText where
  gap : List Char
  sign : List Char
  digits : List Char
  rest : List Char

namespace IntText

/-- The text itself. -/
def chars (t : IntText) : List Char := t.gap ++ (t.sign ++ (t.digits ++ t.rest))

/-- The parts are what their names say, and none of them could be longer. -/
structure Parsed (t : IntText) : Prop where
  gap : ∀ c ∈ t.gap, isSeparator c = true
  sign : t.sign = [] ∨ t.sign = ['-'] ∨ t.sign = ['+']
  digits : ∀ c ∈ t.digits, c.isDigit = true
  gap_longest : ∀ c ∈ (t.sign ++ (t.digits ++ t.rest)).head?, isSeparator c = false
  sign_longest : t.sign = [] → ∀ c ∈ (t.digits ++ t.rest).head?, c ≠ '-' ∧ c ≠ '+'
  digits_longest : ∀ c ∈ t.rest.head?, c.isDigit = false

/-- The exact value of the digits, cut off at the largest magnitude, with the sign. -/
def value (t : IntText) : Int :=
  (if t.sign = ['-'] then -1 else 1) * (min (decimal t.digits) maxMagnitude : Nat)

variable {t : IntText}

/-! Each text has such parts, and no others. -/

def signOf : List Char → List Char
  | '-' :: _ => ['-']
  | '+' :: _ => ['+']
  | _ => []

def ofChars (chars : List Char) : IntText :=
  let body := chars.dropWhile isSeparator
  let unsigned := body.drop (signOf body).length
  { gap := chars.takeWhile isSeparator
    sign := signOf body
    digits := unsigned.takeWhile Char.isDigit
    rest := unsigned.dropWhile Char.isDigit }

theorem signOf_spec (body : List Char) :
    signOf body ++ body.drop (signOf body).length = body ∧
      (signOf body = [] ∨ signOf body = ['-'] ∨ signOf body = ['+']) ∧
      (signOf body = [] → ∀ c ∈ body.head?, c ≠ '-' ∧ c ≠ '+') := by
  unfold signOf
  split
  · simp
  · simp
  · next hminus hplus =>
    refine ⟨rfl, .inl rfl, ?_⟩
    intro _ c hc
    obtain ⟨rest, rfl⟩ := List.head?_eq_some_iff.mp hc
    exact ⟨fun h => hminus rest (h ▸ rfl), fun h => hplus rest (h ▸ rfl)⟩

theorem chars_ofChars (chars : List Char) : (ofChars chars).chars = chars := by
  obtain ⟨hsign, -, -⟩ := signOf_spec (chars.dropWhile isSeparator)
  rw [IntText.chars, ofChars, List.takeWhile_append_dropWhile, hsign,
    List.takeWhile_append_dropWhile]

theorem parsed_ofChars (chars : List Char) : (ofChars chars).Parsed := by
  obtain ⟨happend, hsign, hlongest⟩ := signOf_spec (chars.dropWhile isSeparator)
  refine ⟨fun c hc => List.mem_takeWhile_imp hc, hsign, fun c hc => List.mem_takeWhile_imp hc,
    ?_, ?_, ?_⟩
  · simp only [ofChars, List.takeWhile_append_dropWhile, happend]
    exact head?_dropWhile_of_neg isSeparator chars
  · intro hnil
    simp only [ofChars, List.takeWhile_append_dropWhile]
    have hnone : signOf (chars.dropWhile isSeparator) = [] := hnil
    simpa only [hnone, List.length_nil, List.drop_zero] using hlongest hnone
  · exact head?_dropWhile_of_neg Char.isDigit _

theorem Parsed.ofChars_eq (h : t.Parsed) : ofChars t.chars = t := by
  have hgap := takeWhile_append_of_border h.gap h.gap_longest
  have hdigits := takeWhile_append_of_border h.digits h.digits_longest
  have hsign : signOf (t.sign ++ (t.digits ++ t.rest)) = t.sign := by
    rcases h.sign with hnil | hminus | hplus
    · have hfirst := h.sign_longest hnil
      rw [hnil, List.nil_append]
      cases hbody : t.digits ++ t.rest with
      | nil => rfl
      | cons c rest =>
        rw [hbody] at hfirst
        obtain ⟨hminus, hplus⟩ := hfirst c rfl
        rw [signOf]
        · intro _ heq
          exact hminus (List.cons.inj heq).1
        · intro _ heq
          exact hplus (List.cons.inj heq).1
    · rw [hminus]
      rfl
    · rw [hplus]
      rfl
  rw [ofChars, chars, hgap.1, hgap.2, hsign, List.drop_left, hdigits.1, hdigits.2]

/-! The reading comes to the value. -/

theorem Parsed.leadingInt_eq (h : t.Parsed) : leadingInt (String.ofList t.chars) = t.value := by
  have hbody := (takeWhile_append_of_border h.gap h.gap_longest).2
  have hdigits : leadingDigits (t.digits ++ t.rest) = t.digits :=
    (takeWhile_append_of_border h.digits h.digits_longest).1
  rw [leadingInt, String.toList_ofList, chars, hbody, value, ← magnitude_eq_min]
  rcases h.sign with hnil | hminus | hplus
  · have hfirst := h.sign_longest hnil
    have hunsigned : t.sign ++ (t.digits ++ t.rest) = t.digits ++ t.rest := by
      rw [hnil, List.nil_append]
    rw [hunsigned]
    split
    · next rest heq => exact absurd rfl (hfirst '-' (by simp [heq])).1
    · next rest heq => exact absurd rfl (hfirst '+' (by simp [heq])).2
    · rw [hdigits]
      simp [hnil]
  · simp [hminus, hdigits]
  · simp [hplus, hdigits]

theorem leadingInt_eq_value (text : String) : leadingInt text = (ofChars text.toList).value := by
  have hvalue := (parsed_ofChars text.toList).leadingInt_eq
  rwa [chars_ofChars, String.ofList_toList] at hvalue

theorem natAbs_value_le (t : IntText) : t.value.natAbs ≤ maxMagnitude := by
  rw [value, Int.natAbs_mul, Int.natAbs_natCast]
  split <;> simp

theorem ne_sign_of_isDigit {c : Char} (h : c.isDigit = true) :
    isSeparator c = false ∧ c ≠ '-' ∧ c ≠ '+' := by
  have hbounds : 48 ≤ c.toNat ∧ c.toNat ≤ 57 := Char.isDigit_iff_toNat.mp h
  refine ⟨?_, ?_, ?_⟩
  · simp [isSeparator]
    omega
  · rintro rfl
    cases h
  · rintro rfl
    cases h

/-- Digits leave nothing to the gap and to the sign. -/
theorem parsed_of_ne_nil (hgap : ∀ c ∈ t.gap, isSeparator c = true)
    (hsign : t.sign = [] ∨ t.sign = ['-'] ∨ t.sign = ['+'])
    (hdigits : ∀ c ∈ t.digits, c.isDigit = true) (hne : t.digits ≠ [])
    (hrest : ∀ c ∈ t.rest.head?, c.isDigit = false) : t.Parsed := by
  obtain ⟨d, more, hd⟩ := List.exists_cons_of_ne_nil hne
  obtain ⟨hsep, hminus, hplus⟩ := ne_sign_of_isDigit (hdigits d (by simp [hd]))
  refine ⟨hgap, hsign, hdigits, ?_, ?_, hrest⟩
  · intro c hc
    rcases hsign with hnil | hsign | hsign
    · obtain rfl : d = c := by simpa [hnil, hd] using hc
      exact hsep
    · obtain rfl : '-' = c := by simpa [hsign] using hc
      rfl
    · obtain rfl : '+' = c := by simpa [hsign] using hc
      rfl
  · intro hnil c hc
    obtain rfl : d = c := by simpa [hd] using hc
    exact ⟨hminus, hplus⟩

/-- Zeros in front of the digits are digits. -/
theorem Parsed.zeros (h : t.Parsed) (count : Nat) :
    { t with digits := List.replicate count '0' ++ t.digits }.Parsed := by
  cases count with
  | zero => exact h
  | succ count =>
    refine parsed_of_ne_nil h.gap h.sign ?_ (by simp [List.replicate_succ]) h.digits_longest
    intro c hc
    rcases List.mem_append.mp hc with hzero | hdigit
    · obtain rfl := List.eq_of_mem_replicate hzero
      rfl
    · exact h.digits c hdigit

theorem value_zeros (t : IntText) (count : Nat) :
    { t with digits := List.replicate count '0' ++ t.digits }.value = t.value := by
  rw [value, value, decimal_zeros]

/-- The text that an integer is written as. -/
def ofInt (n : Int) : IntText where
  gap := []
  sign := if 0 ≤ n then [] else ['-']
  digits := Nat.toDigits 10 n.natAbs
  rest := []

theorem chars_ofInt (n : Int) : (ofInt n).chars = (toString n).toList := by
  rw [Int.toString_eq_repr, Int.repr_eq_if, chars, ofInt]
  split
  · have habs : n.natAbs = n.toNat := by omega
    simp [habs]
  · have habs : n.natAbs = (-n).toNat := by omega
    simp [habs]

theorem parsed_ofInt (n : Int) : (ofInt n).Parsed := by
  refine parsed_of_ne_nil (by simp [ofInt]) ?_ ?_ Nat.toDigits_ne_nil (by simp [ofInt])
  · rw [ofInt]
    split <;> simp
  · intro c hc
    exact Nat.isDigit_of_mem_toDigits (by decide) (by decide) hc

theorem value_ofInt {n : Int} (h : n.natAbs ≤ maxMagnitude) : (ofInt n).value = n := by
  rw [value, ofInt, decimal_toDigits, Nat.min_eq_left h]
  by_cases hn : 0 ≤ n
  · rw [if_pos hn, if_neg (by simp)]
    omega
  · rw [if_neg hn, if_pos rfl]
    omega

end IntText

open IntText in
/-- Every text has one gap, one sign and one run of digits to read an integer from, and the integer
is the exact value of the digits, cut off at the largest magnitude, with the sign.  So the least word
is never read, zeros before the digits and whatever follows them make no difference, and all integers
but the least are read back from the text they are written as. -/
theorem leadingInt_clamps :
    (∀ text : String, ∃! t : IntText, t.Parsed ∧ t.chars = text.toList) ∧
      (∀ t : IntText, t.Parsed → leadingInt (String.ofList t.chars) =
        (if t.sign = ['-'] then -1 else 1) * (min (decimal t.digits) (2 ^ 63 - 1) : Nat)) ∧
      (∀ text : String, leadingInt text ≠ -2 ^ 63) ∧
      (∀ (t : IntText) (count : Nat), t.Parsed →
        leadingInt (String.ofList
          { t with digits := List.replicate count '0' ++ t.digits }.chars) =
          leadingInt (String.ofList t.chars)) ∧
      (∀ (t : IntText) (rest : List Char), t.Parsed → { t with rest }.Parsed →
        leadingInt (String.ofList { t with rest }.chars) = leadingInt (String.ofList t.chars)) ∧
      (∀ n : Int, n.natAbs ≤ 2 ^ 63 - 1 → leadingInt (toString n) = n) := by
  refine ⟨?_, ?_, ?_, ?_, ?_, ?_⟩
  · intro text
    refine ⟨ofChars text.toList, ⟨parsed_ofChars _, chars_ofChars _⟩, ?_⟩
    rintro t ⟨ht, hchars⟩
    rw [← hchars, ht.ofChars_eq]
  · intro t ht
    exact ht.leadingInt_eq
  · intro text hleast
    have habs := natAbs_value_le (ofChars text.toList)
    rw [← leadingInt_eq_value, hleast, maxMagnitude] at habs
    omega
  · intro t count ht
    rw [(ht.zeros count).leadingInt_eq, value_zeros, ht.leadingInt_eq]
  · intro t rest ht hrest
    rw [hrest.leadingInt_eq, ht.leadingInt_eq]
    rfl
  · intro n hn
    rw [← String.ofList_toList (s := toString n), ← chars_ofInt, (parsed_ofInt n).leadingInt_eq,
      value_ofInt hn]

/-- More digits than 64 bits hold, between a gap with a sign and a text. -/
def overlong : IntText where
  gap := [' ', '\t']
  sign := ['-']
  digits := List.replicate 20 '9'
  rest := ['e', '-', '3']

theorem leadingInt_clamps_overlong :
    overlong.Parsed ∧ { overlong with rest := [] }.Parsed ∧
      leadingInt " \t-99999999999999999999e-3" = -9223372036854775807 ∧
      leadingInt " \t-000099999999999999999999e-3" = -9223372036854775807 ∧
      leadingInt " \t-99999999999999999999" = -9223372036854775807 ∧
      (-9223372036854775807 : Int).natAbs ≤ 2 ^ 63 - 1 ∧
      leadingInt (toString (-9223372036854775807 : Int)) = -9223372036854775807 := by
  have hdigits : ∀ c ∈ overlong.digits, c.isDigit = true := by
    intro c hc
    obtain rfl := List.eq_of_mem_replicate hc
    rfl
  have hgap : ∀ c ∈ overlong.gap, isSeparator c = true := by simp [overlong, isSeparator]
  have hparsed : overlong.Parsed :=
    IntText.parsed_of_ne_nil hgap (.inr (.inl rfl)) hdigits (by simp [overlong])
      (by simp [overlong])
  have hbare : { overlong with rest := [] }.Parsed :=
    IntText.parsed_of_ne_nil hgap (.inr (.inl rfl)) hdigits (by simp [overlong]) (by simp)
  obtain ⟨-, hvalue, -, hzeros, hrest, hback⟩ := leadingInt_clamps
  have hleast : leadingInt (String.ofList overlong.chars) = -9223372036854775807 := by
    rw [hvalue overlong hparsed]
    decide
  exact ⟨hparsed, hbare, hleast, (hzeros overlong 4 hparsed).trans hleast,
    (hrest overlong [] hparsed hbare).trans hleast, by decide, hback _ (by decide)⟩

end LineShell
