import LineShell.Proofs.Checked.Basic
import LineShell.Proofs.Integer.Clamped

/-! The integer that a text begins with, read from its bytes with words of 64 bits. -/
namespace LineShell.Checked

def isDigitByte (b : UInt8) : Bool := 48 ≤ b.toNat && b.toNat ≤ 57

def firstByte? (text : List Char) : Option UInt8 := (utf8 (String.ofList text)).head?

/-- Whether a text begins with a minus sign, and what follows its sign if it has one. -/
def unsigned (body : List Char) : Checked (Bool × List Char) :=
  if firstByte? body = some 45 then do
    let (_, rest) ← cutAt body 1
    return (true, rest)
  else if firstByte? body = some 43 then do
    let (_, rest) ← cutAt body 1
    return (false, rest)
  else return (false, body)

def addDigit (m : Int) (b : UInt8) : Checked Int := do
  let digit ← difference b.toNat 48
  return saturated (saturated (m * 10) + digit)

def leadingInt (text : String) : Checked Int := do
  let (negative, body) ← unsigned (text.toList.dropWhile isSeparator)
  let magnitude ← ((utf8 (String.ofList body)).takeWhile isDigitByte).foldlM addDigit 0
  if negative then negated magnitude else return magnitude

theorem digitBytes (text : List Char) :
    (utf8 (String.ofList text)).takeWhile isDigitByte =
      (leadingDigits text).map fun c => UInt8.ofNat c.toNat := by
  refine takeWhile_utf8 ?_ ?_ ?_ text
  · intro c hc
    rw [isDigitByte, toNat_byte_of_ascii hc, Bool.eq_iff_iff, Char.isDigit_iff_toNat]
    simp
  · intro b hb
    have hlast : ¬b.toNat ≤ 57 := by omega
    simp [isDigitByte, hlast]
  · intro c hc
    have hlast : '9'.toNat = 57 := rfl
    rw [← Bool.not_eq_true, Char.isDigit_iff_toNat]
    omega

/-- Both saturations together come to one cut at the largest magnitude. -/
theorem addDigit_eq {c : Char} (hc : c.isDigit = true) (m : Nat) :
    addDigit m (UInt8.ofNat c.toNat) =
      .ok (min (m * 10 + digitValue c) maxMagnitude : Nat) := by
  have hbounds : 48 ≤ c.toNat ∧ c.toNat ≤ 57 := Char.isDigit_iff_toNat.mp hc
  have hvalue : digitValue c = c.toNat - 48 := rfl
  rw [addDigit, toNat_byte_of_ascii (by omega), difference_of_le hbounds.1, ← hvalue, ok_bind,
    return_eq_ok, saturated, saturated, least, greatest, maxMagnitude]
  congr 1
  omega

theorem foldlM_addDigit {digits : List Char} (h : ∀ c ∈ digits, c.isDigit = true) (m : Nat) :
    (digits.map fun c => UInt8.ofNat c.toNat).foldlM addDigit (m : Int) =
      .ok (digits.foldl (fun m c => min (m * 10 + digitValue c) maxMagnitude) m : Nat) := by
  induction digits generalizing m with
  | nil => rfl
  | cons c rest ih =>
    rw [List.map_cons, List.foldlM_cons, addDigit_eq (h c (by simp)), ok_bind,
      ih fun d hd => h d (by simp [hd]), List.foldl_cons]

theorem firstByte?_eq_iff {c : Char} (h : c.toNat < 128) (text : List Char) :
    firstByte? text = some (UInt8.ofNat c.toNat) ↔ text.head? = some c :=
  head?_utf8_eq_iff h text

/-! A sign takes one byte, so what follows it begins between two characters. -/

theorem cutAt_sign {c : Char} (h : c.utf8Size = 1) (rest : List Char) :
    cutAt (c :: rest) 1 = .ok ([c], rest) := by
  simpa [h] using cutAt_append [c] rest

theorem unsigned_minus (rest : List Char) : unsigned ('-' :: rest) = .ok (true, rest) := by
  have hminus : firstByte? ('-' :: rest) = some 45 :=
    (firstByte?_eq_iff (c := '-') (by decide) _).mpr rfl
  simp [unsigned, hminus, cutAt_sign (c := '-') rfl]

theorem unsigned_plus (rest : List Char) : unsigned ('+' :: rest) = .ok (false, rest) := by
  have hplus : firstByte? ('+' :: rest) = some 43 :=
    (firstByte?_eq_iff (c := '+') (by decide) _).mpr rfl
  simp [unsigned, hplus, cutAt_sign (c := '+') rfl]

theorem unsigned_bare {body : List Char} (hminus : body.head? ≠ some '-')
    (hplus : body.head? ≠ some '+') : unsigned body = .ok (false, body) := by
  have hminusByte : firstByte? body ≠ some 45 :=
    (firstByte?_eq_iff (c := '-') (by decide) body).not.mpr hminus
  have hplusByte : firstByte? body ≠ some 43 :=
    (firstByte?_eq_iff (c := '+') (by decide) body).not.mpr hplus
  rw [unsigned, if_neg hminusByte, if_neg hplusByte, return_eq_ok]

/-! The digits are read without a break, and what they come to has a negative. -/

theorem foldlM_digitBytes (text : List Char) :
    ((utf8 (String.ofList text)).takeWhile isDigitByte).foldlM addDigit 0 =
      .ok (magnitude (leadingDigits text) : Int) := by
  rw [digitBytes]
  exact foldlM_addDigit (fun c hc => List.mem_takeWhile_imp hc) 0

theorem negated_magnitude (digits : List Char) :
    negated (magnitude digits) = .ok (-(magnitude digits : Int)) := by
  refine negated_of_le (by omega) ?_
  rw [magnitude_eq_min, greatest, maxMagnitude]
  omega

theorem leadingInt_eq (text : String) : leadingInt text = .ok (LineShell.leadingInt text) := by
  rw [leadingInt, LineShell.leadingInt]
  split
  · next rest hbody => simp [hbody, unsigned_minus, foldlM_digitBytes, negated_magnitude]
  · next rest hbody => simp [hbody, unsigned_plus, foldlM_digitBytes]
  · next hminus hplus =>
    rw [unsigned_bare]
    · simp [foldlM_digitBytes]
    · intro h
      obtain ⟨rest, hrest⟩ := List.head?_eq_some_iff.mp h
      exact hminus rest hrest
    · intro h
      obtain ⟨rest, hrest⟩ := List.head?_eq_some_iff.mp h
      exact hplus rest hrest

end LineShell.Checked
