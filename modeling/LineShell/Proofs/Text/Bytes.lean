import LineShell.Text.Utf8

/-! The bytes of a text.  A byte of ASCII is never a part of another character, so what is looked
for among the bytes is found just where it is among the characters. -/
namespace LineShell

def byteCount : List Char → Nat
  | [] => 0
  | c :: rest => c.utf8Size + byteCount rest

@[simp] theorem byteCount_nil : byteCount [] = 0 := rfl

@[simp] theorem byteCount_cons (c : Char) (text : List Char) :
    byteCount (c :: text) = c.utf8Size + byteCount text := rfl

@[simp] theorem byteCount_append (first rest : List Char) :
    byteCount (first ++ rest) = byteCount first + byteCount rest := by
  induction first with
  | nil => simp
  | cons c first ih => simp [ih, Nat.add_assoc]

theorem utf8_cons (c : Char) (text : List Char) :
    utf8 (String.ofList (c :: text)) = String.utf8EncodeChar c ++ utf8 (String.ofList text) := by
  simp [utf8]

theorem length_utf8 (text : List Char) :
    (utf8 (String.ofList text)).length = byteCount text := by
  induction text with
  | nil => rfl
  | cons c rest ih =>
    rw [utf8_cons, List.length_append, String.length_utf8EncodeChar, ih, byteCount_cons]

theorem utf8ByteSize_ofList (text : List Char) :
    (String.ofList text).utf8ByteSize = byteCount text := by
  induction text with
  | nil => rfl
  | cons c rest ih =>
    have happend : String.ofList (c :: rest) = String.singleton c ++ String.ofList rest := by
      rw [String.singleton_eq_ofList, ← String.ofList_append, List.singleton_append]
    rw [happend, String.utf8ByteSize_append, String.utf8ByteSize_singleton, ih, byteCount_cons]

/-- The positions between two characters are those at which a text comes apart into texts. -/
theorem isValid_iff (text : String) (position : Nat) :
    (⟨position⟩ : String.Pos.Raw).IsValid text ↔
      ∃ first rest, text.toList = first ++ rest ∧ byteCount first = position := by
  rw [String.Pos.Raw.isValid_iff_exists_append]
  constructor
  · rintro ⟨first, rest, rfl, hposition⟩
    refine ⟨first.toList, rest.toList, String.toList_append, ?_⟩
    have hbytes : position = first.utf8ByteSize := congrArg String.Pos.Raw.byteIdx hposition
    rw [hbytes, ← utf8ByteSize_ofList, String.ofList_toList]
  · rintro ⟨first, rest, htext, rfl⟩
    refine ⟨String.ofList first, String.ofList rest, ?_, ?_⟩
    · rw [← String.ofList_append, ← htext, String.ofList_toList]
    · rw [String.rawEndPos, utf8ByteSize_ofList]

theorem utf8Encode_of_ascii {c : Char} (h : c.toNat < 128) :
    String.utf8EncodeChar c = [UInt8.ofNat c.toNat] := by
  rw [String.utf8EncodeChar]
  exact if_pos (by show c.toNat ≤ 127; omega)

theorem toNat_byte_of_ascii {c : Char} (h : c.toNat < 128) :
    (UInt8.ofNat c.toNat).toNat = c.toNat :=
  UInt8.toNat_ofNat_of_lt' (Nat.lt_trans h (by decide))

theorem byte_inj_of_ascii {c d : Char} (hc : c.toNat < 128) (hd : d.toNat < 128) :
    UInt8.ofNat c.toNat = UInt8.ofNat d.toNat ↔ c = d := by
  rw [← UInt8.toNat_inj, toNat_byte_of_ascii hc, toNat_byte_of_ascii hd, Char.toNat_inj]

/-- All bytes of a longer character lie above ASCII. -/
theorem le_of_mem_utf8Encode {c : Char} (h : 128 ≤ c.toNat) {b : UInt8}
    (hb : b ∈ String.utf8EncodeChar c) : 128 ≤ b.toNat := by
  have hhigh {n : Nat} (hn : 128 ≤ n) (hn' : n < 256) : 128 ≤ (UInt8.ofNat n).toNat := by
    rwa [UInt8.toNat_ofNat_of_lt' hn']
  have hval : c.val.toNat = c.toNat := rfl
  rw [String.utf8EncodeChar, hval, if_neg (by omega)] at hb
  split at hb
  · simp only [List.mem_cons, List.not_mem_nil, or_false] at hb
    rcases hb with rfl | rfl <;> exact hhigh (by omega) (by omega)
  · split at hb
    · simp only [List.mem_cons, List.not_mem_nil, or_false] at hb
      rcases hb with rfl | rfl | rfl <;> exact hhigh (by omega) (by omega)
    · simp only [List.mem_cons, List.not_mem_nil, or_false] at hb
      rcases hb with rfl | rfl | rfl | rfl <;> exact hhigh (by omega) (by omega)

/-- A character of ASCII is in a text if and only if its byte is among the bytes. -/
theorem mem_utf8_iff {c : Char} (h : c.toNat < 128) (text : String) :
    UInt8.ofNat c.toNat ∈ utf8 text ↔ c ∈ text.toList := by
  rw [utf8, List.mem_flatMap]
  constructor
  · rintro ⟨d, hd, hbyte⟩
    by_cases hascii : d.toNat < 128
    · rw [utf8Encode_of_ascii hascii, List.mem_singleton, byte_inj_of_ascii h hascii] at hbyte
      rwa [hbyte]
    · have hle := le_of_mem_utf8Encode (by omega) hbyte
      rw [toNat_byte_of_ascii h] at hle
      omega
  · intro hc
    exact ⟨c, hc, by simp [utf8Encode_of_ascii h]⟩

theorem utf8_eq_nil_iff (text : String) : utf8 text = [] ↔ text = "" := by
  rw [utf8, List.flatMap_eq_nil_iff, ← String.toList_eq_nil_iff, List.eq_nil_iff_forall_not_mem]
  simp [String.utf8EncodeChar_ne_nil]

/-- Bytes are read as the text that they are the bytes of. -/
theorem ofUtf8?_eq_some_iff {bytes : List UInt8} {text : String} :
    ofUtf8? bytes = some text ↔ bytes = utf8 text := by
  have harray : (⟨bytes.toArray⟩ : ByteArray) = bytes.toByteArray :=
    ByteArray.ext List.data_toByteArray.symm
  have htext (text : String) : (utf8 text).toByteArray = text.toByteArray :=
    String.utf8Encode_toList
  rw [ofUtf8?, String.fromUTF8?, harray]
  constructor
  · intro h
    split at h
    · next hvalid =>
      obtain rfl := Option.some.inj h
      have hdata := congrArg ByteArray.data (htext (String.fromUTF8 bytes.toByteArray hvalid))
      rw [List.data_toByteArray] at hdata
      exact (List.toArray_inj (hdata.trans List.data_toByteArray)).symm
    · cases h
  · rintro rfl
    rw [htext, dif_pos text.isValidUTF8]
    rfl

theorem utf8_cons_of_ascii {c : Char} (h : c.toNat < 128) (text : List Char) :
    utf8 (String.ofList (c :: text)) = UInt8.ofNat c.toNat :: utf8 (String.ofList text) := by
  rw [utf8_cons, utf8Encode_of_ascii h, List.singleton_append]

theorem exists_utf8_cons_of_high {c : Char} (h : 128 ≤ c.toNat) (text : List Char) :
    ∃ b more, utf8 (String.ofList (c :: text)) = b :: more ∧ 128 ≤ b.toNat := by
  obtain ⟨b, more, hb⟩ := List.exists_cons_of_ne_nil (String.utf8EncodeChar_ne_nil (c := c))
  refine ⟨b, more ++ utf8 (String.ofList text), ?_, le_of_mem_utf8Encode h (by simp [hb])⟩
  rw [utf8_cons, hb, List.cons_append]

/-- The first byte of a text is that of a character of ASCII if and only if this comes first. -/
theorem head?_utf8_eq_iff {c : Char} (h : c.toNat < 128) (text : List Char) :
    (utf8 (String.ofList text)).head? = some (UInt8.ofNat c.toNat) ↔ text.head? = some c := by
  cases text with
  | nil => simp
  | cons d rest =>
    rw [List.head?_cons, Option.some_inj]
    by_cases hd : d.toNat < 128
    · rw [utf8_cons_of_ascii hd, List.head?_cons, Option.some_inj, byte_inj_of_ascii hd h]
    · obtain ⟨b, more, hb, hle⟩ := exists_utf8_cons_of_high (c := d) (by omega) rest
      rw [hb, List.head?_cons, Option.some_inj]
      constructor
      · rintro rfl
        rw [toNat_byte_of_ascii h] at hle
        omega
      · rintro rfl
        exact absurd h hd

/-- A test that only bytes of ASCII can pass takes from the bytes what it takes from the
characters. -/
theorem takeWhile_utf8 {p : Char → Bool} {q : UInt8 → Bool}
    (hascii : ∀ c : Char, c.toNat < 128 → q (UInt8.ofNat c.toNat) = p c)
    (hbyte : ∀ b : UInt8, 128 ≤ b.toNat → q b = false)
    (hchar : ∀ c : Char, 128 ≤ c.toNat → p c = false) (text : List Char) :
    (utf8 (String.ofList text)).takeWhile q =
      (text.takeWhile p).map fun c => UInt8.ofNat c.toNat := by
  induction text with
  | nil => rfl
  | cons c rest ih =>
    by_cases hc : c.toNat < 128
    · rw [utf8_cons_of_ascii hc, List.takeWhile_cons, hascii c hc, List.takeWhile_cons, ih]
      split <;> rfl
    · obtain ⟨b, more, hb, hle⟩ := exists_utf8_cons_of_high (c := c) (by omega) rest
      rw [hb, List.takeWhile_cons_of_neg (by simp [hbyte b hle]),
        List.takeWhile_cons_of_neg (by simp [hchar c (by omega)])]
      rfl

end LineShell
