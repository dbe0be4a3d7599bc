import LineShell.Completion
import LineShell.Proofs.Text.Border
import LineShell.Proofs.Text.Bytes
import Mathlib.Data.List.TakeWhile

/-! The word before the cursor.  It is parted from the text before it at the last blank, and from the
directory that it names at the last slash, and every candidate goes on from what is typed of it. -/
namespace LineShell

theorem charsBefore_isPrefix (position : Nat) (line : List Char) :
    charsBefore position line <+: line := by
  induction line generalizing position with
  | nil => exact List.prefix_rfl
  | cons c rest ih =>
    rw [charsBefore]
    split
    · exact (List.prefix_cons_inj c).mpr (ih _)
    · exact List.nil_prefix

/-- The bytes of a first part lead to the end of that part. -/
theorem charsBefore_bytes (first rest : List Char) :
    charsBefore (utf8 (String.ofList first)).length (first ++ rest) = first := by
  induction first with
  | nil =>
    cases rest with
    | nil => rfl
    | cons c rest =>
      have hsize : ¬ c.utf8Size ≤ 0 := Nat.not_le.mpr c.utf8Size_pos
      simp [charsBefore, hsize]
  | cons c first ih =>
    have hbytes : (utf8 (String.ofList (c :: first))).length =
        c.utf8Size + (utf8 (String.ofList first)).length := by
      simp [utf8]
    rw [hbytes, List.cons_append, charsBefore, if_pos (Nat.le_add_right _ _),
      Nat.add_sub_cancel_left, ih]

theorem leadBefore_append_wordBefore (before : List Char) :
    leadBefore before ++ wordBefore before = before := by
  rw [leadBefore, wordBefore, ← List.reverse_append, List.takeWhile_append_dropWhile,
    List.reverse_reverse]

section Text
variable {text : List Char}

theorem isBlank_of_mem_wordBefore {c : Char} (h : c ∈ wordBefore text) : isBlank c = false := by
  simpa using List.mem_takeWhile_imp (List.mem_reverse.mp h)

/-- What stands before the last word ends in a blank. -/
theorem leadBefore_eq (text : List Char) :
    leadBefore text = [] ∨ ∃ first c, leadBefore text = first ++ [c] ∧ isBlank c = true := by
  have hhead := List.head?_dropWhile_not (fun c => !isBlank c) text.reverse
  rw [leadBefore]
  cases hrest : text.reverse.dropWhile fun c => !isBlank c with
  | nil => exact .inl rfl
  | cons c rest =>
    rw [hrest] at hhead
    exact .inr ⟨rest.reverse, c, List.reverse_cons, by simpa using hhead⟩

/-- No longer end of the text is free of blanks. -/
theorem suffix_wordBefore {word : List Char} (h : word <:+ text)
    (hword : ∀ c ∈ word, isBlank c = false) : word <:+ wordBefore text := by
  obtain ⟨first, rfl⟩ := h
  have hall : ∀ c ∈ word.reverse, (!isBlank c) = true := fun c hc => by
    simp [hword c (List.mem_reverse.mp hc)]
  rw [wordBefore, List.reverse_append, List.takeWhile_append_of_pos hall, List.reverse_append,
    List.reverse_reverse]
  exact List.suffix_append _ _

/-- A word without blanks that stands behind a blank, or at the beginning, is the one that is found. -/
theorem parted_of_border {lead word : List Char} (hlead : ∀ c ∈ lead.getLast?, isBlank c = true)
    (hword : ∀ c ∈ word, isBlank c = false) :
    leadBefore (lead ++ word) = lead ∧ wordBefore (lead ++ word) = word := by
  have hall : ∀ c ∈ word.reverse, (!isBlank c) = true := fun c hc => by
    simp [hword c (List.mem_reverse.mp hc)]
  have hhead : ∀ c ∈ lead.reverse.head?, (!isBlank c) = false := fun c hc => by
    rw [List.head?_reverse] at hc
    simp [hlead c hc]
  obtain ⟨htake, hdrop⟩ := takeWhile_append_of_border hall hhead
  rw [leadBefore, wordBefore, List.reverse_append, htake, hdrop]
  exact ⟨List.reverse_reverse lead, List.reverse_reverse word⟩

end Text

namespace PathNames

theorem dirPart_append_namePart (word : List Char) : dirPart word ++ namePart word = word := by
  rw [dirPart, namePart, ← List.reverse_append, List.takeWhile_append_dropWhile,
    List.reverse_reverse]

theorem slash_notMem_namePart (word : List Char) : '/' ∉ namePart word := by
  intro h
  have hne := List.mem_takeWhile_imp (List.mem_reverse.mp h)
  simp at hne

end PathNames

section Candidates
variable {σ : Type} [Host σ] {host : σ} {word : List Char} {c : Candidate}

theorem mem_readable_iff {entries : List (Except Fault DirEntry)} {e : DirEntry} :
    e ∈ readable entries ↔ .ok e ∈ entries := by
  rw [readable, List.mem_filterMap]
  constructor
  · rintro ⟨_ | e, he, h⟩
    · cases h
    · cases h
      exact he
  · exact fun he => ⟨_, he, rfl⟩

theorem mem_textNames_iff {entries : List DirEntry} {name : String} :
    name ∈ textNames entries ↔ ∃ e ∈ entries, e.name = utf8 name := by
  simp [textNames, ofUtf8?_eq_some_iff]

theorem PathNames.mem_candidates_iff : c ∈ candidates host word ↔
    ∃ entries, Host.readDir host (searched word) = .ok entries ∧
      ∃ name ∈ textNames (readable entries), fits (namePart word) name = true ∧
        candidate (String.ofList (dirPart word)) name (Host.isDir host (pathTo word name)) = c := by
  rw [candidates]
  cases Host.readDir host (searched word) with
  | error fault => simp
  | ok entries => simp [among, and_assoc]

theorem complete_of_lead {names : List String} {line : String} {cursor : Nat}
    (hlead : (leadBefore (charsBefore cursor line.toList)).all isBlank = false)
    (hword : wordBefore (charsBefore cursor line.toList) = word) :
    (complete names host line cursor).2 = PathNames.candidates host word := by
  rw [complete, if_neg (by simpa using hlead), hword]

/-- What is put after a candidate: a space, or nothing after the slash of a directory. -/
theorem exists_tail_of_mem {names : List String} {line : String} {cursor : Nat}
    (h : c ∈ (complete names host line cursor).2) :
    ∃ tail, (tail = [] ∨ tail = [' ']) ∧ c.replacement.toList = c.display.toList ++ tail := by
  rw [complete] at h
  split at h
  · obtain ⟨name, -, rfl⟩ := List.mem_map.mp h
    exact ⟨[' '], .inr rfl, String.toList_append⟩
  · obtain ⟨entries, -, name, -, -, rfl⟩ := PathNames.mem_candidates_iff.mp h
    rw [PathNames.candidate]
    split
    · exact ⟨[], .inl rfl, (List.append_nil _).symm⟩
    · exact ⟨[' '], .inr rfl, String.toList_append⟩

end Candidates
end LineShell
