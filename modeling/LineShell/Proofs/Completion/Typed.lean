import LineShell.Proofs.Completion.Word
import LineShell.Sandbox
import Mathlib

/-! What is typed stays.  The word to complete is found in the bytes before the cursor, and each of its
candidates takes its place with the same characters first. -/
namespace LineShell

theorem CommandNames.isPrefix_of_mem {names : List String} {word : List Char} {c : Candidate}
    (h : c ∈ candidates names word) : word <+: c.display.toList := by
  obtain ⟨name, hname, rfl⟩ := List.mem_map.mp h
  exact List.isPrefixOf_iff_prefix.mp (List.mem_filter.mp hname).2

theorem PathNames.isPrefix_of_mem {σ : Type} [Host σ] {host : σ} {word : List Char} {c : Candidate}
    (h : c ∈ candidates host word) : word <+: c.display.toList := by
  obtain ⟨entries, -, name, -, hfits, rfl⟩ := mem_candidates_iff.mp h
  rw [fits, Bool.and_eq_true] at hfits
  have hrest : namePart word <+: name.toList := List.isPrefixOf_iff_prefix.mp hfits.1
  have hword := (List.prefix_append_right_inj (dirPart word)).mpr hrest
  rw [dirPart_append_namePart, ← String.toList_ofList (l := dirPart word),
    ← String.toList_append] at hword
  rw [candidate]
  split
  · rw [String.toList_append]
    exact hword.trans (List.prefix_append _ _)
  · exact hword

variable {σ : Type} [Host σ]

/-- Completion at a cursor, when this is the text before the word, the word, and the text behind the
cursor. -/
structure Completes (names : List String) (host : σ) (line : String) (cursor : Nat)
    (lead word rest : List Char) : Prop where
  line_eq : line.toList = lead ++ word ++ rest
  cursor_eq : cursor = byteCount (lead ++ word)
  start_eq : (complete names host line cursor).1 = byteCount lead
  start_isValid : (⟨(complete names host line cursor).1⟩ : String.Pos.Raw).IsValid line
  start_le : (complete names host line cursor).1 ≤ cursor
  unblank : ∀ c ∈ word, isBlank c = false
  longest {word' : List Char} : word' <:+ lead ++ word → (∀ c ∈ word', isBlank c = false) →
    word' <:+ word
  ofCommands : (∀ c ∈ lead, isBlank c = true) →
    (complete names host line cursor).2 = CommandNames.candidates names word
  ofPaths : (¬ ∀ c ∈ lead, isBlank c = true) →
    (complete names host line cursor).2 = PathNames.candidates host word
  kept {c : Candidate} : c ∈ (complete names host line cursor).2 →
    word <+: c.display.toList ∧ word <+: c.replacement.toList
  /-- With the candidate in the place of the word, everything that was typed is still there. -/
  extends_line {c : Candidate} : c ∈ (complete names host line cursor).2 →
    ∃ more, lead ++ c.replacement.toList ++ rest = lead ++ word ++ more ++ rest
  any_rest (other : List Char) :
    complete names host (String.ofList (lead ++ word ++ other)) cursor = complete names host line cursor

theorem complete_at (names : List String) (host : σ) (before rest : List Char) :
    complete names host (String.ofList (before ++ rest)) (byteCount before) =
      (byteCount (leadBefore before),
        if (leadBefore before).all isBlank then CommandNames.candidates names (wordBefore before)
        else PathNames.candidates host (wordBefore before)) := by
  have hbefore : charsBefore (byteCount before) (before ++ rest) = before := by
    rw [← length_utf8]
    exact charsBefore_bytes before rest
  simp only [complete, String.toList_ofList, hbefore, length_utf8]

theorem isPrefix_of_mem_complete {names : List String} {host : σ} {before rest : List Char}
    {c : Candidate}
    (h : c ∈ (complete names host (String.ofList (before ++ rest)) (byteCount before)).2) :
    wordBefore before <+: c.display.toList := by
  rw [complete_at] at h
  dsimp only at h
  split at h
  · exact CommandNames.isPrefix_of_mem h
  · exact PathNames.isPrefix_of_mem h

theorem completes (names : List String) (host : σ) (before rest : List Char) :
    Completes names host (String.ofList (before ++ rest)) (byteCount before) (leadBefore before)
      (wordBefore before) rest where
  line_eq := by rw [String.toList_ofList, leadBefore_append_wordBefore]
  cursor_eq := by rw [leadBefore_append_wordBefore]
  start_eq := by rw [complete_at]
  start_isValid := by
    rw [complete_at, isValid_iff]
    refine ⟨leadBefore before, wordBefore before ++ rest, ?_, rfl⟩
    rw [String.toList_ofList, ← List.append_assoc, leadBefore_append_wordBefore]
  start_le := by
    have hcount := congrArg byteCount (leadBefore_append_wordBefore before)
    rw [byteCount_append] at hcount
    rw [complete_at]
    omega
  unblank _ := isBlank_of_mem_wordBefore
  longest hword hblank := by
    rw [leadBefore_append_wordBefore] at hword
    exact suffix_wordBefore hword hblank
  ofCommands hblank := by rw [complete_at, if_pos (List.all_eq_true.mpr hblank)]
  ofPaths hblank := by rw [complete_at, if_neg fun hall => hblank (List.all_eq_true.mp hall)]
  kept {c} hc := by
    have hdisplay := isPrefix_of_mem_complete hc
    obtain ⟨tail, -, hreplacement⟩ := exists_tail_of_mem hc
    rw [hreplacement]
    exact ⟨hdisplay, hdisplay.trans (List.prefix_append _ _)⟩
  extends_line {c} hc := by
    obtain ⟨more, hdisplay⟩ := isPrefix_of_mem_complete hc
    obtain ⟨tail, -, hreplacement⟩ := exists_tail_of_mem hc
    refine ⟨more ++ tail, ?_⟩
    rw [hreplacement, ← hdisplay]
    simp only [List.append_assoc]
  any_rest other := by rw [leadBefore_append_wordBefore, complete_at, complete_at]

/-- At every cursor between two characters completion takes up the longest word before it, and no
candidate takes anything of that word away. -/
theorem complete_keeps_typed {line : String} {cursor : Nat}
    (h : (⟨cursor⟩ : String.Pos.Raw).IsValid line) (names : List String) (host : σ) :
    ∃ lead word rest, Completes names host line cursor lead word rest := by
  obtain ⟨before, rest, hline, rfl⟩ := (isValid_iff line cursor).mp h
  obtain rfl : line = String.ofList (before ++ rest) := by rw [← hline, String.ofList_toList]
  exact ⟨_, _, _, completes names host before rest⟩

def shelved : Sandbox where
  tree := { nodes := #[.directory 0 [("src", 1)], .directory 0 [("main", 2)], .file [] 0o644] }

/-- The word begins behind the three bytes of a wide blank, and the blank behind the cursor does not
count. -/
theorem complete_keeps_typed_shelved :
    (⟨11⟩ : String.Pos.Raw).IsValid "cat\u3000src/m -n" ∧
      (complete [] shelved "cat\u3000src/m -n" 11).1 = 6 ∧
      ⟨"src/main", "src/main "⟩ ∈ (complete [] shelved "cat\u3000src/m -n" 11).2 ∧
      ∃ lead word rest, Completes [] shelved "cat\u3000src/m -n" 11 lead word rest ∧
        byteCount lead = 6 ∧ word <+: "src/main".toList := by
  have hvalid : (⟨11⟩ : String.Pos.Raw).IsValid "cat\u3000src/m -n" :=
    (isValid_iff _ _).mpr ⟨"cat\u3000src/m".toList, " -n".toList, by decide, by decide⟩
  have hstart : (complete [] shelved "cat\u3000src/m -n" 11).1 = 6 := by decide
  have hword : wordBefore (charsBefore 11 "cat\u3000src/m -n".toList) = "src/m".toList := by decide
  have hsearched : PathNames.searched "src/m".toList = "src/" := by decide
  have hread : Host.readDir shelved "src/" = .ok [.ok ⟨utf8 "main", .ok .file⟩] := by cbv
  have hnames : Sandbox.Tree.components ("src/" ++ "main") = ["src", "main"] := by decide
  have hdir : Host.isDir shelved (PathNames.pathTo "src/m".toList "main") = false := by
    have hpath : PathNames.pathTo "src/m".toList "main" = "src/" ++ "main" := by decide
    have horigin : Sandbox.Tree.origin shelved.here ("src/" ++ "main") = 0 := by decide
    rw [hpath, Host.isDir, Sandbox.stat_eq_walk (by decide) hnames, horigin]
    cbv
  have hmem : ⟨"src/main", "src/main "⟩ ∈ (complete [] shelved "cat\u3000src/m -n" 11).2 := by
    rw [complete_of_lead (by decide) hword, PathNames.mem_candidates_iff, hsearched]
    refine ⟨_, hread, "main", by decide, by decide, ?_⟩
    rw [hdir]
    decide
  obtain ⟨lead, word, rest, hcompletes⟩ := complete_keeps_typed hvalid [] shelved
  exact ⟨hvalid, hstart, hmem, lead, word, rest, hcompletes, hcompletes.start_eq.symm.trans hstart,
    (hcompletes.kept hmem).1⟩

end LineShell
