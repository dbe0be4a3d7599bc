import LineShell.Proofs.Completion.Word
import LineShell.Proofs.Words.Kept
import LineShell.Sandbox
import Mathlib

/-! What becomes of a candidate that is chosen.  It goes in as it is shown, with a space after it if
it is no directory, and the line is cut into words again. -/
namespace LineShell

def textBefore (position : Nat) (line : String) : String :=
  String.ofList (charsBefore position line.toList)

variable {σ : Type} [Host σ]

theorem textBefore_start (names : List String) (host : σ) (line : String) (cursor : Nat) :
    textBefore (complete names host line cursor).1 line =
      String.ofList (leadBefore (charsBefore cursor line.toList)) := by
  obtain ⟨rest, hline⟩ := charsBefore_isPrefix cursor line.toList
  have hbytes := charsBefore_bytes (leadBefore (charsBefore cursor line.toList))
    (wordBefore (charsBefore cursor line.toList) ++ rest)
  rw [← List.append_assoc, leadBefore_append_wordBefore, hline] at hbytes
  have hstart : (complete names host line cursor).1 =
      (utf8 (String.ofList (leadBefore (charsBefore cursor line.toList)))).length := by
    rw [complete]
  rw [textBefore, hstart, hbytes]

/-- The words of a line in which a candidate was chosen are those before it, and the candidate as it
was shown. -/
def ChosenIsShown (names : List String) (host : σ) (line : String) (cursor : Nat) (c : Candidate) :
    Prop :=
  words (textBefore (complete names host line cursor).1 line ++ c.replacement) =
    words (textBefore (complete names host line cursor).1 line) ++ [c.display]

theorem words_append_iff {before display replacement : String} {tail : List Char}
    (hsettled : (scan before.toList).Settled) (htail : tail = [] ∨ tail = [' '])
    (hreplacement : replacement.toList = display.toList ++ tail) :
    words (before ++ replacement) = words before ++ [display] ↔
      (scan before.toList).word = [] ∧ display ≠ "" ∧ display.toList.all isPlain = true := by
  have hlift : words (before ++ replacement) = words before ++ [display] ↔
      wordsOf (before ++ replacement).toList = wordsOf before.toList ++ [display.toList] := by
    have hdisplay : [display] = [display.toList].map String.ofList := by simp
    rw [words, words, hdisplay, ← List.map_append]
    exact (List.map_injective_iff.mpr fun _ _ => String.ofList_inj.mp).eq_iff
  rw [hlift, String.toList_append, hreplacement, wordsOf, scan_append,
    wordsOf, hsettled.words_foldl_eq_concat_iff htail]
  simp

/-- Outside quotes a candidate that is chosen comes out as it was shown if and only if a word begins
where it is put, and nothing in it means anything to the shell. -/
theorem chosenIsShown_iff (names : List String) (host : σ) (line : String) (cursor : Nat)
    {c : Candidate} (h : c ∈ (complete names host line cursor).2)
    (hsettled :
      (scan (textBefore (complete names host line cursor).1 line).toList).Settled) :
    ChosenIsShown names host line cursor c ↔
      (scan (textBefore (complete names host line cursor).1 line).toList).word = [] ∧
        c.display ≠ "" ∧ c.display.toList.all isPlain = true := by
  obtain ⟨tail, htail, hreplacement⟩ := exists_tail_of_mem h
  exact words_append_iff hsettled htail hreplacement

def holding (name : String) : Sandbox where
  tree := { nodes := #[.directory 0 [(name, 1)], .file [] 0o644] }

theorem candidates_alone {host : σ} {name : String}
    (hread : Host.readDir host "." = .ok [.ok { name := utf8 name, kind := .ok .file }])
    (hdir : Host.isDir host ("./" ++ name) = false) (hname : PathNames.fits ['a'] name = true) :
    PathNames.candidates host ['a'] = [⟨name, name ++ " "⟩] := by
  have hsearched : PathNames.searched ['a'] = "." := by decide
  have hpath (name : String) : PathNames.pathTo ['a'] name = "./" ++ name := rfl
  have hpart : PathNames.namePart ['a'] = ['a'] := by decide
  have hnames : textNames (readable [.ok { name := utf8 name, kind := .ok .file }]) = [name] := by
    have hutf8 : ofUtf8? (utf8 name) = some name := ofUtf8?_eq_some_iff.mpr rfl
    simp [textNames, readable, Except.toOption, hutf8]
  have hshown : String.ofList (PathNames.dirPart ['a']) ++ name = name := by
    rw [show String.ofList (PathNames.dirPart ['a']) = "" from rfl, String.empty_append]
  rw [PathNames.candidates, hsearched, hread]
  simp only [PathNames.among, hnames, hpart, hpath, hdir, List.map_cons, List.map_nil,
    List.filter_cons_of_pos hname, List.filter_nil, List.mergeSort_singleton, PathNames.candidate,
    hshown]
  rfl

theorem candidates_a : PathNames.candidates (holding "a") ['a'] = [⟨"a", "a "⟩] :=
  candidates_alone (by cbv) (by cbv) (by decide)

/-- An argument that begins with an `a` is completed with the name of the only file. -/
theorem mem_complete {names : List String} {host : σ} {name line : String} {cursor : Nat}
    (hcandidates : PathNames.candidates host ['a'] = [⟨name, name ++ " "⟩])
    (hlead : (leadBefore (charsBefore cursor line.toList)).all isBlank = false)
    (hword : wordBefore (charsBefore cursor line.toList) = ['a']) :
    ⟨name, name ++ " "⟩ ∈ (complete names host line cursor).2 := by
  rw [complete_of_lead hlead hword, hcandidates]
  exact List.mem_singleton_self _

theorem textBefore_cat (host : σ) :
    textBefore (complete [] host "cat a" 5).1 "cat a" = "cat " := by
  rw [textBefore_start]
  decide

theorem settled_cat (host : σ) :
    (scan (textBefore (complete [] host "cat a" 5).1 "cat a").toList).Settled := by
  rw [textBefore_cat]
  exact ⟨by decide, by decide⟩

theorem chosenIsShown_iff_holding :
    ⟨"a", "a "⟩ ∈ (complete [] (holding "a") "cat a" 5).2 ∧
      (scan (textBefore (complete [] (holding "a") "cat a" 5).1 "cat a").toList).Settled ∧
      ChosenIsShown [] (holding "a") "cat a" 5 ⟨"a", "a "⟩ := by
  have hmem : ⟨"a", "a "⟩ ∈ (complete [] (holding "a") "cat a" 5).2 :=
    mem_complete candidates_a (by decide) (by decide)
  have hsettled := settled_cat (holding "a")
  refine ⟨hmem, hsettled, (chosenIsShown_iff [] (holding "a") "cat a" 5 hmem hsettled).mpr ?_⟩
  rw [textBefore_cat]
  decide

/-- A name with a space in it comes out as two words, and a name that is put after a no-break space
becomes a part of the word before it. -/
theorem chosen_not_shown :
    (⟨"a b", "a b "⟩ ∈ (complete [] (holding "a b") "cat a" 5).2 ∧
      (scan (textBefore (complete [] (holding "a b") "cat a" 5).1 "cat a").toList).Settled ∧
      ¬ ChosenIsShown [] (holding "a b") "cat a" 5 ⟨"a b", "a b "⟩) ∧
    ⟨"a", "a "⟩ ∈ (complete [] (holding "a") "cat\u00a0a" 6).2 ∧
      (scan (textBefore (complete [] (holding "a") "cat\u00a0a" 6).1 "cat\u00a0a").toList).Settled ∧
      ¬ ChosenIsShown [] (holding "a") "cat\u00a0a" 6 ⟨"a", "a "⟩ := by
  have hbefore : textBefore (complete [] (holding "a") "cat\u00a0a" 6).1 "cat\u00a0a" =
      "cat\u00a0" := by
    rw [textBefore_start]
    decide
  refine ⟨⟨?_, settled_cat _, ?_⟩, ?_, ?_, ?_⟩
  · exact mem_complete (candidates_alone (by cbv) (by cbv) (by decide)) (by decide) (by decide)
  · rw [ChosenIsShown, textBefore_cat]
    decide
  · exact mem_complete candidates_a (by decide) (by decide)
  · rw [hbefore]
    exact ⟨by decide, by decide⟩
  · rw [ChosenIsShown, hbefore]
    decide

end LineShell
