import LineShell.Proofs.Checked.Line
import LineShell.Proofs.Text.Runs
import Mathlib

/-! The segments that a line is colored by.  They are its maximal stretches of blanks and of other
characters, and cutting the line at the bytes where one ends and the next begins gives just these. -/
namespace LineShell

/-- A line is cut into runs in one way only, none of them could be longer, and the cuts lie between two
characters.  Only the empty line has none. -/
theorem segments_exact (line : String) :
    (∀ rs, AreRuns (fun c => !isBlank c) line.toList rs ↔
      rs = runs (fun c => !isBlank c) line.toList) ∧
    (∀ before r after, runs (fun c => !isBlank c) line.toList = before ++ r :: after →
      IsMaximalRun (fun c => !isBlank c) (before.flatMap (·.2)) r.2 (after.flatMap (·.2))) ∧
    Checked.segments (fun c => !isBlank c) line.toList =
      .ok (runs (fun c => !isBlank c) line.toList) ∧
    (runs (fun c => !isBlank c) line.toList = [] ↔ line = "") := by
  have hruns : AreRuns (fun c => !isBlank c) line.toList (runs (fun c => !isBlank c) line.toList) :=
    areRuns_runs _ _
  refine ⟨fun rs => ⟨fun h => h.eq_runs, fun h => h ▸ hruns⟩, ?_, Checked.segments_eq _ _, ?_⟩
  · intro before r after hparts
    rw [hparts] at hruns
    exact hruns.isMaximalRun
  · constructor
    · intro hnil
      have hflatten := hruns.flatten
      rw [hnil] at hflatten
      exact String.toList_eq_nil_iff.mp hflatten.symm
    · rintro rfl
      rfl

theorem segments_exact_wide :
    runs (fun c => !isBlank c) "ls\u3000-é ".toList =
        [(true, ['l', 's']), (false, ['\u3000']), (true, ['-', 'é']), (false, [' '])] ∧
      Checked.segments (fun c => !isBlank c) "ls\u3000-é ".toList =
        .ok [(true, ['l', 's']), (false, ['\u3000']), (true, ['-', 'é']), (false, [' '])] ∧
      IsMaximalRun (fun c => !isBlank c) ['l', 's', '\u3000'] ['-', 'é'] [' '] := by
  have hruns : runs (fun c => !isBlank c) "ls\u3000-é ".toList =
      [(true, ['l', 's']), (false, ['\u3000']), (true, ['-', 'é']), (false, [' '])] := by decide
  obtain ⟨-, hmaximal, hsegments, -⟩ := segments_exact "ls\u3000-é "
  rw [hruns] at hsegments
  exact ⟨hruns, hsegments, hmaximal [(true, ['l', 's']), (false, ['\u3000'])] _ _ hruns⟩

end LineShell
