import LineShell.Proofs.Text.Runs
import LineShell.Proofs.Words.Kept
import LineShell.Proofs.Words.Writing

/-! Lines without quotes and escapes.  Their words are their longest stretches without a separator. -/
namespace LineShell

/-- Nothing in the text changes the meaning of anything else in it. -/
def Unquoted (text : List Char) : Prop := ∀ c ∈ text, isQuote c = false ∧ c ≠ '\\'

instance (text : List Char) : Decidable (Unquoted text) :=
  List.decidableBAll _ text

namespace Unquoted
variable {text more : List Char}

theorem isPlain_eq (h : Unquoted text) {c : Char} (hc : c ∈ text) :
    isPlain c = !isSeparator c := by
  obtain ⟨hquote, hne⟩ := h c hc
  simp [isPlain, hquote, hne]

theorem of_append (h : Unquoted (text ++ more)) : Unquoted text ∧ Unquoted more :=
  ⟨fun c hc => h c (List.mem_append_left _ hc), fun c hc => h c (List.mem_append_right _ hc)⟩

theorem settled_foldl (h : Unquoted text) {s : Scan} (hs : s.Settled) :
    (text.foldl Scan.step s).Settled := by
  induction text generalizing s with
  | nil => exact hs
  | cons c rest ih =>
    obtain ⟨hquote, hne⟩ := h c (by simp)
    refine ih (fun d hd => h d (by simp [hd])) ⟨?_, ?_⟩
    · rw [Scan.quoted_step, hs.quoted, hquote]
      rfl
    · simp [Scan.escaped_step, hne]

theorem settled (h : Unquoted text) : (scan text).Settled := h.settled_foldl ⟨rfl, rfl⟩

end Unquoted

/-- A word that is followed by another run is finished by it. -/
theorem foldl_atEnd_gap {gap : List Char} (h : AreSeparators gap) (hgap : gap ≠ [])
    {word : List Char} (hword : word ≠ []) (done : List (List Char)) :
    gap.foldl Scan.step (.atEnd done word) = .between (word :: done) := by
  cases gap with
  | nil => exact absurd rfl hgap
  | cons c rest =>
    rw [List.foldl_cons, step_separator (h c (by simp)) hword,
      foldl_gap fun d hd => h d (by simp [hd])]

theorem words_foldl_runs {text : List Char} (h : Unquoted text) {rs : List (Bool × List Char)}
    (hruns : AreRuns (fun c => !isSeparator c) text rs) (done : List (List Char)) :
    (text.foldl Scan.step (.between done)).words =
      done.reverse ++ (rs.filter (·.1)).map (·.2) := by
  induction rs generalizing text done with
  | nil =>
    obtain rfl : [] = text := hruns.flatten
    simp [Scan.words_eq, Scan.between]
  | cons r rest ih =>
    obtain ⟨kind, run⟩ := r
    obtain rfl : run ++ rest.flatMap (·.2) = text := hruns.flatten
    have hrun : ∀ c ∈ run, (!isSeparator c) = kind := hruns.uniform (kind, run) (by simp)
    have hne : run ≠ [] := hruns.nonempty (kind, run) (by simp)
    obtain ⟨hfirst, hmore⟩ := h.of_append
    rw [List.foldl_append]
    cases kind with
    | false =>
      rw [foldl_gap fun c hc => by simpa using hrun c hc, ih hmore hruns.tail]
      rfl
    | true =>
      have hplain : ∀ c ∈ run, isPlain c = true := fun c hc =>
        (hfirst.isPlain_eq hc).trans (hrun c hc)
      have hend : run.foldl Scan.step (.between done) = .atEnd done run := by
        rw [Scan.Settled.foldl_plain ⟨rfl, rfl⟩ hplain]
        simp [Scan.between, Scan.atEnd]
      rw [hend]
      cases rest with
      | nil => simp [Scan.words_eq, Scan.atEnd, hne]
      | cons r more =>
        obtain ⟨kind, gap⟩ := r
        obtain rfl : false = kind := by simpa using hruns.alternating.1
        have hgap : AreSeparators gap := fun c hc => by
          simpa using hruns.uniform (false, gap) (by simp) c hc
        have hrest := ih hmore hruns.tail (run :: done)
        rw [List.flatMap_cons, List.foldl_append, foldl_gap hgap] at hrest
        rw [List.flatMap_cons, List.foldl_append,
          foldl_atEnd_gap hgap (hruns.nonempty (false, gap) (by simp)) hne, hrest]
        simp

/-- The words of such a text are its runs without separators. -/
theorem Unquoted.wordsOf_eq {text : List Char} (h : Unquoted text) :
    wordsOf text = runsOf (fun c => !isSeparator c) text :=
  words_foldl_runs h (areRuns_runs _ _) []

end LineShell
