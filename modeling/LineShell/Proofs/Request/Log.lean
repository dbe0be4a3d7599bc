import LineShell.Proofs.Command.Changes
import LineShell.Proofs.Request.Basic
import LineShell.Proofs.Words.Blank
import LineShell.Sandbox

/-! The log of a shell.  It goes by the lines that were typed and by nothing else: neither by what
came of them nor by what the shell was asked besides. -/
namespace LineShell

def Request.recorded? {σ : Type} : Request σ → Option String
  | .line text => if words text = [] then none else some text
  | .perform _ | .call _ _ | .startup _ | .meanwhile _ => none

namespace Shell
variable {ω ε σ : Type} [Sink ω] [Sink ε] [Host σ]

theorem history_typed (s : Shell ω ε σ) (line : String) :
    (s.typed line).2.history = if words line = [] then s.history else s.history.record line := by
  rw [typed]
  by_cases h : words line = []
  · simp [h]
  · rw [if_neg (by simpa using h), if_neg h]
    exact (changes_perform (s.remember line) (words line)).history

theorem history_serve (s : Shell ω ε σ) (request : Request σ) :
    (s.serve request).2.history =
      request.recorded?.toList.foldl History.record s.history := by
  cases request with
  | line text =>
    rw [serve, Request.recorded?, history_typed]
    split <;> rfl
  | perform argv => exact (changes_perform s argv).history
  | call b args => exact (changes_run (ε := ε) b s args).history
  | startup file => exact (changes_load s file).history
  | meanwhile host => rfl

/-- After any requests the log is what it was, with the typed lines that have words recorded as they
stand and in order.  A line of quotes and separators is one of them only if it quotes a separator. -/
theorem history_afterAll (s : Shell ω ε σ) (requests : List (Request σ)) :
    (s.afterAll requests).history =
        (requests.filterMap Request.recorded?).foldl History.record s.history ∧
      ∀ line : String, (∀ c ∈ line.toList, isQuote c = true ∨ isSeparator c = true) →
        ((Request.line line : Request σ).recorded? = none ↔
          ∀ i < line.toList.length, Positional.holdsAt isSeparator line.toList i = true →
            Positional.isQuoted line.toList i = false) := by
  constructor
  · induction requests generalizing s with
    | nil => rfl
    | cons request rest ih =>
      rw [afterAll_cons, ih, history_serve, List.filterMap_cons]
      cases request.recorded? <;> rfl
  · intro line hline
    rw [← Positional.words_eq_nil_iff_of_all hline, Request.recorded?]
    split <;> simp [*]

def unwritten : Shell Limited Limited Sandbox where
  dir := "/"
  host := {}
  out := {}
  err := {}

/-- Three characters, none of which is anything but a quote or a separator, are recorded. -/
theorem history_quoted_separator :
    (∀ c ∈ "\" \"".toList, isQuote c = true ∨ isSeparator c = true) ∧
      (unwritten.afterAll [.line "\" \""]).history.lines = ["\" \""] := by
  refine ⟨by simp [isQuote, isSeparator], ?_⟩
  rw [afterAll_cons, afterAll_nil, history_serve]
  decide

theorem history_afterAll_unwritten :
    (unwritten.afterAll [.line "\"\" '", .perform ["unset"], .line " unset", .line "' '",
        .line "exit", .call .history []]).history.lines = [" unset", "' '", "exit"] ∧
      (∀ c ∈ "\"\" '".toList, isQuote c = true ∨ isSeparator c = true) ∧
      (Request.line "\"\" '" : Request Sandbox).recorded? = none := by
  have hchars : ∀ c ∈ "\"\" '".toList, isQuote c = true ∨ isSeparator c = true := by
    simp [isQuote, isSeparator]
  obtain ⟨hlog, hblank⟩ := history_afterAll unwritten [.line "\"\" '", .perform ["unset"],
    .line " unset", .line "' '", .line "exit", .call .history []]
  refine ⟨?_, hchars, (hblank _ hchars).mpr ?_⟩
  · rw [hlog]
    decide
  · decide

end Shell
end LineShell
