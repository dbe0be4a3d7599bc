import LineShell.Proofs.Command.Lockstep
import LineShell.Sandbox
import Mathlib

/-! Sourcing a startup file agrees with typing it.  The two shells run side by side and differ in
their logs alone, which no command but the listing of the log goes by. -/
namespace LineShell.Shell
variable {ω ε σ : Type}

def AgreeButLog (s t : Shell ω ε σ) : Prop := ∃ history, t = { s with history }

theorem AgreeButLog.remember {s t : Shell ω ε σ} (h : AgreeButLog s t) (line : String) :
    AgreeButLog s (t.remember line) := by
  obtain ⟨history, rfl⟩ := h
  exact ⟨history.record line, rfl⟩

theorem AgreeButLog.eq {s t : Shell ω ε σ} (h : AgreeButLog s t) :
    s = { t with history := s.history } := by
  obtain ⟨history, rfl⟩ := h
  rfl

variable [Sink ω] [Sink ε]

theorem lockstep_agreeButLog : Lockstep (AgreeButLog (ω := ω) (ε := ε) (σ := σ)) where
  dir := by rintro s t ⟨history, rfl⟩; rfl
  running := by rintro s t ⟨history, rfl⟩; rfl
  env := by rintro s t ⟨history, rfl⟩; rfl
  host := by rintro s t ⟨history, rfl⟩; rfl
  print := by rintro s t ⟨history, rfl⟩ text; exact ⟨rfl, history, rfl⟩
  complain := by rintro s t ⟨history, rfl⟩ line; exact ⟨history, rfl⟩
  stop := by rintro s t ⟨history, rfl⟩; exact ⟨history, rfl⟩
  move := by rintro s t ⟨history, rfl⟩ host dir; exact ⟨history, rfl⟩
  bind := by rintro s t ⟨history, rfl⟩ env; exact ⟨history, rfl⟩
  launch := by rintro s t ⟨history, rfl⟩ argv launched; exact ⟨history, rfl⟩

variable [Host σ]

/-- Types line after line, up to one that leaves the shell or stops it. -/
def typeAll (s : Shell ω ε σ) : List String → Next × Shell ω ε σ
  | [] => (.proceed, s)
  | line :: rest =>
    match s.typed line with
    | (.leave status, s) => (.leave status, s)
    | (.proceed, s) => if s.running then s.typeAll rest else (.proceed, s)

/-- The lines that are typed in this way: all up to one that ends the session, with that one. -/
def linesTyped (s : Shell ω ε σ) : List String → List String
  | [] => []
  | line :: rest =>
    line :: match s.typed line with
      | (.leave _, _) => []
      | (.proceed, s) => if s.running then s.linesTyped rest else []

def linesToType (lines : List String) : List String :=
  lines.filter fun line => (line.toList.find? fun c => !isBlank c) != some '#'

theorem head?_dropWhile_eq_find? {α : Type} (p : α → Bool) (xs : List α) :
    (xs.dropWhile p).head? = xs.find? fun x => !p x := by
  induction xs with
  | nil => rfl
  | cons x rest ih => cases hx : p x <;> simp [hx, ih]

theorem linesToType_cons (line : String) (rest : List String) :
    linesToType (line :: rest) =
      if isComment line then linesToType rest else line :: linesToType rest := by
  have h : isComment line = ((line.toList.find? fun c => !isBlank c) == some '#') := by
    rw [isComment, head?_dropWhile_eq_find?]
  cases hcomment : isComment line
  · rw [hcomment] at h
    simp [linesToType, bne, ← h]
  · rw [hcomment] at h
    simp [linesToType, bne, ← h]

theorem source_together_typeAll {s t : Shell ω ε σ} (h : AgreeButLog s t)
    (hrunning : t.running = true) (lines : List String)
    (hlog : ∀ line ∈ t.linesTyped (linesToType lines), (words line).head? ≠ some Builtin.history.name) :
    Together AgreeButLog (s.source lines) (t.typeAll (linesToType lines)) := by
  induction lines generalizing s t with
  | nil => exact .of_rel _ h
  | cons line rest ih =>
    rw [source]
    by_cases hcomment : isComment line = true
    · rw [linesToType_cons, if_pos hcomment] at hlog ⊢
      simpa [hcomment] using ih h hrunning hlog
    · rw [linesToType_cons, if_neg hcomment] at hlog ⊢
      rw [typeAll]
      rw [linesTyped] at hlog
      by_cases hempty : (words line).isEmpty = true
      · have htyped : t.typed line = (.proceed, t) := by rw [typed, if_pos hempty]
        rw [htyped] at hlog ⊢
        simp only [hrunning, if_true] at hlog ⊢
        simpa [hempty] using ih h hrunning fun l hl => hlog l (by simp [hl])
      · have htyped : t.typed line = (t.remember line).perform (words line) := by
          rw [typed, if_neg hempty]
        rw [htyped] at hlog ⊢
        obtain ⟨next, s', t', hs, ht, h'⟩ :=
          lockstep_agreeButLog.perform (h.remember line) (words line)
            fun hhead => absurd hhead (hlog line (by simp))
        rw [ht] at hlog ⊢
        simp only [hcomment, hempty, hs, Bool.or_self]
        cases next with
        | leave status => exact .of_rel _ h'
        | proceed =>
          simp only [lockstep_agreeButLog.running h']
          by_cases hrun : t'.running = true
          · simp only [hrun, if_true] at hlog ⊢
            exact ih h' hrun fun l hl => hlog l (by simp [hl])
          · simp only [hrun]
            exact .of_rel _ h'

/-- A startup file that is text does what typing its lines does, comments left out, except that the
log stays as it was.  No line that is typed may list the log. -/
theorem load_eq_typeAll (s : Shell ω ε σ) (file : StartupFile) (bytes : List UInt8) (text : String)
    (hrunning : s.running = true) (hfile : Host.readFile s.host file.path = .ok bytes)
    (htext : ofUtf8? bytes = some text)
    (hlog : ∀ line ∈ s.linesTyped (linesToType (textLines text)), (words line).head? ≠ some Builtin.history.name) :
    s.load file =
      (.ok (s.typeAll (linesToType (textLines text))).1,
        { (s.typeAll (linesToType (textLines text))).2 with history := s.history }) := by
  have hstart : AgreeButLog s s := ⟨s.history, rfl⟩
  obtain ⟨next, s', t', hs, ht, h⟩ := source_together_typeAll hstart hrunning _ hlog
  have hsource : s'.history = s.history := by
    have hchanges := (changes_source s (textLines text)).history
    rwa [hs] at hchanges
  rw [load, hfile, ht]
  simp only [htext, hs]
  rw [h.eq, hsource]

/-- A comment, an indented line, a blank one, a command that fails, and a line after the last. -/
def sampleText : String := "# history\n\techo hi\n\nunset\nexit 3\nhistory\n"

/-- A shell whose output has room for a greeting and a farewell, on a system with that file. -/
def sample : Shell Limited Limited Sandbox where
  dir := "/"
  host := { tree := { nodes := #[.directory 0 [("rc", 1)], .file (utf8 sampleText) 0o644] } }
  history := { capacity := 2, lines := ["pwd"] }
  out := { room := some 12 }
  err := {}

theorem load_eq_typeAll_sample :
    (∀ line ∈ sample.linesTyped (linesToType (textLines sampleText)),
      (words line).head? ≠ some Builtin.history.name) ∧
    sample.load { path := "/rc", named := true } =
      (.ok (sample.typeAll (linesToType (textLines sampleText))).1,
        { (sample.typeAll (linesToType (textLines sampleText))).2 with
          history := sample.history }) := by
  have hfile : Host.readFile sample.host "/rc" = .ok (utf8 sampleText) := by cbv
  have htext : ofUtf8? (utf8 sampleText) = some sampleText := by decide
  have hlog : ∀ line ∈ sample.linesTyped (linesToType (textLines sampleText)),
      (words line).head? ≠ some Builtin.history.name := by decide +kernel
  exact ⟨hlog, load_eq_typeAll sample { path := "/rc", named := true } _ _ rfl hfile htext hlog⟩

end LineShell.Shell
