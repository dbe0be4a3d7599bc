import LineShell.Proofs.Command.Changes

/-! Two shells side by side that may part.  As long as the same comes of both they stay tied.  Once
they have parted it does not matter any more what either of them does. -/
namespace LineShell.Shell
variable {ω ω' ε ε' σ : Type}

/-- One turn of a session: a single change, a line that is recorded, the output flushed, a line
asked for, or signals heeded. -/
inductive Turn [Sink ω] [Sink ε] : Shell ω ε σ → Shell ω ε σ → Prop
  | change {s t : Shell ω ε σ} (h : Change s t) : Turn s t
  | remember (s : Shell ω ε σ) (line : String) : Turn s (s.remember line)
  | flush (s : Shell ω ε σ) : Turn s s.flush.2
  | read (s : Shell ω ε σ) (prompt : String) : Turn s (s.note (.read prompt))
  | heed (s : Shell ω ε σ) : Turn s { s with signals := [] }

abbrev Turns [Sink ω] [Sink ε] : Shell ω ε σ → Shell ω ε σ → Prop := Relation.ReflTransGen Turn

theorem Changes.turns [Sink ω] [Sink ε] {s t : Shell ω ε σ} (h : Changes s t) : Turns s t :=
  h.lift id fun _ _ => .change

/-- Both sides answer the same and are still tied. -/
def Together {α : Type} (R : Shell ω ε σ → Shell ω' ε' σ → Prop) (a : α × Shell ω ε σ)
    (b : α × Shell ω' ε' σ) : Prop :=
  ∃ answer s t, a = (answer, s) ∧ b = (answer, t) ∧ R s t

namespace Together
variable {α : Type} {R : Shell ω ε σ → Shell ω' ε' σ → Prop} {s : Shell ω ε σ}
  {t : Shell ω' ε' σ}

theorem of_rel (answer : α) (h : R s t) : Together R (answer, s) (answer, t) :=
  ⟨answer, s, t, rfl, rfl, h⟩

theorem of_eq {a : α × Shell ω ε σ} {b : α × Shell ω' ε' σ} (h : a.1 = b.1 ∧ R a.2 b.2) :
    Together R a b :=
  ⟨a.1, a.2, b.2, rfl, by rw [h.1], h.2⟩

end Together

/-- Both sides answer the same and are tied by `R`, or they have parted as `Q` says. -/
def Abreast {α : Type} (R Q : Shell ω ε σ → Shell ω' ε' σ → Prop) (a : α × Shell ω ε σ)
    (b : α × Shell ω' ε' σ) : Prop :=
  Together R a b ∨ Q a.2 b.2

theorem Abreast.of_rel {α : Type} {R Q : Shell ω ε σ → Shell ω' ε' σ → Prop} {s : Shell ω ε σ}
    {t : Shell ω' ε' σ} (answer : α) (h : R s t) : Abreast R Q (answer, s) (answer, t) :=
  .inl (.of_rel answer h)

/-- Only printing can part two shells.  The log is left out: only the command that lists it goes by
it. -/
structure Parting [Sink ω] [Sink ω'] [Sink ε] [Sink ε']
    (R Q : Shell ω ε σ → Shell ω' ε' σ → Prop) : Prop where
  dir {s t} : R s t → s.dir = t.dir
  running {s t} : R s t → s.running = t.running
  env {s t} : R s t → s.env = t.env
  host {s t} : R s t → s.host = t.host
  print {s t} (h : R s t) (text : String) : Abreast R Q (s.print text) (t.print text)
  complain {s t} (h : R s t) (line : String) : R (s.complain line) (t.complain line)
  stop {s t} (h : R s t) : R { s with running := false } { t with running := false }
  move {s t} (h : R s t) (host : σ) (dir : String) : R { s with host, dir } { t with host, dir }
  bind {s t} (h : R s t) (env : Environment) : R { s with env } { t with env }
  launch {s t} (h : R s t) (argv : List String) (launched : Launched σ) :
    R (s.afterLaunch argv launched) (t.afterLaunch argv launched)
  /-- Those who have parted do not meet again. -/
  left {s s' t} (h : Q s t) : Turn s s' → Q s' t
  right {s t t'} (h : Q s t) : Turn t t' → Q s t'

namespace Parting
variable [Sink ω] [Sink ω'] [Sink ε] [Sink ε'] {R Q : Shell ω ε σ → Shell ω' ε' σ → Prop}
  (hp : Parting R Q) {s : Shell ω ε σ} {t : Shell ω' ε' σ}
include hp

theorem parted {s' : Shell ω ε σ} {t' : Shell ω' ε' σ} (h : Q s t) (hs : Turns s s')
    (ht : Turns t t') : Q s' t' := by
  have hleft : Q s' t := by
    induction hs with
    | refl => exact h
    | tail _ hlast ih => exact hp.left ih hlast
  induction ht with
  | refl => exact hleft
  | tail _ hlast ih => exact hp.right ih hlast

theorem printLines (h : R s t) (lines : List String) :
    Abreast R Q (s.printLines lines) (t.printLines lines) := by
  induction lines generalizing s t with
  | nil => exact .of_rel none h
  | cons line rest ih =>
    rcases hp.print h (line ++ "\n") with ⟨fault, s', t', hs, ht, h'⟩ | hparted
    · rw [Shell.printLines, Shell.printLines, hs, ht]
      cases fault with
      | none => exact ih h'
      | some fault => exact .of_rel _ h'
    · exact .inr (hp.parted hparted (changes_printLines_cons s line rest).turns
        (changes_printLines_cons t line rest).turns)

theorem runListing (h : R s t) (lines : List String) :
    Abreast R Q (Builtin.runListing s lines) (Builtin.runListing t lines) := by
  rcases hp.printLines h lines with ⟨fault, s', t', hs, ht, h'⟩ | hparted
  · rw [Builtin.runListing, Builtin.runListing, hs, ht]
    cases fault <;> exact .of_rel _ h'
  · rw [← Builtin.snd_runListing s, ← Builtin.snd_runListing t] at hparted
    exact .inr hparted

theorem runExit (h : R s t) (args : List String) :
    Abreast R Q (Builtin.runExit s args) (Builtin.runExit t args) := by
  rcases hp.print h "Goodbye!\n" with ⟨fault, s', t', hs, ht, h'⟩ | hparted
  · rw [Builtin.runExit, Builtin.runExit, hs, ht]
    cases fault with
    | some fault => exact .of_rel _ h'
    | none =>
      cases args[1]? with
      | some status => exact .of_rel _ h'
      | none => exact .of_rel _ (hp.stop h')
  · exact .inr (hp.parted hparted (changes_goodbye s args).turns (changes_goodbye t args).turns)

theorem runAssign (h : R s t) (args : List String) :
    Abreast R Q (Builtin.runAssign s args) (Builtin.runAssign t args) := by
  rw [Builtin.runAssign, Builtin.runAssign, hp.env h]
  split
  · exact .of_rel _ h
  · split
    · exact .of_rel _ h
    · exact .of_rel _ (hp.bind h _)

theorem runRemove (h : R s t) (args : List String) :
    Abreast R Q (Builtin.runRemove s args) (Builtin.runRemove t args) := by
  rw [Builtin.runRemove, Builtin.runRemove, hp.env h]
  split
  · exact .of_rel _ h
  · split
    · exact .of_rel _ h
    · exact .of_rel _ (hp.bind h _)

variable [Host σ]

theorem runCd (h : R s t) (args : List String) :
    Abreast R Q (Builtin.runCd s args) (Builtin.runCd t args) := by
  have hdest : Builtin.destination s.env args = Builtin.destination t.env args := by rw [hp.env h]
  rw [Builtin.runCd, Builtin.runCd, hdest, hp.host h, hp.dir h]
  split
  · exact .of_rel _ h
  · exact .of_rel _ (hp.move h _ _)

/-- The log may differ, unless it is listed. -/
theorem run (h : R s t) (b : Builtin) (args : List String)
    (hlog : b = .history → s.history = t.history) : Abreast R Q (b.run s args) (b.run t args) := by
  cases b with
  | exit => exact hp.runExit h args
  | cd => exact hp.runCd h args
  | pwd =>
    rw [Builtin.run, Builtin.run, hp.dir h]
    exact hp.runListing h _
  | help => exact hp.runListing h _
  | echo => exact hp.runListing h _
  | env =>
    rw [Builtin.run, Builtin.run, hp.env h]
    exact hp.runListing h _
  | assign => exact hp.runAssign h args
  | remove => exact hp.runRemove h args
  | history =>
    rw [Builtin.run, Builtin.run, hlog rfl]
    exact hp.runListing h _

theorem launched (h : R s t) (argv : List String) : Together R (s.launch argv) (t.launch argv) := by
  by_cases hargv : argv = []
  · subst hargv
    exact .of_rel _ h
  · rw [launch_eq s hargv, launch_eq t hargv, hp.host h, hp.env h]
    exact .of_rel _ (hp.launch h argv _)

/-- A program parts nobody: whatever it prints, the shell prints nothing. -/
theorem runProgram (h : R s t) (argv : List String) :
    Together R (s.runProgram argv) (t.runProgram argv) := by
  obtain ⟨answer, s', t', hs, ht, h'⟩ := hp.launched h argv
  rw [Shell.runProgram, Shell.runProgram, hs, ht]
  cases answer with
  | error error => exact .of_rel _ h'
  | ok status =>
    cases hline : status.report? (argv.headD "") with
    | none =>
      simp only [hline]
      exact .of_rel _ h'
    | some line =>
      simp only [hline]
      exact .of_rel _ (hp.complain h' line)

theorem perform (h : R s t) (argv : List String)
    (hlog : argv.head? = some Builtin.history.name → s.history = t.history) :
    Abreast R Q (s.perform argv) (t.perform argv) := by
  cases argv with
  | nil => exact .of_rel _ h
  | cons name args =>
    cases hb : Builtin.ofName? name with
    | some b =>
      have hname := Builtin.name_of_ofName? hb
      have hlisted : b = .history → s.history = t.history := by
        rintro rfl
        exact hlog (by simp [hname])
      rcases hp.run h b (name :: args) hlisted with ⟨answer, s', t', hs, ht, h'⟩ | hparted
      · simp only [Shell.perform, hb, hs, ht]
        cases answer with
        | ok next => exact .of_rel _ h'
        | error error => exact .of_rel _ (hp.complain h' _)
      · exact .inr (hp.parted hparted (changes_told hb s args).turns (changes_told hb t args).turns)
    | none =>
      obtain ⟨answer, s', t', hs, ht, h'⟩ := hp.runProgram h (name :: args)
      simp only [Shell.perform, hb, hs, ht]
      cases answer with
      | ok status => exact .of_rel _ h'
      | error error => exact .of_rel _ (hp.complain h' _)

end Parting
end LineShell.Shell
