import LineShell.Proofs.Session.Happening

/-! What is seen of a shell while it carries out a command: events that are added to those before,
and among them the signals that it has to heed.  No command asks for a line. -/
namespace LineShell

/-- The signal that an event brings to the shell. -/
def Event.signal? : Event → Option Nat
  | .signal number => some number
  | .out _ | .err _ | .launch _ _ | .read _ => none

namespace Shell
variable {ω ε σ : Type} {s t u : Shell ω ε σ}

/-- Between two moments of a shell these events are seen. -/
structure Sees (s t : Shell ω ε σ) (seen : List Event) : Prop where
  transcript : t.transcript = s.transcript ++ seen
  signals : t.signals = s.signals ++ seen.filterMap Event.signal?
  unasked : seen.filterMap Event.prompt? = []

namespace Sees

theorem refl (s : Shell ω ε σ) : Sees s s [] where
  transcript := (List.append_nil _).symm
  signals := (List.append_nil _).symm
  unasked := rfl

theorem trans {first more : List Event} (h : Sees s t first) (h' : Sees t u more) :
    Sees s u (first ++ more) where
  transcript := by rw [h'.transcript, h.transcript, List.append_assoc]
  signals := by rw [h'.signals, h.signals, List.filterMap_append, List.append_assoc]
  unasked := by rw [List.filterMap_append, h.unasked, h'.unasked, List.append_nil]

end Sees

variable [Sink ω] [Sink ε]

theorem Change.sees (h : Change s t) : ∃ seen, Sees s t seen := by
  cases h with
  | print text => exact ⟨[.out _], rfl, (List.append_nil _).symm, rfl⟩
  | complain line => exact ⟨[.err _], rfl, (List.append_nil _).symm, rfl⟩
  | launch _ launched =>
    refine ⟨_, rfl, ?_, ?_⟩
    · simp [afterLaunch, List.filterMap_cons, Event.signal?, List.filterMap_map,
        Function.comp_def]
    · simp [Event.prompt?]
  | stop | move | bind =>
    exact ⟨[], (List.append_nil _).symm, (List.append_nil _).symm, rfl⟩

theorem Changes.sees (h : Changes s t) : ∃ seen, Sees s t seen := by
  refine h.keeps (P := fun u => ∃ seen, Sees s u seen) ?_ ⟨[], .refl s⟩
  rintro u v hchange ⟨first, hfirst⟩
  obtain ⟨more, hmore⟩ := hchange.sees
  exact ⟨first ++ more, hfirst.trans hmore⟩

variable [Host σ]

theorem sees_typed (s : Shell ω ε σ) (line : String) :
    ∃ seen, Sees s (s.typed line).2 seen := by
  rcases changes_typed s line with hsame | hchanges
  · rw [hsame]
    exact ⟨[], .refl s⟩
  · obtain ⟨seen, htranscript, hsignals, hunasked⟩ := hchanges.sees
    exact ⟨seen, htranscript, hsignals, hunasked⟩

/-- The command that leaves the shell runs no program. -/
theorem signals_of_leave {argv : List String} {status : Int32}
    (h : s.perform argv = (.leave status, t)) : t.signals = s.signals := by
  cases argv with
  | nil => cases h
  | cons name args =>
    by_cases hname : name = Builtin.exit.name
    · subst hname
      cases hgoodbye : s.takesGoodbye with
      | true =>
        have hprint : s.print "Goodbye!\n" = (none, (s.print "Goodbye!\n").2) :=
          Prod.ext (Option.isNone_iff_eq_none.mp hgoodbye) rfl
        simp only [perform, Builtin.ofName?_name, Builtin.run, Builtin.runExit] at h
        rw [hprint] at h
        cases args with
        | nil => cases h
        | cons status rest =>
          cases h
          rfl
      | false =>
        obtain ⟨u, -, hperform⟩ := perform_exit_of_cut hgoodbye args
        rw [hperform] at h
        cases h
    · obtain ⟨u, hperform, -⟩ := perform_of_ne_exit hname s args
      rw [hperform] at h
      cases h

theorem signals_of_typed_leave {line : String} {status : Int32}
    (h : s.typed line = (.leave status, t)) : t.signals = s.signals := by
  rw [typed] at h
  split at h
  · cases h
  · exact signals_of_leave (s := s.remember line) h

end Shell
end LineShell
