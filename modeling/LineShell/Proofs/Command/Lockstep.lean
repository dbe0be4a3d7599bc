import LineShell.Proofs.Command.Parting

/-! Two shells that never part.  A relation that ties what commands go by, and that each single
change made on both sides keeps, is kept by every command, and both sides answer the same. -/
namespace LineShell.Shell
variable {ω ω' ε ε' σ : Type}

/-- The log is left out: only the command that lists it goes by it. -/
structure Lockstep [Sink ω] [Sink ω'] [Sink ε] [Sink ε']
    (R : Shell ω ε σ → Shell ω' ε' σ → Prop) : Prop where
  dir {s t} : R s t → s.dir = t.dir
  running {s t} : R s t → s.running = t.running
  env {s t} : R s t → s.env = t.env
  host {s t} : R s t → s.host = t.host
  print {s t} (h : R s t) (text : String) :
    (s.print text).1 = (t.print text).1 ∧ R (s.print text).2 (t.print text).2
  complain {s t} (h : R s t) (line : String) : R (s.complain line) (t.complain line)
  stop {s t} (h : R s t) : R { s with running := false } { t with running := false }
  move {s t} (h : R s t) (host : σ) (dir : String) : R { s with host, dir } { t with host, dir }
  bind {s t} (h : R s t) (env : Environment) : R { s with env } { t with env }
  launch {s t} (h : R s t) (argv : List String) (launched : Launched σ) :
    R (s.afterLaunch argv launched) (t.afterLaunch argv launched)

/-- Shells that never part are always together. -/
theorem Abreast.together {α : Type} {R : Shell ω ε σ → Shell ω' ε' σ → Prop}
    {a : α × Shell ω ε σ} {b : α × Shell ω' ε' σ} (h : Abreast R (fun _ _ => False) a b) :
    Together R a b :=
  h.resolve_right id

namespace Lockstep
variable [Sink ω] [Sink ω'] [Sink ε] [Sink ε'] {R : Shell ω ε σ → Shell ω' ε' σ → Prop}
  (hl : Lockstep R)
include hl

theorem parting : Parting R (fun _ _ => False) where
  dir := hl.dir
  running := hl.running
  env := hl.env
  host := hl.host
  print h text := .inl (.of_eq (hl.print h text))
  complain := hl.complain
  stop := hl.stop
  move := hl.move
  bind := hl.bind
  launch := hl.launch
  left h _ := h
  right h _ := h

theorem perform [Host σ] {s : Shell ω ε σ} {t : Shell ω' ε' σ} (h : R s t) (argv : List String)
    (hlog : argv.head? = some Builtin.history.name → s.history = t.history) :
    Together R (s.perform argv) (t.perform argv) :=
  (hl.parting.perform h argv hlog).together

end Lockstep
end LineShell.Shell
