import LineShell.Proofs.Command.Changes

/-! What the output has taken.  Every change keeps it, and printing adds to it what is not
refused. -/
namespace LineShell

/-- The bytes that an event brings to the output. -/
def Event.outBytes : Event → List UInt8
  | .out bytes => bytes
  | .err _ | .launch _ _ | .signal _ | .read _ => []

namespace Shell
variable {ω ε σ : Type} {s t : Shell ω ε σ}

/-- All that the output has taken. -/
def outBytes (s : Shell ω ε σ) : List UInt8 := s.transcript.flatMap Event.outBytes

theorem outBytes_note (s : Shell ω ε σ) (event : Event) :
    (s.note event).outBytes = s.outBytes ++ event.outBytes := by
  simp [outBytes, note]

theorem outBytes_print [Sink ω] (s : Shell ω ε σ) (text : String) :
    (s.print text).2.outBytes = s.outBytes ++ (Sink.offer s.out (utf8 text)).taken (utf8 text) :=
  outBytes_note { s with out := (Sink.offer s.out (utf8 text)).sink } _

theorem outBytes_complain [Sink ε] (s : Shell ω ε σ) (line : String) :
    (s.complain line).outBytes = s.outBytes := by
  simp [outBytes, complain, note, Event.outBytes]

theorem outBytes_afterLaunch (s : Shell ω ε σ) (argv : List String) (launched : Launched σ) :
    (s.afterLaunch argv launched).outBytes = s.outBytes := by
  simp [outBytes, afterLaunch, Event.outBytes, List.flatMap_map]

end Shell
end LineShell
