import LineShell.Proofs.Startup.Commands

/-! What a shell can be asked to do, in any order and as often as one likes.  The system may change
by itself in between. -/
namespace LineShell

/-- A line that is typed, words to be carried out, a command called with any arguments, or a startup
file; or the system has changed meanwhile. -/
inductive Request (σ : Type)
  | line (text : String)
  | perform (argv : List String)
  | call (b : Builtin) (args : List String)
  | startup (file : StartupFile)
  | meanwhile (host : σ)

namespace Shell
variable {ω ε σ : Type} [Sink ω] [Sink ε] [Host σ]

def serve (s : Shell ω ε σ) : Request σ → Except ShellError Next × Shell ω ε σ
  | .line text => (.ok (s.typed text).1, (s.typed text).2)
  | .perform argv => (.ok (s.perform argv).1, (s.perform argv).2)
  | .call b args => ((b.run s args).1.mapError .command, (b.run s args).2)
  | .startup file => ((s.load file).1.mapError .startup, (s.load file).2)
  | .meanwhile host => (.ok .proceed, { s with host })

/-- The shell after it has been asked for one thing after another. -/
def afterAll (s : Shell ω ε σ) (requests : List (Request σ)) : Shell ω ε σ :=
  requests.foldl (fun s request => (s.serve request).2) s

def answers (s : Shell ω ε σ) : List (Request σ) → List (Except ShellError Next)
  | [] => []
  | request :: rest => (s.serve request).1 :: (s.serve request).2.answers rest

@[simp] theorem afterAll_nil (s : Shell ω ε σ) : s.afterAll [] = s := rfl

@[simp] theorem afterAll_cons (s : Shell ω ε σ) (request : Request σ)
    (requests : List (Request σ)) :
    s.afterAll (request :: requests) = (s.serve request).2.afterAll requests := rfl

end Shell
end LineShell
