import LineShell.Proofs.Session.Rounds
import LineShell.Proofs.Session.Seen

/-! An account of a session: what is seen before the first prompt, then each prompt with what is seen
after it.  What else precedes a prompt or follows an answer depends on how the session is gone
through. -/
namespace LineShell.Session
variable {ω ε σ : Type}

/-- A prompt, and what is seen from there to the next one. -/
structure Exchange where
  prompt : String
  seen : List Event

/-- What is seen of a session: the opening, and the exchanges.  Before each prompt stands what `fresh`
makes of what was seen since the one before, and after it stands what `hint` says. -/
def account (fresh : Nat → List Event → List Event) (hint : Nat → List Event) :
    List Event → List Exchange → List Event
  | opening, [] => opening
  | opening, e :: rest =>
    opening ++ fresh 0 opening ++ .read e.prompt ::
      (hint 0 ++ account (fun n => fresh (n + 1)) (fun n => hint (n + 1)) e.seen rest)

def lastSeen : List Event → List Exchange → List Event
  | opening, [] => opening
  | _, e :: rest => lastSeen e.seen rest

def Complete (opening : List Event) (exchanges : List Exchange) : Prop :=
  opening.filterMap Event.prompt? = [] ∧ ∀ e ∈ exchanges, e.seen.filterMap Event.prompt? = []

/-- What can be picked out of what stands before and after the prompts can be picked out of the
whole account. -/
theorem flatMap_account {α : Type} (f : Event → List α)
    {fresh fresh' : Nat → List Event → List Event} {hint hint' : Nat → List Event}
    (hfresh : ∀ n seen, (fresh n seen).flatMap f = (fresh' n seen).flatMap f)
    (hhint : ∀ n, (hint n).flatMap f = (hint' n).flatMap f) (opening : List Event)
    (exchanges : List Exchange) :
    (account fresh hint opening exchanges).flatMap f =
      (account fresh' hint' opening exchanges).flatMap f := by
  induction exchanges generalizing fresh fresh' hint hint' opening with
  | nil => rfl
  | cons e rest ih =>
    have hrest := ih (fun n => hfresh (n + 1)) (fun n => hhint (n + 1)) e.seen
    simp only [account, List.flatMap_append, List.flatMap_cons, hfresh, hhint, hrest]

/-- What an interrupt is after something was seen: the signals among it were heeded. -/
def heard (i : Interrupt) (seen : List Event) : Interrupt :=
  ⟨i.pending || (i.hooked && (seen.filterMap Event.signal?).contains Signal.interrupt), i.hooked⟩

theorem heard_of_quiet (i : Interrupt) {seen : List Event}
    (h : seen.filterMap Event.signal? = []) : heard i seen = i := by
  simp [heard, h]

theorem heard_heard (i : Interrupt) (first more : List Event) :
    heard (heard i first) more = heard i (first ++ more) := by
  simp [heard, List.filterMap_append, Bool.or_assoc, Bool.and_or_distrib_left]

theorem heed_snd (s : Shell ω ε σ) (i : Interrupt) :
    (heed s i).2 = ⟨i.pending || (i.hooked && s.signals.contains Signal.interrupt), i.hooked⟩ := by
  obtain ⟨pending, hooked⟩ := i
  rw [heed]
  cases s.signals.contains Signal.interrupt <;> cases hooked <;> cases pending <;> rfl

theorem heed_of_sees {s t : Shell ω ε σ} {seen : List Event} (h : Shell.Sees s t seen)
    (i : Interrupt) : (heed t i).2 = heard (heed s i).2 seen := by
  rw [heed_snd, heed_snd, heard, h.signals]
  simp [Bool.or_assoc, Bool.and_or_distrib_left]

def hintFor (quiet : Bool) (reply : Reply) : List Event :=
  if !quiet && reply == .interrupted then [.out (utf8 (interruptHint ++ "\n"))] else []

/-- How a session is gone through: quietly or not, with which readings, with the hook or without it,
and with the interrupt raised at first or not. -/
structure Manner where
  quiet : Bool
  readings : List Reading
  hooked : Bool
  first : Bool

namespace Manner

def reading (m : Manner) (n : Nat) : Reading := m.readings[n]?.getD { reply := .endOfInput }

theorem reply_eq {m m' : Manner} (h : m.readings.map (·.reply) = m'.readings.map (·.reply))
    (n : Nat) : (m.reading n).reply = (m'.reading n).reply := by
  have hreply (m : Manner) : (m.reading n).reply =
      ((m.readings.map (·.reply))[n]?).getD .endOfInput := by
    rw [reading, List.getElem?_map]
    cases m.readings[n]? <;> rfl
  rw [hreply, hreply, h]

/-- Whether the interrupt is raised before the first prompt, or while an answer is waited for. -/
def raised (m : Manner) : Nat → Bool
  | 0 => m.first
  | n + 1 => (m.reading n).raises

/-- Whether the interrupt was raised since the last prompt: by itself, or by a signal that a program
sent to a shell with the hook. -/
def noticed (m : Manner) (n : Nat) (seen : List Event) : Bool :=
  m.raised n || (m.hooked && (seen.filterMap Event.signal?).contains Signal.interrupt)

def fresh (m : Manner) (n : Nat) (seen : List Event) : List Event :=
  if m.noticed n seen then [.out (utf8 "\n")] else []

def hint (m : Manner) (n : Nat) : List Event := hintFor m.quiet (m.reading n).reply

def rest (m : Manner) : Manner :=
  { m with readings := m.readings.tail, first := (m.reading 0).raises }

theorem reading_rest (m : Manner) (n : Nat) : m.rest.reading n = m.reading (n + 1) := by
  rw [reading, rest, List.getElem?_tail, reading]

theorem raised_rest (m : Manner) (n : Nat) : m.rest.raised n = m.raised (n + 1) := by
  cases n with
  | zero => rfl
  | succ n => rw [raised, reading_rest, raised]

theorem noticed_rest (m : Manner) (n : Nat) (seen : List Event) :
    m.rest.noticed n seen = m.noticed (n + 1) seen := by
  rw [noticed, raised_rest, noticed, rest]

theorem fresh_rest (m : Manner) : m.rest.fresh = fun n => m.fresh (n + 1) := by
  funext n seen
  rw [fresh, noticed_rest, fresh]

theorem hint_rest (m : Manner) : m.rest.hint = fun n => m.hint (n + 1) := by
  funext n
  rw [hint, reading_rest, hint, rest]

end Manner

/-- How a session is gone through that starts with this shell and this interrupt. -/
def mannerOf (quiet : Bool) (readings : List Reading) (s : Shell ω ε σ) (i : Interrupt) : Manner :=
  ⟨quiet, readings, i.hooked, (heed s i).2.pending⟩

theorem heed_manner {s t : Shell ω ε σ} {seen : List Event} (h : Shell.Sees s t seen)
    (quiet : Bool) (readings : List Reading) (i : Interrupt) : (heed t i).2 =
      heard ⟨(mannerOf quiet readings s i).first, (mannerOf quiet readings s i).hooked⟩ seen := by
  rw [heed_of_sees h, mannerOf, heed_snd]

/-- An account of a session that is over: what was seen of it after `before`, and whether an
interrupt is left. -/
structure Tells (m : Manner) (before opening : List Event) (exchanges : List Exchange)
    (ended : Ended ω ε σ) : Prop where
  transcript : ended.shell.transcript = before ++ account m.fresh m.hint opening exchanges
  pending : ended.interrupt.pending = m.noticed exchanges.length (lastSeen opening exchanges)

theorem Tells.cons {m : Manner} {before opening seen : List Event} {exchanges : List Exchange}
    {ended : Ended ω ε σ} {prompt : String}
    (h : Tells m.rest (before ++ (opening ++ m.fresh 0 opening ++ .read prompt :: m.hint 0)) seen
      exchanges ended) : Tells m before opening (⟨prompt, seen⟩ :: exchanges) ended where
  transcript := by
    rw [h.transcript, account, m.fresh_rest, m.hint_rest]
    simp
  pending := by
    rw [h.pending, m.noticed_rest]
    rfl

end LineShell.Session
