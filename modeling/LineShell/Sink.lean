import LineShell.Fault

/-! Streams that take bytes.  A stream may refuse what it is offered after any number of bytes; the
bytes before that are kept. -/
namespace LineShell

/-- What becomes of offered bytes: all are kept, or `count` of them, and the rest is refused. -/
inductive Offer (γ : Type)
  | kept (sink : γ)
  | cut (count : Nat) (fault : Fault) (sink : γ)

namespace Offer
variable {γ : Type}

/-- The stream after the offer. -/
def sink : Offer γ → γ
  | .kept sink | .cut _ _ sink => sink

/-- Those of the offered bytes that were kept. -/
def taken (offer : Offer γ) (bytes : List UInt8) : List UInt8 :=
  match offer with
  | .kept _ => bytes
  | .cut count _ _ => bytes.take count

def fault? : Offer γ → Option Fault
  | .kept _ => none
  | .cut _ fault _ => some fault

theorem taken_of_fault? {offer : Offer γ} (h : offer.fault? = none) {bytes : List UInt8} :
    offer.taken bytes = bytes := by
  cases offer with
  | kept next => rfl
  | cut count fault next => cases h

end Offer

class Sink (γ : Type) where
  offer : γ → List UInt8 → Offer γ
  flush : γ → γ × Option Fault

/-- A stream with room for so many more bytes, or without a bound. -/
structure Limited where
  room : Option Nat := none
  fault : Fault := .noSpace
  deriving DecidableEq, Repr

namespace Limited

def offer (s : Limited) (bytes : List UInt8) : Offer Limited :=
  match s.room with
  | none => .kept s
  | some n =>
    if bytes.length ≤ n then .kept { s with room := some (n - bytes.length) }
    else .cut n s.fault { s with room := some 0 }

instance : Sink Limited where
  offer := offer
  flush s := (s, none)

end Limited
end LineShell
