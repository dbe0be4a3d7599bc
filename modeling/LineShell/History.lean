/-! The log of typed lines.  It keeps the latest lines up to a capacity, never an empty one, and
never a line equal to the one kept just before it. -/
namespace LineShell

/-- `lines` runs from the oldest kept line to the latest. -/
structure History where
  capacity : Nat := 100
  lines : List String := []
  deriving DecidableEq, Repr

namespace History

def record (h : History) (line : String) : History :=
  if line.isEmpty || h.lines.getLast? == some line then h
  else
    let all := h.lines ++ [line]
    { h with lines := all.drop (all.length - h.capacity) }

/-- How many lines a request for the latest `count` leaves out.  A count that is not strictly
between zero and the number of lines asks for all of them. -/
def skipped (h : History) : Option Int → Nat
  | some count =>
    if 0 < count && count < h.lines.length then h.lines.length - count.toNat else 0
  | none => 0

def numbered (h : History) (count : Option Int) : List (Nat × String) :=
  (h.lines.zipIdx 1).map (fun e => (e.2, e.1)) |>.drop (h.skipped count)

/-- A log without a bound: empty lines are left out, and then each line that equals the one right
before it. -/
def unbounded (typed : List String) : List String :=
  go none (typed.filter fun line => !line.isEmpty)
where
  go (before : Option String) : List String → List String
    | [] => []
    | line :: rest =>
      if before = some line then go (some line) rest else line :: go (some line) rest

@[simp] theorem record_capacity (h : History) (line : String) :
    (h.record line).capacity = h.capacity := by
  unfold record; split <;> rfl

@[simp] theorem record_empty (h : History) : h.record "" = h := rfl

end History
end LineShell
