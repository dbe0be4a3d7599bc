/-! Cutting a text into lines.  A line ends at a line feed, and a carriage return right before that
line feed belongs to the line's end; what follows the last line feed is a line unless it is empty. -/
namespace LineShell

/-- The stretches that an end closes, and the stretch that none closes. -/
def closedAndOpen {α : Type} (isEnd : α → Bool) : List α → List (List α) × List α
  | [] => ([], [])
  | a :: rest =>
    let (closed, opened) := closedAndOpen isEnd rest
    if isEnd a then ([] :: closed, opened)
    else match closed with
      | [] => ([], a :: opened)
      | first :: more => ((a :: first) :: more, opened)

def withoutLast {α : Type} [DecidableEq α] (a : α) (xs : List α) : List α :=
  if xs.getLast? = some a then xs.dropLast else xs

/-- The complete lines of a sequence in which `feed` ends a line and `back` may stand before it, and what
follows them. -/
def completeLines {α : Type} [DecidableEq α] (feed back : α) (xs : List α) :
    List (List α) × List α :=
  let (closed, opened) := closedAndOpen (· == feed) xs
  (closed.map (withoutLast back), opened)

/-- All lines of such a sequence. -/
def linesOf {α : Type} [DecidableEq α] (feed back : α) (xs : List α) : List (List α) :=
  let (closed, opened) := completeLines feed back xs
  closed ++ if opened.isEmpty then [] else [opened]

def textLines (text : String) : List String :=
  (linesOf '\n' '\r' text.toList).map String.ofList

@[simp] theorem textLines_empty : textLines "" = [] := rfl

end LineShell
