import LineShell.Machine.Script.Command.Variables

/-! Processes in the background, and the built-in commands about them. -/
namespace LineShell.Machine
namespace Act

def jobLetter (jobs : List Job) (j : Job) : Char :=
  match jobs.reverse with
  | last :: before :: _ => if j.number == last.number then '+' else if j.number == before.number
    then '-' else ' '
  | [last] => if j.number == last.number then '+' else ' '
  | [] => ' '

/-- Lists the processes in the background; those that have ended are forgotten. -/
def listJobs : Act Nat := do
  let jobs := (← get).jobs
  jobs.reverse.forM fun j =>
    let state := match j.exit with
      | none => "Running"
      | some (.status 0) => "Done"
      | some (.status n) => "Done(" ++ toString n ++ ")"
      | some (.signal n) => ((Signal.ofNumber? n).map Signal.report).getD ""
    say ('[' :: decimalText j.number ++ "] ".toList ++ jobLetter jobs j ::
      ' ' :: padTo 27 state.toList ++ ['\n'])
  modify fun w => { w with jobs := w.jobs.filter (·.exit.isNone) }
  return 0

def noJob (arguments : List Octets) : Act Nat := do
  match arguments with
  | [] => failText "No current job"
  | o :: _ => fail ("No such job: ".toList ++ o)

def jobOf? (o : Octets) : Act (Option Job) := do
  let jobs := (← get).jobs
  match o with
  | '%' :: digits =>
    match jobs.find? fun j => decimalText j.number == digits ||
        (jobLetter jobs j == '+' && (digits == ['+'] || digits == ['%'] || digits.isEmpty)) with
    | some j => return some j
    | none => fail ("No such job: ".toList ++ o)
  | o =>
    let id ← count o
    return jobs.find? fun j => j.process == id

/-- Begins a process in the background.  It has nothing to read, and what a terminal's keys ask for passes
it by. -/
def startInBackground (targets : List Target) (body : Option Script) : Act Unit :=
  modify fun w =>
    let (kernel, id) := w.kernel.fork
    let (kernel, nothing) := kernel.put { channel := .sink, reads := true }
    let start : Work := { w with
      process := id, parent := w.process
      streams := (0, nothing) :: w.streams.filter (·.1 != 0)
      ignored := [Signal.interrupt, Signal.quit] ++ w.ignored
      traps := w.traps.filter (·.2.isEmpty), arrived := [], jobs := [], waiting := [], kept := none }
    let number := (w.jobs.foldl (fun n j => max n j.number) 0) + 1
    { w with
      kernel, background := id
      jobs := w.jobs ++ [{ number, process := id }]
      waiting := w.waiting ++ [(id, targets, body, start)] }

end Act
end LineShell.Machine
