import LineShell.Startup
import Mathlib.Data.List.Basic
import Mathlib.Data.List.Induction
import Mathlib.Tactic.Tauto

/-! What arguments come to.  An argument is taken for a path when the one before it asks for a path and is
not itself taken for one; this alone decides which switches are set, which path is kept, and whether a
path is lacking in the end. -/
namespace LineShell

theorem Switch.ofSpelling?_eq_some_iff {arg : String} {w : Switch} :
    ofSpelling? arg = some w ↔ arg = w.spellings.1 ∨ arg = w.spellings.2 := by
  constructor
  · intro h
    simpa using List.find?_some h
  · rintro (rfl | rfl) <;> cases w <;> decide

theorem asksForPath_iff {arg : String} : asksForPath arg = true ↔ arg = "-c" ∨ arg = "--config" := by
  simp [asksForPath]

theorem asksForPath_of_ofSpelling? {arg : String} {w : Switch}
    (h : Switch.ofSpelling? arg = some w) : asksForPath arg = false := by
  rcases Switch.ofSpelling?_eq_some_iff.mp h with rfl | rfl <;> cases w <;> decide

/-- Whether the argument at a position is taken for a path, whatever it looks like. -/
def isPathAt (args : List String) : Nat → Bool
  | 0 => false
  | i + 1 => args[i]?.any asksForPath && !isPathAt args i

/-- The argument is met where it is not taken for a path. -/
def Met (args : List String) (arg : String) : Prop :=
  ∃ i : Nat, args[i]? = some arg ∧ isPathAt args i = false

/-- The arguments that are taken for paths, in order. -/
def pathsIn (args : List String) : List String :=
  (List.range args.length).filterMap fun i => if isPathAt args i then args[i]? else none

/-- What comes later makes no difference. -/
theorem isPathAt_append (args more : List String) {i : Nat} (h : i ≤ args.length) :
    isPathAt (args ++ more) i = isPathAt args i := by
  induction i with
  | zero => rfl
  | succ i ih => rw [isPathAt, isPathAt, ih (by omega), List.getElem?_append_left h]

theorem isPathAt_concat (args : List String) (arg : String) :
    isPathAt (args ++ [arg]) (args.length + 1) =
      (asksForPath arg && !isPathAt args args.length) := by
  rw [isPathAt, isPathAt_append args [arg] (Nat.le_refl _), List.getElem?_concat_length]
  rfl

theorem met_concat (args : List String) (arg other : String) :
    Met (args ++ [arg]) other ↔
      Met args other ∨ arg = other ∧ isPathAt args args.length = false := by
  constructor
  · rintro ⟨i, hi, hpath⟩
    by_cases hlt : i < args.length
    · rw [List.getElem?_append_left hlt] at hi
      rw [isPathAt_append args [arg] (Nat.le_of_lt hlt)] at hpath
      exact .inl ⟨i, hi, hpath⟩
    · have hle : i < (args ++ [arg]).length := (List.getElem?_eq_some_iff.mp hi).1
      obtain rfl : i = args.length := by
        simp at hle
        omega
      rw [List.getElem?_concat_length, Option.some_inj] at hi
      rw [isPathAt_append args [arg] (Nat.le_refl _)] at hpath
      exact .inr ⟨hi, hpath⟩
  · rintro (⟨i, hi, hpath⟩ | ⟨rfl, hpath⟩)
    · have hlt : i < args.length := (List.getElem?_eq_some_iff.mp hi).1
      refine ⟨i, ?_, ?_⟩
      · rwa [List.getElem?_append_left hlt]
      · rwa [isPathAt_append args [arg] (Nat.le_of_lt hlt)]
    · refine ⟨args.length, List.getElem?_concat_length, ?_⟩
      rwa [isPathAt_append args [arg] (Nat.le_refl _)]

theorem pathsIn_concat (args : List String) (arg : String) :
    pathsIn (args ++ [arg]) =
      pathsIn args ++ if isPathAt args args.length then [arg] else [] := by
  rw [pathsIn, List.length_append, List.length_singleton, List.range_succ, List.filterMap_append]
  congr 1
  · apply List.filterMap_congr
    intro i hi
    have hlt : i < args.length := List.mem_range.mp hi
    rw [isPathAt_append args [arg] (Nat.le_of_lt hlt), List.getElem?_append_left hlt]
  · simp only [List.filterMap_cons, List.filterMap_nil, isPathAt_append args [arg] (Nat.le_refl _),
      List.getElem?_concat_length]
    cases isPathAt args args.length <;> rfl

namespace Options

/-- Reads one more argument.  Beside the options so far there may be an argument that waits for its
path. -/
def take : Options × Option String → String → Options × Option String
  | (o, some _), path => ({ o with startup := some path }, none)
  | (o, none), arg =>
    if asksForPath arg then (o, some arg)
    else match Switch.ofSpelling? arg with
      | some w => (o.set w, none)
      | none => (o, none)

theorem read_eq_foldl (o : Options) (args : List String) :
    o.read args = args.foldl take (o, none) := by
  fun_induction read o args with
  | case1 o => rfl
  | case2 o arg hasks => simp [take, hasks]
  | case3 o arg hasks path rest ih => simpa [take, hasks] using ih
  | case4 o arg rest hasks w hw ih => simpa [take, hasks, hw] using ih
  | case5 o arg rest hasks hw ih => simpa [take, hasks, hw] using ih

theorem read_concat (o : Options) (args : List String) (arg : String) :
    o.read (args ++ [arg]) = take (o.read args) arg := by
  simp [read_eq_foldl]

theorem read_append {o : Options} {a : List String} (h : (o.read a).2 = none) (b : List String) :
    o.read (a ++ b) = (o.read a).1.read b := by
  have hread : o.read a = ((o.read a).1, none) := Prod.ext rfl h
  rw [read_eq_foldl, List.foldl_append, ← read_eq_foldl, hread, ← read_eq_foldl]

/-! One argument more, by what it is. -/

theorem snd_take (x : Options × Option String) (arg : String) :
    (take x arg).2 = if !x.2.isSome && asksForPath arg then some arg else none := by
  obtain ⟨o, waiting⟩ := x
  cases waiting with
  | some asking => simp [take]
  | none =>
    cases hasks : asksForPath arg with
    | true => simp [take, hasks]
    | false => cases hw : Switch.ofSpelling? arg <;> simp [take, hasks, hw]

theorem isSet_take (x : Options × Option String) (arg : String) (w : Switch) :
    (take x arg).1.isSet w = true ↔ x.1.isSet w = true ∨
      x.2.isSome = false ∧ (arg = w.spellings.1 ∨ arg = w.spellings.2) := by
  obtain ⟨o, waiting⟩ := x
  rw [← Switch.ofSpelling?_eq_some_iff]
  cases waiting with
  | some asking => cases w <;> simp [take, isSet]
  | none =>
    cases hasks : asksForPath arg with
    | true =>
      have hother : Switch.ofSpelling? arg ≠ some w := by
        intro hw
        simp [asksForPath_of_ofSpelling? hw] at hasks
      simp [take, hasks, hother]
    | false => cases hv : Switch.ofSpelling? arg <;> simp [take, hasks, hv, or_comm]

theorem startup_take (x : Options × Option String) (arg : String) :
    (take x arg).1.startup = if x.2.isSome then some arg else x.1.startup := by
  obtain ⟨o, waiting⟩ := x
  cases waiting with
  | some asking => simp [take]
  | none =>
    cases hasks : asksForPath arg with
    | true => simp [take, hasks]
    | false => cases hw : Switch.ofSpelling? arg <;> simp [take, hasks, hw]

/-- After arguments one is waiting for its path just when the next would be taken for it. -/
theorem isSome_snd_read (o : Options) (args : List String) :
    (o.read args).2.isSome = isPathAt args args.length := by
  induction args using List.reverseRecOn with
  | nil => rfl
  | append_singleton args arg ih =>
    rw [read_concat, snd_take, List.length_append, List.length_singleton, isPathAt_concat, ih,
      Bool.and_comm]
    cases asksForPath arg && !isPathAt args args.length <;> rfl

theorem snd_read_eq_some_iff {o : Options} {args : List String} {asking : String} :
    (o.read args).2 = some asking ↔ ∃ before, args = before ++ [asking] ∧
      asksForPath asking = true ∧ isPathAt args before.length = false := by
  induction args using List.reverseRecOn with
  | nil => simp [read]
  | append_singleton args arg _ =>
    rw [read_concat, snd_take, isSome_snd_read]
    constructor
    · intro h
      split at h
      · next hasks =>
        obtain rfl := Option.some.inj h
        have hboth : isPathAt args args.length = false ∧ asksForPath arg = true := by
          simpa using hasks
        exact ⟨args, rfl, hboth.2, by rw [isPathAt_append args [arg] (Nat.le_refl _), hboth.1]⟩
      · cases h
    · rintro ⟨before, hargs, hasks, hpath⟩
      obtain ⟨rfl, hlast⟩ := List.append_inj' hargs rfl
      obtain rfl : arg = asking := by simpa using hlast
      rw [isPathAt_append args [arg] (Nat.le_refl _)] at hpath
      simp [hpath, hasks]

theorem isSet_read (o : Options) (args : List String) (w : Switch) :
    (o.read args).1.isSet w = true ↔
      o.isSet w = true ∨ Met args w.spellings.1 ∨ Met args w.spellings.2 := by
  induction args using List.reverseRecOn with
  | nil => simp [read, Met]
  | append_singleton args arg ih =>
    rw [read_concat, isSet_take, ih, isSome_snd_read, met_concat, met_concat]
    tauto

theorem startup_read (o : Options) (args : List String) :
    (o.read args).1.startup = (pathsIn args).getLast?.or o.startup := by
  induction args using List.reverseRecOn with
  | nil => rfl
  | append_singleton args arg ih =>
    rw [read_concat, startup_take, ih, isSome_snd_read, pathsIn_concat]
    cases isPathAt args args.length <;> simp

theorem ext_isSet {o o' : Options} (hset : ∀ w, o.isSet w = o'.isSet w)
    (hstartup : o.startup = o'.startup) : o = o' := by
  cases o
  cases o'
  have hhelp := hset .help
  have hversion := hset .version
  have hnone := hset .noStartup
  have hquiet := hset .quiet
  have hdebug := hset .debug
  simp_all [isSet]

/-- The same arguments once more change nothing. -/
theorem read_read (o : Options) (args : List String) :
    (o.read args).1.read args = o.read args := by
  refine Prod.ext (ext_isSet ?_ ?_) (Option.ext fun asking => ?_)
  · intro w
    rw [Bool.eq_iff_iff, isSet_read, isSet_read]
    tauto
  · rw [startup_read, startup_read]
    cases (pathsIn args).getLast? <;> rfl
  · exact snd_read_eq_some_iff.trans snd_read_eq_some_iff.symm

/-! Options that a command line comes to. -/

theorem read_of_ofArgs {args : List String} {o : Options} (h : ofArgs args = .ok o) :
    read {} args = (o, none) := by
  rw [ofArgs] at h
  split at h
  · next hread =>
    rw [hread, Except.ok.inj h]
  · cases h

theorem isSet_of_ofArgs {args : List String} {o : Options} (h : ofArgs args = .ok o) (w : Switch) :
    o.isSet w = true ↔ Met args w.spellings.1 ∨ Met args w.spellings.2 := by
  have hset := isSet_read {} args w
  rw [read_of_ofArgs h] at hset
  have hclear : isSet {} w = false := by cases w <;> rfl
  simpa [hclear] using hset

theorem startup_of_ofArgs {args : List String} {o : Options} (h : ofArgs args = .ok o) :
    o.startup = (pathsIn args).getLast? := by
  have hstartup := startup_read {} args
  rw [read_of_ofArgs h] at hstartup
  simpa using hstartup

/-- The error that reading arguments ends with, if it fails. -/
def failure? (o : Options) (args : List String) : Option ShellError :=
  (o.read args).2.map fun asking => .option (lacksPath asking)

/-- What arguments do to options, read off the positions of the arguments. -/
structure Explained (o : Options) (args : List String) : Prop where
  /-- Reading fails just when the last argument asks for a path, and the error names it as it is
  spelled. -/
  failure (error : ShellError) : o.failure? args = some error ↔
    ∃ before asking, args = before ++ [asking] ∧ (asking = "-c" ∨ asking = "--config") ∧
      isPathAt args before.length = false ∧
      error = .option ("Flag " ++ asking ++ " requires a value")
  /-- What was read before the argument that lacks its path is kept. -/
  before : o.failure? args ≠ none → o.read args.dropLast = ((o.read args).1, none)
  switches (w : Switch) : (o.read args).1.isSet w = true ↔
    o.isSet w = true ∨ Met args w.spellings.1 ∨ Met args w.spellings.2
  path : (o.read args).1.startup = (pathsIn args).getLast?.or o.startup
  /-- Nothing that was set is unset. -/
  kept : (∀ w, o.isSet w = true → (o.read args).1.isSet w = true) ∧
    (o.startup ≠ none → (o.read args).1.startup ≠ none)

theorem failure?_eq_none_iff {o : Options} {args : List String} :
    o.failure? args = none ↔ (o.read args).2 = none := by
  rw [failure?, Option.map_eq_none_iff]

theorem failure?_eq_some_iff {o : Options} {args : List String} {error : ShellError} :
    o.failure? args = some error ↔ ∃ before asking, args = before ++ [asking] ∧
      (asking = "-c" ∨ asking = "--config") ∧ isPathAt args before.length = false ∧
      error = .option ("Flag " ++ asking ++ " requires a value") := by
  simp only [failure?, Option.map_eq_some_iff, snd_read_eq_some_iff, asksForPath_iff, lacksPath]
  constructor
  · rintro ⟨asking, ⟨before, hargs, hasks, hpath⟩, rfl⟩
    exact ⟨before, asking, hargs, hasks, hpath, rfl⟩
  · rintro ⟨before, asking, hargs, hasks, hpath, rfl⟩
    exact ⟨asking, ⟨before, hargs, hasks, hpath⟩, rfl⟩

theorem read_dropLast {o : Options} {args : List String} (h : o.failure? args ≠ none) :
    o.read args.dropLast = ((o.read args).1, none) := by
  obtain ⟨error, herror⟩ := Option.ne_none_iff_exists'.mp h
  obtain ⟨before, asking, rfl, hasks, hpath, -⟩ := failure?_eq_some_iff.mp herror
  rw [isPathAt_append before [asking] (Nat.le_refl _)] at hpath
  have hnone : (o.read before).2 = none := by
    rw [← isSome_snd_read o] at hpath
    simpa using hpath
  have hbefore : o.read before = ((o.read before).1, none) := Prod.ext rfl hnone
  rw [List.dropLast_concat, read_concat, hbefore, take, if_pos (asksForPath_iff.mpr hasks)]

theorem explained (o : Options) (args : List String) : Explained o args where
  failure _ := failure?_eq_some_iff
  before := read_dropLast
  switches := isSet_read o args
  path := startup_read o args
  kept := by
    refine ⟨fun w hw => (isSet_read o args w).mpr (.inl hw), ?_⟩
    rw [startup_read]
    cases (pathsIn args).getLast? <;> simp

/-- Arguments that are read without failure can be read on with others, arguments do to options what
their positions say, and reading them once more makes no difference. -/
theorem read_by_position (o : Options) (a b : List String) :
    (o.failure? a = none → o.read (a ++ b) = (o.read a).1.read b) ∧
      Explained o a ∧ (o.read a).1.read a = o.read a :=
  ⟨fun h => read_append (failure?_eq_none_iff.mp h) b, explained o a, read_read o a⟩

/-- One argument that asks for a path is taken for the path of another, and then one lacks its path. -/
theorem read_by_position_chained :
    failure? { quiet := true } ["-c", "-c", "-n"] = none ∧
      read { quiet := true } ["-c", "-c", "-n", "--config"] =
        ({ quiet := true, noStartup := true, startup := some "-c" }, some "--config") ∧
      failure? { quiet := true } ["-c", "-c", "-n", "--config"] ≠ none ∧
      read { quiet := true } ["-c", "-c", "-n"] =
        ({ quiet := true, noStartup := true, startup := some "-c" }, none) := by
  have hnone : failure? { quiet := true } ["-c", "-c", "-n"] = none := by decide
  have hsome : failure? { quiet := true } ["-c", "-c", "-n", "--config"] ≠ none := by decide
  obtain ⟨happend, -, -⟩ := read_by_position { quiet := true } ["-c", "-c", "-n"] ["--config"]
  obtain ⟨-, hexplained, -⟩ :=
    read_by_position { quiet := true } ["-c", "-c", "-n", "--config"] []
  have hread : read { quiet := true } ["-c", "-c", "-n", "--config"] =
      ({ quiet := true, noStartup := true, startup := some "-c" }, some "--config") :=
    (happend hnone).trans (by decide)
  refine ⟨hnone, hread, hsome, ?_⟩
  have hbefore := hexplained.before hsome
  rwa [hread] at hbefore

end Options
end LineShell
