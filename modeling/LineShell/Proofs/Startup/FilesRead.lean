import LineShell.Proofs.Command.Complaints
import LineShell.Proofs.Options.Reading
import LineShell.Proofs.Startup.Commands
import LineShell.Proofs.Text.Bytes
import LineShell.Sandbox
import LineShell.Session
import Mathlib

/-! The file that a session begins with.  At most one file is read, which the arguments or the home
directory decide, and when it is no text the session begins as if there were none. -/
namespace LineShell

namespace Host
variable {σ α : Type}

abbrev withFiles (system : Host σ) (files : σ → String → Except Fault (List UInt8)) : Host σ :=
  { system with readFile := files }

/-- What is done with a system in this state goes by no files but those at the given paths: it comes to
the same whatever else there is to be read. -/
def ReadsOnly (system : Host σ) (state : σ) (paths : List String) (run : Host σ → α) : Prop :=
  ∀ files, (∀ path ∈ paths, files state path = @readFile σ system state path) →
    run (system.withFiles files) = run system

def Missing [Host σ] (state : σ) (path : String) : Prop :=
  ∃ fault, readFile state path = .error fault ∧ fault.kind = .notFound

end Host

namespace Shell
variable {ω ε σ : Type} [Sink ω] [Sink ε] (system : Host σ)
  (files : σ → String → Except Fault (List UInt8))

theorem perform_withFiles (s : Shell ω ε σ) (argv : List String) :
    @perform ω ε σ _ _ (system.withFiles files) s argv = s.perform argv := rfl

theorem source_withFiles (s : Shell ω ε σ) (lines : List String) :
    @source ω ε σ _ _ (system.withFiles files) s lines = s.source lines := by
  induction lines generalizing s with
  | nil => rfl
  | cons line rest ih =>
    unfold source
    simp only [ih, perform_withFiles]

theorem load_withFiles (s : Shell ω ε σ) {file : StartupFile}
    (h : files s.host file.path = @Host.readFile σ system s.host file.path) :
    @load ω ε σ _ _ (system.withFiles files) s file = s.load file := by
  unfold load
  rw [← h]
  simp only [source_withFiles]
  rfl

omit system files in
theorem source_unset [Host σ] (s : Shell ω ε σ) :
    s.source ["unset"] = (.proceed, s.complain "unset: usage: unset VAR") := by
  have hcommand : StartupFile.isCommand "unset" = true := by decide
  have hwords : words "unset" = [Builtin.remove.name] := by decide
  have hrun : Builtin.remove.run s [Builtin.remove.name] =
      (.error (.usage "unset: usage: unset VAR"), s) := rfl
  have hperform : s.perform [Builtin.remove.name] =
      (.proceed, s.complain "unset: usage: unset VAR") :=
    (perform_of_error (Builtin.ofName?_name .remove) hrun).1
  rw [source_cons_of_isCommand hcommand, hwords, hperform]
  simp only [source, ite_self]

omit [Sink ω] in
theorem complain_ne (s : Shell ω ε σ) (line : String) : s.complain line ≠ s := by
  intro h
  have hlength := congrArg (fun t => t.transcript.length) h
  simp [complain, note] at hlength

end Shell

theorem homeDir_of_get? {env : Environment} {home : String} (h : env.get? "HOME" = some home)
    (hne : home ≠ "") (onRecord : Option String) : homeDir env onRecord = some home := by
  have hempty : home.isEmpty = false := by simpa using hne
  simp [homeDir, h, hempty]

namespace StartupFile

theorem choose_eq (o : Options) (home : String) :
    choose o (some home) = .ok (if o.noStartup then none else some
      { path := o.startup.getD (within home ".simshrc"), named := o.startup.isSome }) := by
  rw [choose]
  cases o.noStartup with
  | true => rfl
  | false => cases o.startup <;> rfl

end StartupFile

namespace Session
variable {ω ε σ : Type} [Sink ω] [Sink ε]

/-- The beginning of a session before any line is asked for: the options decide on a file, and it is
loaded.  Without a home there is none to decide on. -/
def beginning (quiet : Bool) (o : Options) (onRecord : Option String) (s : Shell ω ε σ)
    (system : Host σ) : Next × Shell ω ε σ :=
  startUp quiet s ((StartupFile.choose o (homeDir s.env onRecord)).toOption.getD none)

section Chosen
variable {o : Options} {onRecord : Option String} {s : Shell ω ε σ} {file : StartupFile}

theorem beginning_of_file (h : StartupFile.choose o (homeDir s.env onRecord) = .ok (some file))
    (quiet : Bool) (system : Host σ) :
    beginning quiet o onRecord s system = startUp quiet s (some file) := by
  rw [beginning, h]
  rfl

theorem beginning_of_none (h : StartupFile.choose o (homeDir s.env onRecord) = .ok none)
    (quiet : Bool) (system : Host σ) : beginning quiet o onRecord s system = (.proceed, s) := by
  rw [beginning, h]
  rfl

theorem readsOnly_beginning (h : StartupFile.choose o (homeDir s.env onRecord) = .ok (some file))
    (quiet : Bool) (system : Host σ) :
    Host.ReadsOnly system s.host [file.path] (beginning quiet o onRecord s) := by
  intro files hfiles
  have hload := s.load_withFiles system files (hfiles file.path (by simp))
  rw [beginning_of_file h, beginning_of_file h]
  simp only [startUp, hload]

theorem startUp_of_text [Host σ] {s : Shell ω ε σ} {file : StartupFile} {text : String}
    (h : Host.readFile s.host file.path = .ok (utf8 text)) (quiet : Bool) :
    startUp quiet s (some file) = s.source (textLines text) := by
  have htext : ofUtf8? (utf8 text) = some text := ofUtf8?_eq_some_iff.mpr rfl
  simp only [startUp, Shell.load, h, htext]

/-- A file that is decided on is read: an empty one and one that holds a line do not come to the
same. -/
theorem not_readsOnly_nil (h : StartupFile.choose o (homeDir s.env onRecord) = .ok (some file))
    (quiet : Bool) (system : Host σ) :
    ¬ Host.ReadsOnly system s.host [] (beginning quiet o onRecord s) := by
  intro hnone
  have hsame (text : String) :
      s.source (textLines text) = beginning quiet o onRecord s system := by
    have hfiles := hnone (fun _ _ => .ok (utf8 text)) (by simp)
    rw [beginning_of_file h] at hfiles
    rw [← hfiles]
    let other : Host σ := system.withFiles fun _ _ => .ok (utf8 text)
    exact (Shell.source_withFiles system _ s _).symm.trans
      (@startUp_of_text ω ε σ _ _ other s file text rfl quiet).symm
  have hlines : textLines "unset" = ["unset"] := by decide
  have hunset := hsame "unset"
  rw [← hsame "", hlines, Shell.source_unset] at hunset
  exact s.complain_ne _ (congrArg Prod.snd hunset)

end Chosen

def remark (quiet : Bool) : Except StartupError Next → List String
  | .ok _ => []
  | .error error => if quiet then [] else ["shell: " ++ error.message]

variable [Host σ]

/-- A session passes over a file that is no text. -/
structure PassesOver (quiet : Bool) (s : Shell ω ε σ) (file : StartupFile) : Prop where
  /-- None of its lines is carried out. -/
  unchanged : (s.load file).2 = s
  missed : file.named = false → Host.Missing s.host file.path → (s.load file).1 = .ok .proceed
  failed : file.named = true ∨ ¬ Host.Missing s.host file.path →
    ∃ error, (s.load file).1 = .error error
  proceeds : (startUp quiet s (some file)).1 = .proceed
  state : (startUp quiet s (some file)).2.toState = s.toState
  out : (startUp quiet s (some file)).2.out = s.out ∧
    (startUp quiet s (some file)).2.outBytes = s.outBytes
  /-- Trouble is shown once, and only trouble. -/
  err : Sink.Reliable s.err → (startUp quiet s (some file)).2.errBytes =
    s.errBytes ++ (remark quiet (s.load file).1).flatMap fun line => utf8 (line ++ "\n")
  /-- Once the session is begun, the next thing is to ask for a line. -/
  ready (i : Interrupt) : (quiet = true ∨ (s.print (banner ++ "\n")).1 = none) →
    ∃ t j, start quiet (some file) s i = .ready t j ∧ t.toState = s.toState

/-- Nothing of it is carried out, and it is an error unless nobody named it and it is not there. -/
theorem load_of_no_text {s : Shell ω ε σ} {file : StartupFile}
    (h : ∀ text, Host.readFile s.host file.path ≠ .ok (utf8 text)) :
    (s.load file).2 = s ∧
      ((file.named = false ∧ Host.Missing s.host file.path ∧ (s.load file).1 = .ok .proceed) ∨
        ¬ (file.named = false ∧ Host.Missing s.host file.path) ∧
          ∃ error, (s.load file).1 = .error error) := by
  rw [Shell.load, Host.Missing]
  cases hread : Host.readFile s.host file.path with
  | ok bytes =>
    have htext : ofUtf8? bytes = none := by
      rw [Option.eq_none_iff_forall_ne_some]
      intro text htext
      rw [ofUtf8?_eq_some_iff] at htext
      exact h text (hread.trans (congrArg Except.ok htext))
    simp [htext]
  | error fault =>
    cases hkind : fault.kind == .notFound with
    | true =>
      have hmissing : fault.kind = .notFound := beq_iff_eq.mp hkind
      cases file.named <;> simp [hmissing]
    | false =>
      have hother : fault.kind ≠ .notFound := beq_eq_false_iff_ne.mp hkind
      simp [hkind, hother]

theorem startUp_of_no_text {s : Shell ω ε σ} {file : StartupFile}
    (h : ∀ text, Host.readFile s.host file.path ≠ .ok (utf8 text)) (quiet : Bool) :
    startUp quiet s (some file) =
      (.proceed, (remark quiet (s.load file).1).foldl Shell.complain s) := by
  obtain ⟨hsame, ⟨-, -, hresult⟩ | ⟨-, error, hresult⟩⟩ := load_of_no_text h
  · have hload : s.load file = (.ok .proceed, s) := Prod.ext hresult hsame
    simp only [startUp, hload, remark]
    rfl
  · have hload : s.load file = (.error error, s) := Prod.ext hresult hsame
    simp only [startUp, hload, remark]
    cases quiet <;> rfl

/-- Unless its greeting is refused, a session with such a file comes to its first line. -/
theorem start_of_no_text {s : Shell ω ε σ} {file : StartupFile}
    (h : ∀ text, Host.readFile s.host file.path ≠ .ok (utf8 text)) {quiet : Bool} (i : Interrupt)
    (hgreeted : quiet = true ∨ (s.print (banner ++ "\n")).1 = none) :
    ∃ t j, start quiet (some file) s i = .ready t j ∧ t.toState = s.toState := by
  obtain ⟨greeted, hsay, hstate⟩ : ∃ greeted : Shell ω ε σ,
      (if quiet then (none, s) else s.print (banner ++ "\n")) = (none, greeted) ∧
        greeted.toState = s.toState := by
    cases quiet with
    | true => exact ⟨s, rfl, rfl⟩
    | false => exact ⟨_, Prod.ext (by simpa using hgreeted) rfl, rfl⟩
  have hfile : ∀ text, Host.readFile greeted.host file.path ≠ .ok (utf8 text) := by
    rwa [congrArg State.host hstate]
  let told := (remark quiet (greeted.load file).1).foldl Shell.complain greeted
  refine ⟨(heed told i).1, (heed told i).2, ?_, ?_⟩
  · rw [start, hsay]
    simp only [startUp_of_no_text hfile quiet]
    rfl
  · exact (Shell.toState_foldl_complain greeted _).trans hstate

theorem passesOver {s : Shell ω ε σ} {file : StartupFile}
    (h : ∀ text, Host.readFile s.host file.path ≠ .ok (utf8 text)) (quiet : Bool) :
    PassesOver quiet s file where
  unchanged := (load_of_no_text h).1
  missed hnamed hmissing := by
    rcases (load_of_no_text h).2 with ⟨-, -, hproceed⟩ | ⟨hnot, -⟩
    · exact hproceed
    · exact absurd ⟨hnamed, hmissing⟩ hnot
  failed hfails := by
    rcases (load_of_no_text h).2 with ⟨hnamed, hmissing, -⟩ | ⟨-, herror⟩
    · simp [hnamed, hmissing] at hfails
    · exact herror
  proceeds := congrArg Prod.fst (startUp_of_no_text h quiet)
  state := by
    rw [startUp_of_no_text h]
    exact Shell.toState_foldl_complain s _
  out := by
    rw [startUp_of_no_text h]
    exact ⟨Shell.out_foldl_complain s _, Shell.outBytes_foldl_complain s _⟩
  err herr := by
    rw [startUp_of_no_text h]
    exact Shell.errBytes_foldl_complain herr _
  ready := start_of_no_text h

omit [Host σ] in
/-- What a session begins with, by its arguments.  It reads no file just when one of the switches that
say so is met, and else the file of the last path that was given, or the one at home.  If this is no
text, whichever byte is wrong or whatever the system says, the session passes over it. -/
theorem reads_one_file {args : List String} {o : Options} (hargs : Options.ofArgs args = .ok o)
    {s : Shell ω ε σ} {home : String} (hhome : s.env.get? "HOME" = some home) (hne : home ≠ "")
    (quiet : Bool) (onRecord : Option String) (system : Host σ) :
    (Host.ReadsOnly system s.host [] (beginning quiet o onRecord s) ↔
        Met args "-n" ∨ Met args "--norc") ∧
      (¬ (Met args "-n" ∨ Met args "--norc") → ∃ file : StartupFile,
        StartupFile.choose o (homeDir s.env onRecord) = .ok (some file) ∧
        file.path = (pathsIn args).getLast?.getD (StartupFile.within home ".simshrc") ∧
        (file.named = true ↔ pathsIn args ≠ []) ∧
        Host.ReadsOnly system s.host [file.path] (beginning quiet o onRecord s) ∧
        ((∀ text, Host.readFile s.host file.path ≠ .ok (utf8 text)) → PassesOver quiet s file)) := by
  have hswitch : o.noStartup = true ↔ Met args "-n" ∨ Met args "--norc" :=
    Options.isSet_of_ofArgs hargs .noStartup
  have hpath := Options.startup_of_ofArgs hargs
  have hchoose := StartupFile.choose_eq o home
  rw [← homeDir_of_get? hhome hne onRecord] at hchoose
  rw [← hswitch]
  cases hnone : o.noStartup with
  | true =>
    rw [hnone, if_pos rfl] at hchoose
    refine ⟨⟨fun _ => rfl, fun _ files _ => ?_⟩, fun h => absurd rfl h⟩
    rw [beginning_of_none hchoose, beginning_of_none hchoose]
  | false =>
    rw [hnone, if_neg (by simp)] at hchoose
    refine ⟨⟨fun h => absurd h (not_readsOnly_nil hchoose quiet system), fun h => by cases h⟩, ?_⟩
    intro _
    refine ⟨_, hchoose, by rw [hpath], ?_, readsOnly_beginning hchoose quiet system, ?_⟩
    · rw [hpath, Option.isSome_iff_ne_none, ne_eq, List.getLast?_eq_none_iff]
    · exact fun h => passesOver h quiet

def spoiled : Shell Limited Limited Sandbox where
  dir := "/"
  env := ⟨[("HOME", "/")]⟩
  host := { tree := { nodes := #[.directory 0 [("rc", 1)], .file (utf8 "exit 3\n" ++ [0xFF]) 0o644] } }
  out := {}
  err := {}

/-- The argument after the first is taken for a path, and so is the last one, which counts. -/
theorem reads_one_file_spoiled :
    Options.ofArgs ["-c", "-n", "-c", "/rc"] = .ok { startup := some "/rc" } ∧
      spoiled.env.get? "HOME" = some "/" ∧ "/" ≠ "" ∧
      ¬ (Met ["-c", "-n", "-c", "/rc"] "-n" ∨ Met ["-c", "-n", "-c", "/rc"] "--norc") ∧
      (∀ text, Host.readFile spoiled.host "/rc" ≠ .ok (utf8 text)) ∧
      (startUp false spoiled (some { path := "/rc", named := true })).2.errBytes =
        utf8 "shell: IO error: stream did not contain valid UTF-8\n" ∧
      ∃ t j, start false (some { path := "/rc", named := true }) spoiled {} = .ready t j ∧
        t.toState = spoiled.toState := by
  have hargs : Options.ofArgs ["-c", "-n", "-c", "/rc"] = .ok { startup := some "/rc" } := by decide
  have hhome : spoiled.env.get? "HOME" = some "/" := by decide
  have hne : "/" ≠ "" := by decide
  have hmet : ¬ (Met ["-c", "-n", "-c", "/rc"] "-n" ∨ Met ["-c", "-n", "-c", "/rc"] "--norc") := by
    intro h
    have hset := (Options.isSet_read {} ["-c", "-n", "-c", "/rc"] .noStartup).mpr (.inr h)
    exact absurd hset (by decide)
  have hread : Host.readFile spoiled.host "/rc" = .ok (utf8 "exit 3\n" ++ [0xFF]) := by cbv
  have hbytes : ofUtf8? (utf8 "exit 3\n" ++ [0xFF]) = none := by decide
  have htext : ∀ text, Host.readFile spoiled.host "/rc" ≠ .ok (utf8 text) := by
    intro text h
    rw [hread, Except.ok.injEq] at h
    rw [h, ofUtf8?_eq_some_iff.mpr rfl] at hbytes
    cases hbytes
  have hgiven : StartupFile.choose { startup := some "/rc" } (homeDir spoiled.env none) =
      .ok (some { path := "/rc", named := true }) := by rfl
  obtain ⟨-, hfile⟩ := reads_one_file hargs hhome hne false none (inferInstance : Host Sandbox)
  obtain ⟨file, hchoose, -, -, -, hpasses⟩ := hfile hmet
  rw [hgiven] at hchoose
  cases hchoose
  have hpassed := hpasses htext
  have hload : (spoiled.load { path := "/rc", named := true }).1 = .error (.unreadable .notText) := by
    simp only [Shell.load, hread, hbytes]
  have herr := hpassed.err (Limited.reliable rfl)
  rw [hload] at herr
  exact ⟨hargs, hhome, hne, hmet, htext, herr, hpassed.ready {} (.inr rfl)⟩

end Session

end LineShell
