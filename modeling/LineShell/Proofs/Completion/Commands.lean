import LineShell.Completer
import LineShell.Proofs.Command.Launches
import LineShell.Proofs.Completion.Paths
import LineShell.Proofs.Completion.Typed
import Mathlib

/-! Candidates for a command.  They are told by the moment at which the names were last looked up, and at
that moment by which names there are and not by where they were found. -/
namespace LineShell

namespace Surroundings
variable {σ : Type}

def searched (s : Surroundings σ) : List String := ((s.env.get? "PATH").map searchDirs).getD []

section Commands
variable [Host σ] {s t : Surroundings σ} {name : String}

/-- A command of the shell's own, or a file or a link that is listed under a text in a directory of the
search path that can be read. -/
inductive IsCommand (s : Surroundings σ) (name : String) : Prop
  | builtin : name ∈ Builtin.names → IsCommand s name
  | found {dir : String} {entries : List (Except Fault DirEntry)} {kind : EntryKind} :
    dir ∈ s.searched → Host.readDir s.host dir = .ok entries →
      .ok ⟨utf8 name, .ok kind⟩ ∈ entries → kind = .file ∨ kind = .link → IsCommand s name

theorem mayRun_iff {e : DirEntry} :
    CommandNames.mayRun e = true ↔ ∃ kind, e.kind = .ok kind ∧ (kind = .file ∨ kind = .link) := by
  rw [CommandNames.mayRun]
  rcases e.kind with fault | kind
  · simp
  · cases kind <;> simp

theorem mem_inDir_iff {dir : String} : name ∈ CommandNames.inDir s.host dir ↔
    ∃ entries kind, Host.readDir s.host dir = .ok entries ∧ .ok ⟨utf8 name, .ok kind⟩ ∈ entries ∧
      (kind = .file ∨ kind = .link) := by
  rw [CommandNames.inDir]
  cases Host.readDir s.host dir with
  | error fault => simp
  | ok entries =>
    simp only [mem_textNames_iff, List.mem_filter, mem_readable_iff, mayRun_iff, Except.ok.injEq]
    constructor
    · rintro ⟨⟨bytes, told⟩, ⟨hentry, kind, rfl, hkind⟩, rfl⟩
      exact ⟨entries, kind, rfl, hentry, hkind⟩
    · rintro ⟨entries, kind, rfl, hentry, hkind⟩
      exact ⟨_, ⟨hentry, kind, rfl, hkind⟩, rfl⟩

theorem commands_eq (s : Surroundings σ) : s.commands =
    sortedNames (Builtin.names ++ s.searched.flatMap (CommandNames.inDir s.host)) := by
  have hbuiltin : Builtin.all.map Builtin.name = Builtin.names := rfl
  rw [commands, CommandNames.collect, hbuiltin, searched]
  cases s.env.get? "PATH" <;> rfl

theorem mem_commands_iff : name ∈ s.commands ↔ s.IsCommand name := by
  rw [commands_eq, mem_sortedNames, List.mem_append, List.mem_flatMap]
  constructor
  · rintro (hname | ⟨dir, hdir, hname⟩)
    · exact .builtin hname
    · obtain ⟨entries, kind, hread, hentry, hkind⟩ := mem_inDir_iff.mp hname
      exact .found hdir hread hentry hkind
  · rintro (hname | ⟨hdir, hread, hentry, hkind⟩)
    · exact .inl hname
    · exact .inr ⟨_, hdir, mem_inDir_iff.mpr ⟨_, _, hread, hentry, hkind⟩⟩

theorem increasing_commands (s : Surroundings σ) : Increasing id s.commands := by
  rw [commands_eq]
  exact increasing_sortedNames _

/-- One system, and search paths on which the same directories can be read.  How often they are named, and
what else is, makes no difference. -/
structure SameDirs (s t : Surroundings σ) : Prop where
  host_eq : s.host = t.host
  searched_iff {dir : String} {entries : List (Except Fault DirEntry)} :
    Host.readDir s.host dir = .ok entries → (dir ∈ s.searched ↔ dir ∈ t.searched)

theorem SameDirs.symm (h : SameDirs s t) : SameDirs t s where
  host_eq := h.host_eq.symm
  searched_iff hread := (h.searched_iff (h.host_eq ▸ hread)).symm

theorem SameDirs.isCommand (h : SameDirs s t) (hname : s.IsCommand name) : t.IsCommand name := by
  cases hname with
  | builtin hname => exact .builtin hname
  | found hdir hread hentry hkind =>
    exact .found ((h.searched_iff hread).mp hdir) (h.host_eq ▸ hread) hentry hkind

theorem SameDirs.commands_eq (h : SameDirs s t) : s.commands = t.commands := by
  refine (increasing_commands s).eq_of_mem_iff (increasing_commands t) fun name => ?_
  rw [mem_commands_iff, mem_commands_iff]
  exact ⟨h.isCommand, h.symm.isCommand⟩

/-- One candidate for each command that goes on from a word, in the order of their bytes. -/
structure Offers (s : Surroundings σ) (word : List Char) (offered : List Candidate) : Prop where
  increasing : offered.Pairwise fun a b => utf8 a.display < utf8 b.display
  mem_iff {c : Candidate} : c ∈ offered ↔
    ∃ name, s.IsCommand name ∧ word <+: name.toList ∧ c = ⟨name, name ++ " "⟩

theorem offers (s : Surroundings σ) (word : List Char) :
    s.Offers word (CommandNames.candidates s.commands word) where
  increasing := List.pairwise_map.mpr ((increasing_commands s).filter _)
  mem_iff {c} := by
    rw [CommandNames.candidates, List.mem_map]
    simp only [List.mem_filter, mem_commands_iff, List.isPrefixOf_iff_prefix, and_assoc,
      @eq_comm Candidate c]

end Commands

/-! The moment of the last look. -/

open Completer (Move)

def changed (s : Surroundings σ) : Move σ → Surroundings σ
  | .environment env => { s with env }
  | .system host => { s with host }
  | .complete _ _ | .refresh => s

def after (s : Surroundings σ) (moves : List (Move σ)) : Surroundings σ := moves.foldl changed s

/-- The surroundings after the last of the moves by which the names are looked up again, or those at the
beginning if there is none. -/
def lastLook (s : Surroundings σ) (moves : List (Move σ)) : Surroundings σ :=
  s.after (moves.rdropWhile fun move => !move.isRefresh)

theorem after_concat (s : Surroundings σ) (moves : List (Move σ)) (move : Move σ) :
    s.after (moves ++ [move]) = (s.after moves).changed move := List.foldl_concat _ _ _ _

@[simp] theorem lastLook_nil (s : Surroundings σ) : s.lastLook [] = s := rfl

theorem lastLook_refresh (s : Surroundings σ) (moves : List (Move σ)) :
    s.lastLook (moves ++ [Move.refresh]) = s.after moves := by
  rw [lastLook, List.rdropWhile_concat_neg _ _ _ (by simp [Move.isRefresh]), after_concat]
  rfl

theorem lastLook_concat (s : Surroundings σ) (moves : List (Move σ)) {move : Move σ}
    (h : move.isRefresh = false) : s.lastLook (moves ++ [move]) = s.lastLook moves := by
  rw [lastLook, List.rdropWhile_concat_pos _ _ _ (by simp [h]), lastLook]

theorem lastLook_append (s : Surroundings σ) (moves : List (Move σ)) {more : List (Move σ)}
    (h : Move.refresh ∉ more) : s.lastLook (moves ++ more) = s.lastLook moves := by
  induction more using List.reverseRecOn with
  | nil => rw [List.append_nil]
  | append_singleton more move ih =>
    rw [List.mem_append, List.mem_singleton, not_or] at h
    have hmove : move.isRefresh = false :=
      Bool.eq_false_iff.mpr fun hrefresh => h.2 (Move.isRefresh_iff.mp hrefresh).symm
    rw [← List.append_assoc, s.lastLook_concat _ hmove, ih h.1]

end Surroundings

namespace Completer
variable {σ : Type} [Host σ] (s : Surroundings σ) (moves : List (Move σ))

theorem around_next (c : Completer σ) (move : Move σ) :
    (c.next move).around = c.around.changed move := by
  cases move <;> simp only [next, Surroundings.changed]

theorem names_next (c : Completer σ) {move : Move σ} (h : move.isRefresh = false) :
    (c.next move).names = c.names := by
  cases move with
  | refresh => simp [Move.isRefresh] at h
  | environment env | system host | complete line cursor => rw [next]

theorem around_after : ((start s).after moves).around = s.after moves := by
  induction moves using List.reverseRecOn with
  | nil => rfl
  | append_singleton moves move ih =>
    rw [after_concat, around_next, ih, Surroundings.after_concat]

/-- A completer knows the names that were there when it last looked. -/
theorem names_after : ((start s).after moves).names = (s.lastLook moves).commands := by
  induction moves using List.reverseRecOn with
  | nil => rw [after_nil, start, Surroundings.lastLook_nil]
  | append_singleton moves move ih =>
    rw [after_concat]
    cases hrefresh : move.isRefresh with
    | false => rw [names_next _ hrefresh, ih, s.lastLook_concat moves hrefresh]
    | true =>
      obtain rfl := Move.isRefresh_iff.mp hrefresh
      rw [names_refresh, around_after, s.lastLook_refresh]

/-- Where only blanks stand before it, a word is completed with the names of commands. -/
theorem answer?_complete (c : Completer σ) {lead word : List Char}
    (hlead : ∀ x ∈ lead, isBlank x = true) (hword : ∀ x ∈ word, isBlank x = false)
    (rest : List Char) :
    c.answer? (.complete (String.ofList (lead ++ word ++ rest)) (byteCount (lead ++ word))) =
      some (byteCount lead, c.commandsFor word) := by
  have hlast : ∀ x ∈ lead.getLast?, isBlank x = true :=
    fun x hx => hlead x (List.mem_of_getLast? hx)
  obtain ⟨hleadBefore, hwordBefore⟩ := parted_of_border hlast hword
  rw [answer?, complete, complete_at, hleadBefore, hwordBefore, if_pos (List.all_eq_true.mpr hlead),
    commandsFor]

theorem commandsFor_after (word : List Char) : ((start s).after moves).commandsFor word =
    CommandNames.candidates (s.lastLook moves).commands word := by
  rw [commandsFor, names_after]

/-- Whatever has happened, the commands that are offered for a word are those that were there at the last
look: until the next one nothing changes that, looking twice does no more than looking once, and it
makes no difference in which order the directories of the search path are named, how often, and among
which others that cannot be read. -/
theorem commands_of_last_look (s : Surroundings σ) (moves : List (Move σ)) (word : List Char) :
    (s.lastLook moves).Offers word (((start s).after moves).commandsFor word) ∧
    (∀ lead rest, (∀ x ∈ lead, isBlank x = true) → (∀ x ∈ word, isBlank x = false) →
      ((start s).after moves).answer?
          (.complete (String.ofList (lead ++ word ++ rest)) (byteCount (lead ++ word))) =
        some (byteCount lead, ((start s).after moves).commandsFor word)) ∧
    (∀ more, Move.refresh ∉ more → ((start s).after (moves ++ more)).commandsFor word =
      ((start s).after moves).commandsFor word) ∧
    (∀ env, (s.after moves).SameDirs { s.after moves with env } →
      ((start s).after (moves ++ [Move.environment env, .refresh])).commandsFor word =
        ((start s).after (moves ++ [Move.refresh])).commandsFor word) ∧
    (start s).after (moves ++ [Move.refresh, .refresh]) = (start s).after (moves ++ [Move.refresh]) := by
  refine ⟨?_, ?_, ?_, ?_, ?_⟩
  · rw [commandsFor_after]
    exact (s.lastLook moves).offers word
  · intro lead rest hlead hword
    exact answer?_complete _ hlead hword rest
  · intro more hmore
    rw [commandsFor_after, commandsFor_after, s.lastLook_append moves hmore]
  · intro env hsame
    have hmoves : moves ++ [Move.environment env, .refresh] =
        moves ++ [Move.environment env] ++ [Move.refresh] := by simp
    rw [commandsFor_after, commandsFor_after, hmoves, s.lastLook_refresh, s.lastLook_refresh,
      s.after_concat]
    exact congrArg (CommandNames.candidates · word) hsame.commands_eq.symm
  · have hmoves : moves ++ [Move.refresh, .refresh] =
        moves ++ [Move.refresh] ++ [Move.refresh] := by simp
    rw [hmoves, after_concat, after_concat, refresh_refresh]

def unnamed : Surroundings Showcase where
  host := { entries := [.ok ⟨utf8 "c" ++ [0xFF], .ok .file⟩] }
  env := { bindings := [("PATH", "/bin")] }

/-- The only program is in the working directory, for which the search path has an empty text. -/
def besides : Surroundings Sandbox where
  host := { tree := { nodes := #[.directory 0 [("prog", 1)], .file [] 0o755] } }
  env := { bindings := [("PATH", ":/bin")] }

/-- Neither of these programs is offered. -/
theorem commands_passed_over :
    unnamed.searched = ["/bin"] ∧
      Host.readDir unnamed.host "/bin" = .ok [.ok ⟨utf8 "c" ++ [0xFF], .ok .file⟩] ∧
      (start unnamed).commandsFor ['c'] = [⟨"cd", "cd "⟩] ∧
      besides.searched = ["", "/bin"] ∧
      Host.readDir besides.host "." = .ok [.ok ⟨utf8 "prog", .ok .file⟩] ∧
      (start besides).commandsFor ['p', 'r'] = [] := by
  have hdirs : unnamed.searched = ["/bin"] := by decide
  have hread : Host.readDir unnamed.host "/bin" = .ok [.ok ⟨utf8 "c" ++ [0xFF], .ok .file⟩] := rfl
  have hothers : besides.searched = ["", "/bin"] := by decide
  have hempty : Host.readDir besides.host "" = .error .noEntry := by cbv
  have hbin : Host.readDir besides.host "/bin" = .error .noEntry := by cbv
  refine ⟨hdirs, hread, ?_, hothers, by cbv, ?_⟩
  · rw [commandsFor, start, Surroundings.commands_eq, hdirs]
    simp only [List.flatMap_cons, List.flatMap_nil, CommandNames.inDir, hread]
    decide
  · rw [commandsFor, start, Surroundings.commands_eq, hothers]
    simp only [List.flatMap_cons, List.flatMap_nil, CommandNames.inDir, hempty, hbin]
    decide

/-- A system with two directories of programs.  One program is in both of them, one has the name of a
command of the shell's own, and one is a link that leads nowhere. -/
def provided : Sandbox where
  tree := { nodes := #[.directory 0 [("bin", 1), ("sbin", 2)],
    .directory 0 [("cp", 3), ("cd", 3), ("case", 1)], .directory 0 [("cp", 3), ("cat", 4)],
    .file [] 0o644, .link "missing"] }

def searching (path : String) : Surroundings Sandbox where
  host := provided
  env := { bindings := [("PATH", path)] }

/-- The names stay when the programs and the path are gone, and they are the same again when the path
names their directories in another way. -/
theorem commands_of_last_look_provided :
    .refresh ∉ [Move.environment {}, .system ({} : Sandbox), .complete "c" 1] ∧
      (searching "bin:sbin").SameDirs (searching "sbin:gone:bin:sbin") ∧
      ((start (searching "bin:sbin")).after
        [.environment {}, .system {}, .complete "c" 1]).commandsFor ['c'] =
          [⟨"cat", "cat "⟩, ⟨"cd", "cd "⟩, ⟨"cp", "cp "⟩] ∧
      (start (searching "bin:sbin")).answer? (.complete "\u3000c" 4) =
        some (3, [⟨"cat", "cat "⟩, ⟨"cd", "cd "⟩, ⟨"cp", "cp "⟩]) ∧
      ((start (searching "bin:sbin")).after
        [.environment (searching "sbin:gone:bin:sbin").env, .refresh]).commandsFor ['c'] =
          ((start (searching "bin:sbin")).after [Move.refresh]).commandsFor ['c'] := by
  have hbin : Host.readDir provided "bin" = .ok [.ok ⟨utf8 "cp", .ok .file⟩,
      .ok ⟨utf8 "cd", .ok .file⟩, .ok ⟨utf8 "case", .ok .directory⟩] := by cbv
  have hsbin : Host.readDir provided "sbin" =
      .ok [.ok ⟨utf8 "cp", .ok .file⟩, .ok ⟨utf8 "cat", .ok .link⟩] := by cbv
  have hgone : Host.readDir provided "gone" = .error .noEntry := by cbv
  have hdirs : (searching "bin:sbin").searched = ["bin", "sbin"] := by decide
  have hothers : (searching "sbin:gone:bin:sbin").searched = ["sbin", "gone", "bin", "sbin"] := by
    decide
  have hsame : (searching "bin:sbin").SameDirs (searching "sbin:gone:bin:sbin") := by
    refine ⟨rfl, fun {dir entries} hread => ?_⟩
    have hne : dir ≠ "gone" := by
      rintro rfl
      simp [searching, hgone] at hread
    simp only [hdirs, hothers, List.mem_cons, List.not_mem_nil, or_false, hne, false_or]
    tauto
  have hnames : (start (searching "bin:sbin")).commandsFor ['c'] =
      [⟨"cat", "cat "⟩, ⟨"cd", "cd "⟩, ⟨"cp", "cp "⟩] := by
    rw [commandsFor, start, Surroundings.commands_eq, hdirs]
    simp only [List.flatMap_cons, List.flatMap_nil, CommandNames.inDir, searching, hbin, hsbin]
    decide
  have hkept : .refresh ∉ [Move.environment {}, .system ({} : Sandbox), .complete "c" 1] := by simp
  have hblank : isBlank '\u3000' = true := by decide
  have hletter : isBlank 'c' = false := by decide
  obtain ⟨-, hanswer, hstay, hagain, -⟩ := commands_of_last_look (searching "bin:sbin") [] ['c']
  have hline := hanswer ['\u3000'] [] (by simpa using hblank) (by simpa using hletter)
  rw [after_nil, hnames] at hline
  exact ⟨hkept, hsame, (hstay _ hkept).trans hnames, hline, hagain _ hsame⟩

end Completer
end LineShell
