import LineShell.Proofs.Completion.Word
import LineShell.Proofs.Names.Order
import LineShell.Proofs.Text.Border
import LineShell.Sandbox
import Mathlib

/-! Candidates for a path.  A word is parted after its last slash, and one candidate is made of each entry
that goes on from the rest of it, in an order that the candidates alone decide. -/
namespace LineShell

/-- A system whose directories can be listed, though nothing in them can be reached. -/
structure Showcase where
  entries : List (Except Fault DirEntry)

instance : Host Showcase where
  workingDir _ := none
  changeDir _ _ := .error .accessDenied
  readFile _ _ := .error .accessDenied
  readDir s _ := .ok s.entries
  stat _ _ := .error .accessDenied
  launch s _ _ := { outcome := .refused .accessDenied, host := s }

namespace PathNames

/-- A word is a directory up to its last slash, and what is typed of a name in it. -/
structure Parts (word dir typed : List Char) : Prop where
  word_eq : word = dir ++ typed
  slash_last : ∀ c ∈ dir.getLast?, c = '/'
  no_slash : '/' ∉ typed

theorem parts (word : List Char) : Parts word (dirPart word) (namePart word) where
  word_eq := (dirPart_append_namePart word).symm
  slash_last c hc := by
    rw [dirPart, List.getLast?_reverse] at hc
    simpa using head?_dropWhile_of_neg _ _ c hc
  no_slash := slash_notMem_namePart word

section Parts
variable {word dir typed : List Char}

theorem Parts.unique (h : Parts word dir typed) : dirPart word = dir ∧ namePart word = typed := by
  have htyped : ∀ c ∈ typed.reverse, (c != '/') = true := by
    intro c hc
    rw [bne_iff_ne]
    rintro rfl
    exact h.no_slash (List.mem_reverse.mp hc)
  have hdir : ∀ c ∈ dir.reverse.head?, (c != '/') = false := by
    intro c hc
    rw [List.head?_reverse] at hc
    simp [h.slash_last c hc]
  obtain ⟨htake, hdrop⟩ := takeWhile_append_of_border htyped hdir
  rw [dirPart, namePart, h.word_eq, List.reverse_append, htake, hdrop]
  exact ⟨List.reverse_reverse dir, List.reverse_reverse typed⟩

end Parts

def GoesOn (typed : List Char) (name : String) : Prop :=
  typed <+: name.toList ∧ (typed = [] → name.toList.head? ≠ some '.')

instance (typed : List Char) (name : String) : Decidable (GoesOn typed name) :=
  inferInstanceAs (Decidable (_ ∧ _))

theorem fits_iff {typed : List Char} {name : String} : fits typed name = true ↔ GoesOn typed name := by
  rw [fits, GoesOn, Bool.and_eq_true, List.isPrefixOf_iff_prefix]
  simp [imp_iff_not_or]

/-- The directory in which the names are looked for, and the paths of what is found there. -/
def place (dir : List Char) : String := if dir = [] then "." else String.ofList dir

def inPlace (dir : List Char) (name : String) : String :=
  (if dir = [] then "./" else String.ofList dir) ++ name

/-- What is offered for a name: it goes behind the directory as that was typed, and before a slash if it
names a directory itself. -/
def offered (dir : List Char) (name : String) (isDir : Bool) : Candidate where
  display := String.ofList dir ++ name ++ if isDir then "/" else ""
  replacement := String.ofList dir ++ name ++ if isDir then "/" else " "

theorem candidate_eq (dir : List Char) (name : String) (isDir : Bool) :
    candidate (String.ofList dir) name isDir = offered dir name isDir := by
  cases isDir <;> simp [candidate, offered]

theorem name_eq_of_display_eq {dir : List Char} {a b : String} {isDirA isDirB : Bool}
    (ha : '/' ∉ a.toList) (hb : '/' ∉ b.toList)
    (h : (offered dir a isDirA).display = (offered dir b isDirB).display) : a = b := by
  have hchars : a.toList ++ (if isDirA then ['/'] else []) =
      b.toList ++ if isDirB then ['/'] else [] := by
    have hdisplay := congrArg String.toList h
    simp only [offered, String.toList_append, List.append_assoc] at hdisplay
    have hrest := List.append_cancel_left hdisplay
    cases isDirA <;> cases isDirB <;> exact hrest
  rw [← String.toList_inj]
  cases isDirA <;> cases isDirB
  · simpa using hchars
  · exact absurd (by simpa using congrArg ('/' ∈ ·) hchars) ha
  · exact absurd (by simpa using congrArg ('/' ∈ ·) hchars) hb
  · simpa using hchars

section Listing
variable {σ : Type} [Host σ] {host : σ} {word dir typed : List Char}
  {entries : List (Except Fault DirEntry)}

/-- A directory as systems list them.  Of the entries that could be read no two have the same name, and
none has a slash in it. -/
structure Lists (host : σ) (dir : String) (entries : List (Except Fault DirEntry)) : Prop where
  read : Host.readDir host dir = .ok entries
  nodup : ((readable entries).map (·.name)).Nodup
  no_slash : ∀ e ∈ readable entries, 0x2F ∉ e.name

/-- One candidate for each entry that could be read and has a text for its name, if that goes on from
what is typed. -/
def offers (host : σ) (dir typed : List Char) (entries : List (Except Fault DirEntry)) :
    List Candidate :=
  ((textNames (readable entries)).filter fun name => GoesOn typed name).map fun name =>
    offered dir name (Host.isDir host (inPlace dir name))

theorem Lists.nodup_textNames {place : String} (h : Lists host place entries) :
    (textNames (readable entries)).Nodup := by
  have hnames : textNames (readable entries) =
      ((readable entries).map (·.name)).filterMap ofUtf8? := by
    rw [List.filterMap_map]
    rfl
  rw [hnames]
  refine h.nodup.filterMap ?_
  intro bytes bytes' name hname hname'
  rw [Option.mem_def, ofUtf8?_eq_some_iff] at hname hname'
  rw [hname, hname']

theorem Lists.slash_notMem {place : String} (h : Lists host place entries) {name : String}
    (hname : name ∈ textNames (readable entries)) : '/' ∉ name.toList := by
  obtain ⟨e, he, hbytes⟩ := mem_textNames_iff.mp hname
  have hslash : (0x2F : UInt8) ∉ utf8 name := hbytes ▸ h.no_slash e he
  rwa [show (0x2F : UInt8) = UInt8.ofNat '/'.toNat from rfl, mem_utf8_iff (by decide)] at hslash

theorem searched_eq (h : Parts word dir typed) : searched word = place dir := by
  rw [searched, place, h.unique.1]
  simp

theorem pathTo_eq (h : Parts word dir typed) (name : String) : pathTo word name = inPlace dir name := by
  rw [pathTo, inPlace, h.unique.1]
  simp

theorem candidates_eq (h : Parts word dir typed) (hread : Host.readDir host (place dir) = .ok entries) :
    candidates host word =
      (offers host dir typed entries).mergeSort fun a b => !precedes b.display a.display := by
  have hfits : fits typed = fun name => decide (GoesOn typed name) := by
    funext name
    rw [Bool.eq_iff_iff, fits_iff, decide_eq_true_iff]
  rw [candidates, searched_eq h, hread]
  simp only [among, h.unique, candidate_eq, hfits, pathTo_eq h]
  rfl

theorem candidates_perm (h : Parts word dir typed) (hread : Host.readDir host (place dir) = .ok entries) :
    (candidates host word).Perm (offers host dir typed entries) := by
  rw [candidates_eq h hread]
  exact List.mergeSort_perm _ _

theorem nodup_offers (h : Lists host (place dir) entries) :
    ((offers host dir typed entries).map (·.display)).Nodup := by
  rw [offers, List.map_map]
  refine List.Nodup.map_on ?_ (h.nodup_textNames.filter _)
  intro a ha b hb hdisplay
  exact name_eq_of_display_eq (h.slash_notMem (List.mem_filter.mp ha).1)
    (h.slash_notMem (List.mem_filter.mp hb).1) hdisplay

theorem increasing_candidates (h : Parts word dir typed) (hlists : Lists host (place dir) entries) :
    Increasing Candidate.display (candidates host word) := by
  rw [candidates_eq h hlists.read]
  exact increasing_mergeSort (nodup_offers hlists)

theorem Lists.of_perm {τ : Type} [Host τ] {other : τ} {place : String}
    {shuffled : List (Except Fault DirEntry)} (h : Lists host place entries)
    (hread : Host.readDir other place = .ok shuffled) (hperm : shuffled.Perm entries) :
    Lists other place shuffled where
  read := hread
  nodup := (((hperm.filterMap _).map _).nodup_iff).mpr h.nodup
  no_slash e he := h.no_slash e ((hperm.filterMap _).mem_iff.mp he)

theorem candidates_of_perm {τ : Type} [Host τ] {other : τ}
    {shuffled : List (Except Fault DirEntry)} (h : Parts word dir typed)
    (hlists : Lists host (place dir) entries)
    (hread : Host.readDir other (place dir) = .ok shuffled) (hperm : shuffled.Perm entries)
    (hdirs : ∀ name ∈ textNames (readable entries),
      Host.isDir other (inPlace dir name) = Host.isDir host (inPlace dir name)) :
    candidates other word = candidates host word := by
  have hoffers : (offers other dir typed shuffled).Perm (offers host dir typed entries) := by
    have hsame : offers other dir typed entries = offers host dir typed entries := by
      apply List.map_congr_left
      intro name hname
      rw [hdirs name (List.mem_filter.mp hname).1]
    rw [← hsame]
    exact (((hperm.filterMap _).filterMap _).filter _).map _
  refine (increasing_candidates h (hlists.of_perm hread hperm)).eq_of_perm
    (increasing_candidates h hlists) ?_
  exact (candidates_perm h hread).trans (hoffers.trans (candidates_perm h hlists.read).symm)

/-- Of every word some part up to a slash names a directory.  If it cannot be read nothing is offered,
and else one candidate for each entry that can be read and is known by a text that goes on from the
rest of the word.  It is shown with a slash if its path is known to lead to a directory.  The
candidates increase, so that it makes no difference in which order they were listed. -/
theorem candidates_exact (host : σ) (word : List Char) :
    (∃ dir typed, Parts word dir typed) ∧ ∀ dir typed, Parts word dir typed →
      (∀ fault, Host.readDir host (place dir) = .error fault → candidates host word = []) ∧
      ∀ entries, Lists host (place dir) entries →
        (candidates host word).Perm (offers host dir typed entries) ∧
        (candidates host word).Pairwise (fun a b => utf8 a.display < utf8 b.display) ∧
        ∀ {τ : Type} [Host τ] (other : τ) (shuffled : List (Except Fault DirEntry)),
          Host.readDir other (place dir) = .ok shuffled → shuffled.Perm entries →
          (∀ name ∈ textNames (readable entries),
            Host.isDir other (inPlace dir name) = Host.isDir host (inPlace dir name)) →
          candidates other word = candidates host word := by
  refine ⟨⟨_, _, parts word⟩, ?_⟩
  intro dir typed h
  refine ⟨?_, ?_⟩
  · intro fault hfault
    rw [candidates, searched_eq h, hfault]
  · intro entries hlists
    exact ⟨candidates_perm h hlists.read, increasing_candidates h hlists,
      fun other shuffled => candidates_of_perm h hlists⟩

def unreached : Showcase where
  entries := [.ok ⟨utf8 "dir", .ok .directory⟩, .ok ⟨utf8 "d" ++ [0xFF], .ok .file⟩]

/-- A directory that cannot be reached is shown without a slash, and a name that is no text is not
shown at all. -/
theorem candidates_unreached :
    Parts ['d'] [] ['d'] ∧
      Host.readDir unreached (place []) =
        .ok [.ok ⟨utf8 "dir", .ok .directory⟩, .ok ⟨utf8 "d" ++ [0xFF], .ok .file⟩] ∧
      candidates unreached ['d'] = [⟨"dir", "dir "⟩] := by
  have hparts : Parts ['d'] [] ['d'] := ⟨rfl, by simp, by simp⟩
  have hread : Host.readDir unreached (place []) = .ok unreached.entries := rfl
  have hoffers : offers unreached [] ['d'] unreached.entries = [⟨"dir", "dir "⟩] := by decide
  refine ⟨hparts, hread, ?_⟩
  rw [candidates_eq hparts hread, hoffers, List.mergeSort_singleton]

/-- A system that stands in a directory with another one, a file, and a link to the other directory. -/
def linked (entries : List (String × Nat)) : Sandbox where
  tree := { nodes := #[.directory 0 entries, .directory 0 [], .file [] 0o644, .link "a"] }

def linkedEntries : List (String × Nat) := [("a", 1), ("a.", 2), ("al", 3)]

theorem isDir_linked {held : List (String × Nat)}
    (h : held = linkedEntries ∨ held = linkedEntries.reverse) :
    Host.isDir (linked held) ("./" ++ "a") = true ∧
      Host.isDir (linked held) ("./" ++ "a.") = false ∧
      Host.isDir (linked held) ("./" ++ "al") = true := by
  have hfirst : Sandbox.Tree.components ("./" ++ "a") = [".", "a"] := by decide
  have hsecond : Sandbox.Tree.components ("./" ++ "a.") = [".", "a."] := by decide
  have hlink : Sandbox.Tree.components ("./" ++ "al") = [".", "al"] := by decide
  rw [Host.isDir, Host.isDir, Host.isDir, Sandbox.stat_eq_walk (by decide) hfirst,
    Sandbox.stat_eq_walk (by decide) hsecond, Sandbox.stat_eq_walk (by decide) hlink]
  rcases h with rfl | rfl <;> refine ⟨?_, ?_, ?_⟩ <;> cbv

def linkedListing : List (Except Fault DirEntry) :=
  [.ok ⟨utf8 "a", .ok .directory⟩, .ok ⟨utf8 "a.", .ok .file⟩, .ok ⟨utf8 "al", .ok .link⟩]

/-- The dot comes before the slash that the first name is shown with, and after the end of that name.
It does so too when the names are listed in the other direction. -/
theorem candidates_exact_linked :
    Parts ['a'] [] ['a'] ∧ Lists (linked linkedEntries) "." linkedListing ∧
      candidates (linked linkedEntries) ['a'] =
        [⟨"a.", "a. "⟩, ⟨"a/", "a/"⟩, ⟨"al/", "al/"⟩] ∧
      candidates (linked linkedEntries.reverse) ['a'] = candidates (linked linkedEntries) ['a'] := by
  have hparts : Parts ['a'] [] ['a'] := ⟨rfl, by simp, by simp⟩
  have hread : Host.readDir (linked linkedEntries) "." = .ok linkedListing := by cbv
  have hread' : Host.readDir (linked linkedEntries.reverse) "." = .ok linkedListing.reverse := by cbv
  have hlists : Lists (linked linkedEntries) "." linkedListing := ⟨hread, by decide, by decide⟩
  have hnames : textNames (readable linkedListing) = ["a", "a.", "al"] := by decide
  have hpath (name : String) : inPlace [] name = "./" ++ name := rfl
  obtain ⟨hfirst, hsecond, hlink⟩ := isDir_linked (.inl rfl)
  obtain ⟨hfirst', hsecond', hlink'⟩ := isDir_linked (.inr rfl)
  have hoffers : offers (linked linkedEntries) [] ['a'] linkedListing =
      [⟨"a/", "a/"⟩, ⟨"a.", "a. "⟩, ⟨"al/", "al/"⟩] := by
    have hall : (["a", "a.", "al"].filter fun name => GoesOn ['a'] name) = ["a", "a.", "al"] := by
      decide
    simp only [offers, hnames, hall, hpath, List.map_cons, List.map_nil, hfirst, hsecond, hlink]
    decide
  obtain ⟨hperm, hincreasing, hsame⟩ := ((candidates_exact _ _).2 [] ['a'] hparts).2 _ hlists
  rw [hoffers] at hperm
  have hshown : Increasing Candidate.display [⟨"a.", "a. "⟩, ⟨"a/", "a/"⟩, ⟨"al/", "al/"⟩] := by
    decide
  have hdirs : ∀ name ∈ textNames (readable linkedListing),
      Host.isDir (linked linkedEntries.reverse) (inPlace [] name) =
        Host.isDir (linked linkedEntries) (inPlace [] name) := by
    rw [hnames]
    intro name hname
    simp only [List.mem_cons, List.not_mem_nil, or_false] at hname
    rcases hname with rfl | rfl | rfl
    · exact hfirst'.trans hfirst.symm
    · exact hsecond'.trans hsecond.symm
    · exact hlink'.trans hlink.symm
  exact ⟨hparts, hlists, Increasing.eq_of_perm hincreasing hshown (hperm.trans (.swap _ _ _)),
    hsame _ _ hread' (List.reverse_perm _) hdirs⟩

end Listing
end PathNames
end LineShell
