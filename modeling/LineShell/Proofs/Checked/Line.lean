import LineShell.Completion
import LineShell.Highlight
import LineShell.Proofs.Checked.Basic
import LineShell.Proofs.Completion.Chosen
import LineShell.Proofs.Text.Runs

/-! What is done with the text of a line before it is carried out, and with the name of a directory.
Texts are cut only at positions that were found in them. -/
namespace LineShell.Checked

/-! Segments of a line. -/

/-- The characters of a text with the positions at which they begin. -/
def charIndices (start : Nat) : List Char → List (Nat × Char)
  | [] => []
  | c :: rest => (start, c) :: charIndices (start + c.utf8Size) rest

/-- How far a line has been cut: the finished segments, where the one at hand begins, and what the
test says of it. -/
structure Segments where
  done : List (Bool × List Char) := []
  start : Nat := 0
  kind? : Option Bool := none

namespace Segments
variable (p : Char → Bool) (line : List Char)

/-- Where the answer of the test changes, the segment at hand is finished. -/
def step (s : Segments) (index : Nat × Char) : Checked Segments :=
  match s.kind? with
  | none => return { s with kind? := some (p index.2) }
  | some kind =>
    if p index.2 = kind then return s
    else do
      let segment ← between line s.start index.1
      return { done := s.done ++ [(kind, segment)], start := index.1, kind? := some (p index.2) }

def finish (s : Segments) : Checked (List (Bool × List Char)) :=
  match s.kind? with
  | none => return s.done
  | some kind => do
    let (_, segment) ← cutAt line s.start
    return s.done ++ [(kind, segment)]

end Segments

def segments (p : Char → Bool) (line : List Char) : Checked (List (Bool × List Char)) := do
  let s ← (charIndices 0 line).foldlM (Segments.step p line) {}
  s.finish line

/-- A line of which `rest` has still to be read.  The segment at hand is `run`, which is of one kind
and begins where the finished ones end, and these are the first runs of the line. -/
structure Segments.At (p : Char → Bool) (line first run rest : List Char) (kind : Bool)
    (s : Segments) : Prop where
  line_eq : line = first ++ (run ++ rest)
  start_eq : s.start = byteCount first
  kind_eq : s.kind? = some kind
  nonempty : run ≠ []
  uniform : ∀ c ∈ run, p c = kind
  runs_eq : runs p line = s.done ++ runs p (run ++ rest)

section Reading
variable {p : Char → Bool} {line first run rest : List Char} {kind : Bool} {s : Segments}

theorem Segments.At.join {c : Char} (h : s.At p line first run (c :: rest) kind)
    (hc : p c = kind) :
    s.step p line (byteCount (first ++ run), c) = .ok s ∧
      s.At p line first (run ++ [c]) rest kind := by
  have hmore : run ++ c :: rest = run ++ [c] ++ rest := by simp
  refine ⟨by simp [step, h.kind_eq, hc], ?_⟩
  constructor
  · rw [h.line_eq, hmore]
  · exact h.start_eq
  · exact h.kind_eq
  · simp
  · intro d hd
    rcases List.mem_append.mp hd with hd | hd
    · exact h.uniform d hd
    · rw [List.mem_singleton.mp hd, hc]
  · rw [h.runs_eq, hmore]

/-- A character of the other kind finishes the segment at hand, and both its ends lie between two
characters. -/
theorem Segments.At.cut {c : Char} (h : s.At p line first run (c :: rest) kind)
    (hc : p c ≠ kind) :
    ∃ t, s.step p line (byteCount (first ++ run), c) = .ok t ∧
      t.At p line (first ++ run) [c] rest (p c) := by
  have hsegment : between line (byteCount first) (byteCount (first ++ run)) = .ok run := by
    rw [h.line_eq]
    exact between_append first run (c :: rest)
  have hruns : runs p (run ++ c :: rest) = (kind, run) :: runs p ([c] ++ rest) :=
    runs_append_of_border h.nonempty h.uniform (by simpa using hc)
  have hstep : s.step p line (byteCount (first ++ run), c) =
      .ok ⟨s.done ++ [(kind, run)], byteCount (first ++ run), some (p c)⟩ := by
    rw [step, h.kind_eq, h.start_eq]
    simp only [if_neg hc, hsegment, ok_bind, return_eq_ok]
  refine ⟨_, hstep, ?_⟩
  constructor
  · simp [h.line_eq]
  · rfl
  · rfl
  · simp
  · simp
  · rw [h.runs_eq, hruns]
    simp

theorem Segments.At.finish_eq (h : s.At p line first run [] kind) :
    s.finish line = .ok (runs p line) := by
  have hcut : cutAt line (byteCount first) = .ok (first, run) := by
    rw [h.line_eq, List.append_nil]
    exact cutAt_append first run
  have hruns : runs p (run ++ []) = [(kind, run)] := by
    rw [runs_append_of_border h.nonempty h.uniform (by simp), runs_nil]
  rw [h.runs_eq, hruns]
  simp [finish, h.kind_eq, h.start_eq, hcut]

theorem Segments.At.foldlM_eq (h : s.At p line first run rest kind) :
    ((charIndices (byteCount (first ++ run)) rest).foldlM (step p line) s >>= finish line) =
      .ok (runs p line) := by
  induction rest generalizing first run kind s with
  | nil => exact h.finish_eq
  | cons c rest ih =>
    have hnext : byteCount (first ++ run) + c.utf8Size = byteCount (first ++ run ++ [c]) := by
      simp [Nat.add_assoc]
    rw [charIndices, List.foldlM_cons, hnext]
    by_cases hc : p c = kind
    · obtain ⟨hstep, hat⟩ := h.join hc
      rw [hstep, ok_bind, List.append_assoc, ih hat]
    · obtain ⟨t, hstep, hat⟩ := h.cut hc
      rw [hstep, ok_bind, ih hat]

end Reading

theorem segments_eq (p : Char → Bool) (line : List Char) : segments p line = .ok (runs p line) := by
  cases line with
  | nil => rfl
  | cons c rest =>
    have hat : Segments.At p (c :: rest) [] [c] rest (p c) { kind? := some (p c) } :=
      ⟨rfl, rfl, rfl, by simp, by simp, rfl⟩
    simpa [segments, charIndices, Segments.step] using hat.foldlM_eq

def highlighted {κ : Type} (p : Painter κ) (line : String) : Checked String :=
  match p.support with
  | none => return line
  | some _ => do
    let segments ← segments (fun c => !isBlank c) line.toList
    return String.ofList (render p.paint (styled true segments))

theorem highlighted_eq {κ : Type} (p : Painter κ) (line : String) :
    highlighted p line = .ok (LineShell.highlighted p line) := by
  rw [highlighted, LineShell.highlighted]
  cases p.support with
  | none => rfl
  | some level => simp [segments_eq, stretches]

/-! What follows the last slash of a directory. -/

def shortDir (dir : String) : Checked String :=
  match lastWhere? (· == '/') dir.toList with
  | none => return dir
  | some position =>
    if position = 0 then return dir
    else do
      let (_, final) ← cutAt dir.toList (position + 1)
      return String.ofList final

/-- A slash takes one byte, so the name after it begins between two characters. -/
theorem cutAt_slash (before after : List Char) :
    cutAt (before ++ '/' :: after) (byteCount before + 1) = .ok (before ++ ['/'], after) := by
  have hslash : byteCount (before ++ ['/']) = byteCount before + 1 := by
    rw [byteCount_append]
    rfl
  rw [List.append_cons, ← hslash, cutAt_append]

theorem shortDir_eq (dir : String) : shortDir dir = .ok (LineShell.shortDir dir) := by
  have hbne : (fun d => !(d == '/')) = (· != '/') := rfl
  have hsplit := lastWhere?_spec (· == '/') dir.toList
  rw [hbne] at hsplit
  rw [shortDir, LineShell.shortDir]
  rcases hsplit with ⟨hlast, hfinal, -⟩ | ⟨before, c, after, hdir, hc, hlast, hfinal, -⟩
  · rw [hlast, hfinal]
    simp
  · obtain rfl : c = '/' := by simpa using hc
    rw [hlast, hfinal, hdir]
    cases before with
    | nil => simp
    | cons d before =>
      have hpos := d.utf8Size_pos
      have hposition : byteCount (d :: before) ≠ 0 := by
        rw [byteCount_cons]
        omega
      have hlength : after.length + 1 < (d :: before ++ '/' :: after).length := by
        simp only [List.length_append, List.length_cons]
        omega
      simp only [if_neg hposition, if_pos hlength, cutAt_slash, ok_bind, return_eq_ok]

def prompt {ω ε σ : Type} (s : Shell ω ε σ) : Checked String := do
  let dir ← shortDir s.dir
  return "[shell:" ++ dir ++ "]$ "

theorem prompt_eq {ω ε σ : Type} (s : Shell ω ε σ) : prompt s = .ok s.prompt := by
  simp [prompt, Shell.prompt, shortDir_eq]

/-! The word before the cursor, and the directory that it names. -/

/-- Where the word begins: after the last blank, whose width is read from the line. -/
def wordStart (before : List Char) : Checked Nat :=
  match lastWhere? isBlank before with
  | none => return 0
  | some position => do
    let (_, rest) ← cutAt before position
    return position + (rest.head?.map Char.utf8Size).getD 1

def splitPath (word : List Char) : Checked (List Char × List Char) :=
  match lastWhere? (· == '/') word with
  | none => return ([], word)
  | some position => cutAt word (position + 1)

section Completion
variable {σ : Type} [Host σ]

/-- The candidates in a directory for a name of which a part is typed. -/
def candidatesIn (host : σ) (dir typed : List Char) : List Candidate :=
  match Host.readDir host (if dir.isEmpty then "." else String.ofList dir) with
  | .error _ => []
  | .ok entries =>
    let fitting := (textNames (readable entries)).filter (PathNames.fits typed)
    let found := fitting.map fun name =>
      PathNames.candidate (String.ofList dir) name
        (Host.isDir host ((if dir.isEmpty then "./" else String.ofList dir) ++ name))
    found.mergeSort fun a b => !precedes b.display a.display

def pathCandidates (host : σ) (word : List Char) : Checked (List Candidate) := do
  let (dir, typed) ← splitPath word
  return candidatesIn host dir typed

def complete (names : List String) (host : σ) (line : String) (cursor : Nat) :
    Checked (Nat × List Candidate) := do
  let (before, _) ← cutAt line.toList cursor
  let start ← wordStart before
  let (lead, word) ← cutAt before start
  if lead.all isBlank then return (start, CommandNames.candidates names word)
  else do
    let candidates ← pathCandidates host word
    return (start, candidates)

theorem wordStart_eq (before : List Char) :
    wordStart before = .ok (byteCount (leadBefore before)) := by
  rw [wordStart, leadBefore]
  rcases lastWhere?_spec isBlank before with
    ⟨hlast, -, hlead⟩ | ⟨first, c, word, hbefore, -, hlast, -, hlead⟩
  · rw [hlast, hlead]
    rfl
  · have hcut : cutAt before (byteCount first) = .ok (first, c :: word) := by
      rw [hbefore, cutAt_append]
    rw [hlast, hlead]
    simp [hcut]

theorem splitPath_eq (word : List Char) :
    splitPath word = .ok (PathNames.dirPart word, PathNames.namePart word) := by
  have hbne : (fun c => !(c == '/')) = (· != '/') := rfl
  have hsplit := lastWhere?_spec (· == '/') word
  rw [hbne] at hsplit
  rw [splitPath, PathNames.dirPart, PathNames.namePart]
  rcases hsplit with ⟨hlast, hname, hdir⟩ | ⟨before, c, after, hword, hc, hlast, hname, hdir⟩
  · rw [hlast, hname, hdir]
    rfl
  · obtain rfl : c = '/' := by simpa using hc
    rw [hlast, hname, hdir, hword]
    exact cutAt_slash before after

theorem pathCandidates_eq (host : σ) (word : List Char) :
    pathCandidates host word = .ok (PathNames.candidates host word) := by
  rw [pathCandidates, splitPath_eq]
  rfl

/-- A cursor between two characters leaves all that completion cuts between two characters. -/
theorem complete_eq {line : String} {cursor : Nat}
    (h : (⟨cursor⟩ : String.Pos.Raw).IsValid line) (names : List String) (host : σ) :
    complete names host line cursor = .ok (LineShell.complete names host line cursor) := by
  obtain ⟨before, after, hline, rfl⟩ := (isValid_iff line cursor).mp h
  have hbefore : charsBefore (byteCount before) line.toList = before := by
    rw [hline, ← length_utf8]
    exact charsBefore_bytes before after
  have hword : cutAt before (byteCount (leadBefore before)) =
      .ok (leadBefore before, wordBefore before) := by
    have hcut := cutAt_append (leadBefore before) (wordBefore before)
    rwa [leadBefore_append_wordBefore] at hcut
  have hcut : cutAt line.toList (byteCount before) = .ok (before, after) := by
    rw [hline]
    exact cutAt_append before after
  simp only [complete, hcut, ok_bind, wordStart_eq, hword, pathCandidates_eq, LineShell.complete,
    hbefore, length_utf8]
  split <;> rfl

theorem complete_eq_error {line : String} {cursor : Nat}
    (h : ¬(⟨cursor⟩ : String.Pos.Raw).IsValid line) (names : List String) (host : σ) :
    complete names host line cursor = .error .position := by
  have hcut : cutAt line.toList cursor = .error .position :=
    cutAt_eq_error fun first rest hline hcount =>
      h ((isValid_iff line cursor).mpr ⟨first, rest, hline, hcount⟩)
  rw [complete, hcut, error_bind]

end Completion
end LineShell.Checked
