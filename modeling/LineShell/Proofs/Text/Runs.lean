import LineShell.Text.Runs

/-! The runs of a sequence make it up, and it is cut at every place where the answer of the test
changes. -/
namespace LineShell
variable {α : Type} {p q : α → Bool} {xs : List α} {rs : List (Bool × List α)}

theorem runs_congr (h : ∀ a ∈ xs, p a = q a) : runs p xs = runs q xs := by
  induction xs with
  | nil => rfl
  | cons a rest ih => rw [runs, runs, ih fun b hb => h b (by simp [hb]), h a (by simp)]

/-- An element joins the first run if the test says the same of it. -/
theorem AreRuns.join {a : α} {run : List α} (h : AreRuns p xs ((p a, run) :: rs)) :
    AreRuns p (a :: xs) ((p a, a :: run) :: rs) where
  flatten := by simpa using h.flatten
  nonempty := by simpa using fun r hr => h.nonempty r (List.mem_cons_of_mem _ hr)
  uniform := by
    rintro r (_ | ⟨_, hr⟩) b hb
    · rcases List.mem_cons.mp hb with rfl | hb
      · rfl
      · exact h.uniform (p a, run) (by simp) b hb
    · exact h.uniform r (List.mem_cons_of_mem _ hr) b hb
  alternating := by
    have halternating := h.alternating
    cases rs with
    | nil => trivial
    | cons r more => exact halternating

theorem AreRuns.open {a : α} (h : AreRuns p xs rs) (hne : ∀ r ∈ rs.head?, p a ≠ r.1) :
    AreRuns p (a :: xs) ((p a, [a]) :: rs) where
  flatten := by simpa using h.flatten
  nonempty := by simpa using h.nonempty
  uniform := by
    rintro r (_ | ⟨_, hr⟩) b hb
    · rw [List.mem_singleton.mp hb]
    · exact h.uniform r hr b hb
  alternating := by
    cases rs with
    | nil => trivial
    | cons r more => exact ⟨hne r rfl, h.alternating⟩

theorem AreRuns.tail {r : Bool × List α} (h : AreRuns p xs (r :: rs)) :
    AreRuns p (rs.flatMap (·.2)) rs where
  flatten := rfl
  nonempty s hs := h.nonempty s (List.mem_cons_of_mem _ hs)
  uniform s hs := h.uniform s (List.mem_cons_of_mem _ hs)
  alternating := by
    have halternating := h.alternating
    cases rs with
    | nil => trivial
    | cons s more => exact halternating.2

theorem areRuns_runs (p : α → Bool) (xs : List α) : AreRuns p xs (runs p xs) := by
  induction xs with
  | nil => exact ⟨rfl, by simp, by simp, trivial⟩
  | cons a rest ih =>
    rw [runs]
    split
    · next kind run more hruns =>
      rw [hruns] at ih
      split
      · next hkind =>
        subst hkind
        exact ih.join
      · next hkind => exact ih.open (by simpa using hkind)
    · next hruns =>
      rw [hruns] at ih
      exact ih.open (by simp)

theorem exists_runs_cons (p : α → Bool) (a : α) (rest : List α) :
    ∃ run more, runs p (a :: rest) = (p a, a :: run) :: more := by
  rw [runs]
  split
  · next kind run more hruns =>
    split
    · next hkind => exact ⟨run, more, by rw [hkind]⟩
    · exact ⟨[], (kind, run) :: more, rfl⟩
  · exact ⟨[], [], rfl⟩

/-- A stretch on which the test agrees is a run if the test says something else of what follows. -/
theorem runs_append_of_border {kind : Bool} {run rest : List α} (hne : run ≠ [])
    (hrun : ∀ a ∈ run, p a = kind) (hrest : ∀ a ∈ rest.head?, p a ≠ kind) :
    runs p (run ++ rest) = (kind, run) :: runs p rest := by
  induction run with
  | nil => exact absurd rfl hne
  | cons a run ih =>
    have ha : p a = kind := hrun a (by simp)
    rw [List.cons_append, runs]
    cases run with
    | cons b run =>
      rw [ih (by simp) fun c hc => hrun c (by simp [hc])]
      exact if_pos ha
    | nil =>
      rw [List.nil_append]
      cases rest with
      | nil => simp [ha]
      | cons b rest =>
        obtain ⟨run, more, hruns⟩ := exists_runs_cons p b rest
        have hb : ¬kind = p b := (hrest b rfl).symm
        simp [hruns, ha, hb]

theorem AreRuns.head_ne {r : Bool × List α} (h : AreRuns p xs (r :: rs)) :
    ∀ a ∈ (rs.flatMap (·.2)).head?, p a ≠ r.1 := by
  cases rs with
  | nil => simp
  | cons s more =>
    obtain ⟨a, run, hs⟩ := List.exists_cons_of_ne_nil (h.nonempty s (by simp))
    intro b hb
    have hba : a = b := by simpa [hs] using hb
    have hp : p a = s.1 := h.uniform s (by simp) a (by simp [hs])
    rw [← hba, hp]
    exact h.alternating.1.symm

theorem AreRuns.eq_runs (h : AreRuns p xs rs) : rs = runs p xs := by
  induction rs generalizing xs with
  | nil =>
    rw [← h.flatten]
    rfl
  | cons r rest ih =>
    have hxs : xs = r.2 ++ rest.flatMap (·.2) := by rw [← h.flatten, List.flatMap_cons]
    rw [hxs, runs_append_of_border (h.nonempty r (by simp)) (h.uniform r (by simp)) h.head_ne,
      ← ih h.tail]

theorem AreRuns.of_append {before : List (Bool × List α)} (h : AreRuns p xs (before ++ rs)) :
    AreRuns p (rs.flatMap (·.2)) rs := by
  induction before generalizing xs with
  | nil =>
    rw [List.nil_append] at h
    rwa [h.flatten]
  | cons r before ih => exact ih h.tail

/-- The answer changes before a run as it does behind it. -/
theorem AreRuns.getLast_ne {before : List (Bool × List α)} {r : Bool × List α}
    (h : AreRuns p xs (before ++ r :: rs)) :
    ∀ a ∈ (before.flatMap (·.2)).getLast?, p a ≠ r.1 := by
  induction before generalizing xs with
  | nil => simp
  | cons s before ih =>
    intro a ha
    rw [List.flatMap_cons, List.getLast?_append] at ha
    cases before with
    | nil =>
      have hmem : a ∈ s.2 := List.mem_of_getLast? (by simpa using ha)
      rw [h.uniform s (by simp) a hmem]
      exact h.alternating.1
    | cons t more =>
      cases hlast : ((t :: more).flatMap (·.2)).getLast? with
      | none =>
        rw [List.getLast?_eq_none_iff, List.flatMap_cons, List.append_eq_nil_iff] at hlast
        exact absurd hlast.1 (h.nonempty t (by simp))
      | some b =>
        rw [hlast, Option.some_or] at ha
        exact ih h.tail a (hlast.trans ha)

/-- A stretch of a sequence, between what is before and what is behind it, on which the test agrees while
it does not on any longer one. -/
structure IsMaximalRun (p : α → Bool) (first run rest : List α) : Prop where
  nonempty : run ≠ []
  uniform : ∃ kind, ∀ a ∈ run, p a = kind
  widest {front back : List α} {kind : Bool} : front <:+ first → back <+: rest →
    (∀ a ∈ front ++ run ++ back, p a = kind) → front = [] ∧ back = []

theorem AreRuns.isMaximalRun {before : List (Bool × List α)} {r : Bool × List α}
    (h : AreRuns p xs (before ++ r :: rs)) :
    IsMaximalRun p (before.flatMap (·.2)) r.2 (rs.flatMap (·.2)) where
  nonempty := h.nonempty r (by simp)
  uniform := ⟨r.1, h.uniform r (by simp)⟩
  widest {front back kind} hfront hback hall := by
    obtain ⟨a, run, hrun⟩ := List.exists_cons_of_ne_nil (h.nonempty r (by simp))
    have hkind : kind = r.1 := by
      rw [← hall a (by simp [hrun]), h.uniform r (by simp) a (by simp [hrun])]
    constructor
    · rcases List.eq_nil_or_concat front with rfl | ⟨more, b, rfl⟩
      · rfl
      · obtain ⟨earlier, hfirst⟩ := hfront
        have hlast : b ∈ (before.flatMap (·.2)).getLast? := by simp [← hfirst]
        exact absurd (hkind ▸ hall b (by simp)) (h.getLast_ne b hlast)
    · cases back with
      | nil => rfl
      | cons b more =>
        obtain ⟨later, hrest⟩ := hback
        have hhead : b ∈ (rs.flatMap (·.2)).head? := by simp [← hrest]
        exact absurd (hkind ▸ hall b (by simp)) (h.of_append.head_ne b hhead)

def runsOf (p : α → Bool) (xs : List α) : List (List α) := ((runs p xs).filter (·.1)).map (·.2)

theorem flatten_filter_of_uniform (h : ∀ r ∈ rs, ∀ a ∈ r.2, p a = r.1) :
    ((rs.filter (·.1)).map (·.2)).flatten = (rs.flatMap (·.2)).filter p := by
  induction rs with
  | nil => rfl
  | cons r rest ih =>
    have hrest := ih fun r hr => h r (by simp [hr])
    have hfirst : ∀ a ∈ r.2, p a = r.1 := h r (by simp)
    rw [List.flatMap_cons, List.filter_append, ← hrest]
    cases hr : r.1 with
    | true => rw [List.filter_cons_of_pos hr, List.map_cons, List.flatten_cons,
        List.filter_eq_self.mpr fun a ha => (hfirst a ha).trans hr]
    | false =>
      have hnone : r.2.filter p = [] :=
        List.filter_eq_nil_iff.mpr fun a ha => by simp [hfirst a ha, hr]
      rw [List.filter_cons_of_neg (by simp [hr]), hnone, List.nil_append]

/-- Together they hold the elements of which the test holds. -/
theorem flatten_runsOf (p : α → Bool) (xs : List α) : (runsOf p xs).flatten = xs.filter p := by
  have hruns := areRuns_runs p xs
  rw [runsOf, flatten_filter_of_uniform hruns.uniform, hruns.flatten]

end LineShell
