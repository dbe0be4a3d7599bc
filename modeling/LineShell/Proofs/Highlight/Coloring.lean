import LineShell.Highlight
import LineShell.Proofs.Command.Launches
import LineShell.Proofs.Text.Escape
import LineShell.Proofs.Text.Runs

/-! Coloring a line.  Codes are put around its first word and its options, and when they are taken out
again the line is as it was typed. -/
namespace LineShell

/-- A text in a style is shown as the sequences of the style, the text as it is, and the sequence that
ends all styles. -/
structure Encloses (paint : Style → List Char → List Char) (codes : Style → List String) : Prop where
  paint_eq (style : Style) (text : List Char) :
    paint style text = (codes style).flatMap styleSequence ++ text ++ styleSequence "0"
  plain {style : Style} {code : String} : code ∈ codes style → 'm' ∉ code.toList

section Enclosed
variable {paint : Style → List Char → List Char} {codes : Style → List String} {text : List Char}

theorem Encloses.unstyled_paint (h : Encloses paint codes) (style : Style) (htext : escape ∉ text)
    (rest : List Char) : unstyled (paint style text ++ rest) = text ++ unstyled rest := by
  have hplain : ∀ code ∈ codes style, 'm' ∉ code.toList := fun _ => h.plain
  rw [h.paint_eq, List.append_assoc, List.append_assoc, unstyled_styleSequences hplain,
    unstyled_append htext, unstyled_styleSequence (by decide)]

theorem render_cons (s : Stretch) (rest : List Stretch) :
    render paint (s :: rest) = (s.1.map (paint · s.2)).getD s.2 ++ render paint rest := rfl

theorem Encloses.unstyled_render (h : Encloses paint codes) {stretches : List Stretch}
    (hescape : ∀ s ∈ stretches, escape ∉ s.2) :
    unstyled (render paint stretches) = stretches.flatMap (·.2) := by
  induction stretches with
  | nil => rfl
  | cons s rest ih =>
    have htext : escape ∉ s.2 := hescape s (by simp)
    have hrest := ih fun t ht => hescape t (by simp [ht])
    rw [render_cons, List.flatMap_cons]
    cases hstyle : s.1 with
    | none => rw [Option.map_none, Option.getD_none, unstyled_append htext, hrest]
    | some style => rw [Option.map_some, Option.getD_some, h.unstyled_paint style htext, hrest]

end Enclosed

/-- Styles are given to the runs of a line, and nothing is done to their texts. -/
theorem flatMap_styled (first : Bool) (rs : List (Bool × List Char)) :
    (styled first rs).flatMap (·.2) = rs.flatMap (·.2) := by
  induction rs generalizing first with
  | nil => rfl
  | cons r rest ih =>
    rcases r with ⟨_ | _, run⟩ <;> simp [styled, ih]

theorem flatMap_stretches (line : List Char) : (stretches line).flatMap (·.2) = line := by
  rw [stretches, flatMap_styled, (areRuns_runs _ line).flatten]

theorem Encloses.unstyled_stretches {paint : Style → List Char → List Char}
    {codes : Style → List String} (h : Encloses paint codes) {line : List Char}
    (hescape : escape ∉ line) : unstyled (render paint (stretches line)) = line := by
  rw [h.unstyled_render, flatMap_stretches]
  intro s hs hmem
  apply hescape
  rw [← flatMap_stretches line]
  exact List.mem_flatMap.mpr ⟨s, hs, hmem⟩

/-! What is colored, and how. -/

/-- The style of a run that stands after these ones.  The first word is bold, cyan if it names a
built-in command and green if it does not; a later one is yellow if it begins with a hyphen. -/
def styleAfter (before : List (Bool × List Char)) (r : Bool × List Char) : Option Style :=
  if r.1 = false then none
  else if ∀ b ∈ before, b.1 = false then
    if String.ofList r.2 ∈ Builtin.names then some { foreground := .cyan, bold := true }
    else some { foreground := .green, bold := true }
  else if r.2.head? = some '-' then some { foreground := .yellow }
  else none

def inCodes (codes : Style → List String) (style? : Option Style) (text : List Char) : List Char :=
  match style? with
  | none => text
  | some style => (codes style).flatMap styleSequence ++ text ++ styleSequence "0"

def coloredRuns (codes : Style → List String) (rs : List (Bool × List Char)) : List Char :=
  (rs.mapIdx fun k r => inCodes codes (styleAfter (rs.take k) r) r.2).flatten

section Colored
variable {paint : Style → List Char → List Char} {codes : Style → List String}
  {before : List (Bool × List Char)}

theorem commandStyle_eq (h : ∀ b ∈ before, b.1 = false) (word : List Char) :
    some (commandStyle word) = styleAfter before (true, word) := by
  rw [styleAfter, if_neg (by simp), if_pos h, commandStyle]
  by_cases hname : String.ofList word ∈ Builtin.names
  · have hsome : (Builtin.ofName? (String.ofList word)).isSome = true := by
      rw [Option.isSome_iff_ne_none, ne_eq, Builtin.ofName?_eq_none_iff, not_not]
      exact hname
    rw [if_pos hsome, if_pos hname]
    rfl
  · have hnone : (Builtin.ofName? (String.ofList word)).isSome = false := by
      rw [Builtin.ofName?_eq_none_iff.mpr hname]
      rfl
    rw [hnone, if_neg hname]
    rfl

theorem argumentStyle?_eq (h : ¬ ∀ b ∈ before, b.1 = false) (word : List Char) :
    argumentStyle? word = styleAfter before (true, word) := by
  rw [styleAfter, if_neg (by simp), if_neg h, argumentStyle?]
  rfl

/-- The styles of the runs of a line go by whether there is a word before them. -/
theorem styled_eq (before rs : List (Bool × List Char)) :
    styled (decide (∀ b ∈ before, b.1 = false)) rs =
      rs.mapIdx fun k r => (styleAfter (before ++ rs.take k) r, r.2) := by
  induction rs generalizing before with
  | nil => rfl
  | cons r rest ih =>
    have hrest := ih (before ++ [r])
    simp only [List.append_assoc, List.singleton_append] at hrest
    rw [List.mapIdx_cons, List.take_zero, List.append_nil]
    simp only [List.take_succ_cons]
    rw [← hrest]
    obtain ⟨_ | _, run⟩ := r
    · have hfirst : (∀ b ∈ before ++ [(false, run)], b.1 = false) ↔ ∀ b ∈ before, b.1 = false := by
        simp
      simp only [styled, hfirst, styleAfter, if_true]
    · have hfirst : ¬ ∀ b ∈ before ++ [(true, run)], b.1 = false := fun h => by
        simpa using h (true, run) (by simp)
      rw [decide_eq_false hfirst, styled]
      by_cases hbefore : ∀ b ∈ before, b.1 = false
      · rw [decide_eq_true hbefore, if_pos rfl, commandStyle_eq hbefore]
      · rw [decide_eq_false hbefore, if_neg (by simp), argumentStyle?_eq hbefore]

theorem Encloses.inCodes_eq (h : Encloses paint codes) (s : Stretch) :
    (s.1.map (paint · s.2)).getD s.2 = inCodes codes s.1 s.2 := by
  obtain ⟨_ | style, text⟩ := s
  · rfl
  · exact h.paint_eq style text

theorem Encloses.render_stretches (h : Encloses paint codes) {line : List Char}
    {rs : List (Bool × List Char)} (hrs : AreRuns (fun c => !isBlank c) line rs) :
    render paint (stretches line) = coloredRuns codes rs := by
  have hstyled : stretches line = rs.mapIdx fun k r => (styleAfter (rs.take k) r, r.2) := by
    rw [stretches, ← hrs.eq_runs]
    exact styled_eq [] rs
  rw [hstyled, render, coloredRuns, List.flatMap_def, List.mapIdx_eq_zipIdx_map,
    List.mapIdx_eq_zipIdx_map, List.map_map]
  simp only [Function.comp_def, h.inCodes_eq]

end Colored

/-- Coloring a text does nothing to it but put the sequences of a style around its first word and its
options, whichever sequences these are, and those of another around a hint.  Without colors it does
nothing at all. -/
theorem highlighted_only_adds {κ : Type} {p : Painter κ} {codes : Style → List String}
    (h : Encloses p.paint codes) (text : String) :
    (∀ level, p.support = some level →
      (escape ∉ text.toList → unstyled (highlighted p text).toList = text.toList ∧
        unstyled (highlightedHint p text).toList = text.toList) ∧
      (∀ rs, AreRuns (fun c => !isBlank c) text.toList rs →
        (highlighted p text).toList = coloredRuns codes rs) ∧
      (highlightedHint p text).toList =
        inCodes codes (some { foreground := .rgb 128 128 128 }) text.toList) ∧
    (p.support = none → highlighted p text = text ∧ highlightedHint p text = text) := by
  refine ⟨?_, ?_⟩
  · intro level hlevel
    have hline : (highlighted p text).toList = render p.paint (stretches text.toList) := by
      rw [highlighted, hlevel, String.toList_ofList]
    have hhint : (highlightedHint p text).toList = p.paint .hint text.toList := by
      rw [highlightedHint, hlevel, String.toList_ofList]
    refine ⟨fun hescape => ⟨?_, ?_⟩, ?_, ?_⟩
    · rw [hline, h.unstyled_stretches hescape]
    · have herased := h.unstyled_paint .hint hescape []
      rw [List.append_nil] at herased
      rw [hhint, herased]
      exact List.append_nil _
    · intro rs hrs
      rw [hline, h.render_stretches hrs]
    · rw [hhint, h.paint_eq]
      rfl
  · intro hnone
    rw [highlighted, highlightedHint, hnone]
    exact ⟨rfl, rfl⟩

def commonCodes (style : Style) : List String :=
  let foreground := match style.foreground with
    | .cyan => "36"
    | .green => "32"
    | .yellow => "33"
    | .rgb red green blue =>
      "38;2;" ++ toString red ++ ";" ++ toString green ++ ";" ++ toString blue
  foreground :: if style.bold then ["1"] else []

def commonPainter : Painter Unit where
  support := some ()
  paint style text := (commonCodes style).flatMap styleSequence ++ text ++ styleSequence "0"

theorem encloses_commonPainter : Encloses commonPainter.paint commonCodes where
  paint_eq _ _ := rfl
  plain {style code} hcode := by
    have hnumber (n : Nat) : 'm' ∉ Nat.toDigits 10 n := fun h =>
      absurd (Nat.isDigit_of_mem_toDigits (by decide) (by decide) h) (by decide)
    obtain ⟨foreground, bold⟩ := style
    rw [commonCodes, List.mem_cons] at hcode
    rcases hcode with rfl | hbold
    · cases foreground with
      | cyan | green | yellow => simp
      | rgb red green blue => simp [hnumber]
    · cases bold with
      | false => cases hbold
      | true =>
        rw [List.mem_singleton.mp hbold]
        decide

/-- Neither the wide blank before the name nor the bracket and the letter in a later word are touched. -/
theorem highlighted_only_adds_wide :
    Encloses commonPainter.paint commonCodes ∧ commonPainter.support = some () ∧
      escape ∉ "\u3000cd [1m\t-é".toList ∧
      unstyled (highlighted commonPainter "\u3000cd [1m\t-é").toList = "\u3000cd [1m\t-é".toList ∧
      unstyled (highlightedHint commonPainter "\u3000cd [1m\t-é").toList =
        "\u3000cd [1m\t-é".toList ∧
      highlighted commonPainter "\u3000cd [1m\t-é" =
        "\u3000\x1b[36m\x1b[1mcd\x1b[0m [1m\t\x1b[33m-é\x1b[0m" := by
  have hescape : escape ∉ "\u3000cd [1m\t-é".toList := by decide
  obtain ⟨honly, -⟩ := highlighted_only_adds encloses_commonPainter "\u3000cd [1m\t-é"
  obtain ⟨herased, hcolored, -⟩ := honly () rfl
  obtain ⟨hline, hhint⟩ := herased hescape
  have hshown := hcolored _ (areRuns_runs _ _)
  refine ⟨encloses_commonPainter, rfl, hescape, hline, hhint, ?_⟩
  rw [← String.toList_inj, hshown]
  decide

end LineShell
