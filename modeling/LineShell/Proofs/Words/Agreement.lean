import LineShell.Highlight
import LineShell.Proofs.Completion.Chosen
import LineShell.Proofs.Words.Unquoted
import LineShell.Startup

/-! Where the parts of the shell agree on what a word is.  The scanner goes by separators and the
others by blanks, and on a line without quotes and escapes it is the blanks that are no separators
which make the difference. -/
namespace LineShell

def BlanksSeparate (text : List Char) : Prop :=
  ∀ c ∈ text, isBlank c = true → isSeparator c = true

instance (text : List Char) : Decidable (BlanksSeparate text) :=
  List.decidableBAll _ text

namespace BlanksSeparate
variable {text more : List Char}

theorem isBlank_eq (h : BlanksSeparate text) {c : Char} (hc : c ∈ text) :
    isBlank c = isSeparator c := by
  rw [Bool.eq_iff_iff]
  exact ⟨h c hc, isBlank_of_isSeparator⟩

theorem of_append (h : BlanksSeparate (text ++ more)) :
    BlanksSeparate text ∧ BlanksSeparate more :=
  ⟨fun c hc => h c (List.mem_append_left _ hc), fun c hc => h c (List.mem_append_right _ hc)⟩

end BlanksSeparate

section Text
variable {text : List Char}

theorem Unquoted.flatten_wordsOf (h : Unquoted text) :
    (wordsOf text).flatten = text.filter fun c => !isSeparator c := by
  rw [h.wordsOf_eq, flatten_runsOf]

/-- The highlighter's words are the scanner's just when every blank is a separator. -/
theorem Unquoted.runsOf_eq_wordsOf_iff (h : Unquoted text) :
    runsOf (fun c => !isBlank c) text = wordsOf text ↔ BlanksSeparate text := by
  constructor
  · intro hwords c hc hblank
    have hflatten := congrArg List.flatten hwords
    rw [flatten_runsOf, h.flatten_wordsOf] at hflatten
    by_contra hsep
    have hmem : c ∈ text.filter fun c => !isBlank c := by
      rw [hflatten]
      simpa [hc] using hsep
    simp [hblank] at hmem
  · intro hblanks
    rw [h.wordsOf_eq, runsOf, runsOf]
    rw [runs_congr fun c hc => by rw [hblanks.isBlank_eq hc]]

theorem builtin_notMem_styled (rs : List (Bool × List Char)) (word : List Char) :
    (some Style.builtin, word) ∉ styled false rs := by
  induction rs with
  | nil => simp [styled]
  | cons r rest ih =>
    obtain ⟨_ | _, run⟩ := r
    · simpa [styled] using ih
    · have hstyle : some Style.builtin ≠ argumentStyle? run := by
        rw [argumentStyle?]
        split <;> decide
      simp [styled, ih, hstyle]

theorem builtin_mem_styled_iff (rs : List (Bool × List Char)) (word : List Char) :
    (some Style.builtin, word) ∈ styled true rs ↔
      ∃ more, (rs.filter (·.1)).map (·.2) = word :: more ∧
        (Builtin.ofName? (String.ofList word)).isSome = true := by
  induction rs with
  | nil => simp [styled]
  | cons r rest ih =>
    obtain ⟨_ | _, run⟩ := r
    · simpa [styled] using ih
    · have hstyle : some Style.builtin = some (commandStyle run) ↔
          (Builtin.ofName? (String.ofList run)).isSome = true := by
        have hne : Style.builtin ≠ Style.program := by decide
        rw [commandStyle]
        split <;> simp_all
      have hrest := builtin_notMem_styled rest word
      simp only [styled, if_true, List.mem_cons, Prod.mk.injEq, hstyle, hrest, or_false,
        List.filter_cons_of_pos, List.map_cons, List.cons.injEq]
      constructor
      · rintro ⟨hbuiltin, rfl⟩
        exact ⟨_, ⟨rfl, rfl⟩, hbuiltin⟩
      · rintro ⟨_, ⟨rfl, -⟩, hbuiltin⟩
        exact ⟨hbuiltin, rfl⟩

theorem Unquoted.wordsOf_eq_nil_iff (h : Unquoted text) :
    wordsOf text = [] ↔ ∀ c ∈ text, isSeparator c = true := by
  have hflatten : wordsOf text = [] ↔ (wordsOf text).flatten = [] := by
    rw [List.flatten_eq_nil_iff, List.eq_nil_iff_forall_not_mem]
    exact forall₂_congr fun word hword => by simp [ne_nil_of_mem_wordsOf hword]
  rw [hflatten, h.flatten_wordsOf, List.filter_eq_nil_iff]
  simp

/-- The scanner's unfinished word is the word before the end of the text, and it has finished none
just when nothing but blanks comes before. -/
theorem Unquoted.scan_eq (h : Unquoted text) (hblanks : BlanksSeparate text) :
    (scan text).word.reverse = wordBefore text ∧
      ((scan text).done = [] ↔ (leadBefore text).all isBlank = true) := by
  have hparts := leadBefore_append_wordBefore text
  rw [← hparts] at h hblanks
  obtain ⟨hlead, hword⟩ := h.of_append
  obtain ⟨hblanks, -⟩ := hblanks.of_append
  have hplain : ∀ c ∈ wordBefore text, isPlain c = true := by
    intro c hc
    rw [hword.isPlain_eq hc, Bool.not_eq_true']
    by_contra hsep
    have hblank := isBlank_of_isSeparator (eq_true_of_ne_false hsep)
    rw [isBlank_of_mem_wordBefore hc] at hblank
    cases hblank
  have hbegins : (scan (leadBefore text)).word = [] := by
    rcases leadBefore_eq text with hnil | ⟨first, c, hfirst, hblank⟩
    · rw [hnil]
      rfl
    · rw [hfirst] at hlead hblanks ⊢
      obtain ⟨hfirst, -⟩ := hlead.of_append
      rw [scan_concat, hfirst.settled.step_separator (hblanks c (by simp) hblank), Scan.cut_word]
  have hscan : scan text =
      { scan (leadBefore text) with word := (wordBefore text).reverse } := by
    conv_lhs => rw [← hparts]
    rw [scan_append, hlead.settled.foldl_plain hplain, hbegins, List.append_nil]
  have hdone : (scan (leadBefore text)).done = [] ↔ wordsOf (leadBefore text) = [] := by
    rw [wordsOf, Scan.words_eq_nil_iff, hbegins]
    simp
  rw [hscan]
  refine ⟨List.reverse_reverse _, hdone.trans ?_⟩
  rw [hlead.wordsOf_eq_nil_iff, List.all_eq_true]
  exact forall₂_congr fun c hc => by rw [hblanks.isBlank_eq hc]

theorem Unquoted.head?_dropWhile (h : Unquoted text) (hblanks : BlanksSeparate text) :
    (text.dropWhile isBlank).head? = (wordsOf text).head?.bind List.head? := by
  have hfind : (text.dropWhile isBlank).head? = (wordsOf text).flatten.head? := by
    have hfirst : (text.dropWhile isBlank).head? = (text.filter fun c => !isBlank c).head? := by
      rw [List.head?_filter, List.find?_eq_head?_dropWhile_not]
      simp
    rw [hfirst, h.flatten_wordsOf]
    exact congrArg List.head? (List.filter_congr fun c hc => by rw [hblanks.isBlank_eq hc])
  rw [hfind]
  cases hwords : wordsOf text with
  | nil => rfl
  | cons word more =>
    have hmem : word ∈ wordsOf text := by
      rw [hwords]
      exact List.mem_cons_self
    have hne : word ≠ [] := ne_nil_of_mem_wordsOf hmem
    cases word with
    | nil => exact absurd rfl hne
    | cons c rest => rfl

end Text

/-- The parts of the shell agree on the words of a line. -/
structure WordsAgree (line : String) : Prop where
  /-- A word is shown as a command of the shell's own just when it comes first and names one. -/
  shown (word : List Char) : (some Style.builtin, word) ∈ stretches line.toList ↔
    ∃ args, words line = String.ofList word :: args ∧
      (Builtin.ofName? (String.ofList word)).isSome = true
  /-- What is completed at the end is the unfinished word, as the name of a command just when no word
  has been finished. -/
  completed {σ : Type} [Host σ] (names : List String) (host : σ) :
    (complete names host line (utf8 line).length).1 +
        (utf8 (String.ofList (scan line.toList).word.reverse)).length = (utf8 line).length ∧
      (complete names host line (utf8 line).length).2 =
        if (scan line.toList).done = [] then
          CommandNames.candidates names (scan line.toList).word.reverse
        else PathNames.candidates host (scan line.toList).word.reverse
  /-- After a separator no word has been begun. -/
  ended {first : List Char} {c : Char} : line.toList = first ++ [c] → isSeparator c = true →
    (scan line.toList).word = []
  /-- A line is a comment just when its first word begins with a number sign. -/
  commented : isComment line = true ↔
    ∃ word args, words line = word :: args ∧ word.toList.head? = some '#'

theorem words_eq_cons_iff {line : String} {word : List Char} {P : Prop} :
    (∃ args, words line = String.ofList word :: args ∧ P) ↔
      ∃ more, wordsOf line.toList = word :: more ∧ P := by
  rw [words]
  constructor
  · rintro ⟨args, hwords, hP⟩
    obtain ⟨first, more, hmore, hfirst, -⟩ := List.map_eq_cons_iff.mp hwords
    rw [String.ofList_inj] at hfirst
    subst hfirst
    exact ⟨more, hmore, hP⟩
  · rintro ⟨more, hmore, hP⟩
    exact ⟨more.map String.ofList, by rw [hmore, List.map_cons], hP⟩

/-- On a line without quotes and escapes the highlighter's words are the scanner's if and only if no
blank is anything but a separator, and then all parts of the shell agree. -/
theorem words_agree {line : String} (h : Unquoted line.toList) :
    (runsOf (fun c => !isBlank c) line.toList = wordsOf line.toList ↔
      BlanksSeparate line.toList) ∧
    (BlanksSeparate line.toList → WordsAgree line) := by
  refine ⟨h.runsOf_eq_wordsOf_iff, fun hblanks => ⟨?_, ?_, ?_, ?_⟩⟩
  · intro word
    rw [stretches, builtin_mem_styled_iff, words_eq_cons_iff]
    rw [← h.runsOf_eq_wordsOf_iff.mpr hblanks, runsOf]
  · intro σ _ names host
    obtain ⟨hword, hdone⟩ := h.scan_eq hblanks
    have hbefore : charsBefore (utf8 line).length line.toList = line.toList := by
      simpa using charsBefore_bytes line.toList []
    have hbytes : (utf8 (String.ofList (leadBefore line.toList))).length +
        (utf8 (String.ofList (wordBefore line.toList))).length = (utf8 line).length := by
      rw [← List.length_append, ← utf8_append, ← String.ofList_append,
        leadBefore_append_wordBefore, String.ofList_toList]
    rw [complete, hbefore, hword]
    simp only [hdone, and_true]
    exact hbytes
  · intro first c hline hsep
    rw [hline] at h ⊢
    rw [scan_concat, h.of_append.1.settled.step_separator hsep, Scan.cut_word]
  · have hfirst := h.head?_dropWhile hblanks
    rw [isComment, hfirst, beq_iff_eq, words]
    cases hwords : wordsOf line.toList with
    | nil => simp
    | cons word more => simp

theorem words_agree_sample : Unquoted "cd  /tmp".toList ∧
    BlanksSeparate "cd  /tmp".toList ∧ WordsAgree "cd  /tmp" :=
  ⟨by decide, by decide, (words_agree (by decide)).2 (by decide)⟩

/-- A no-break space ends a word for the highlighter, for completion and before a comment, and not for
the scanner. -/
theorem words_disagree :
    (Unquoted "exit\u00a0now".toList ∧
      runsOf (fun c => !isBlank c) "exit\u00a0now".toList = ["exit".toList, "now".toList] ∧
      wordsOf "exit\u00a0now".toList = ["exit\u00a0now".toList] ∧
      (some Style.builtin, "exit".toList) ∈ stretches "exit\u00a0now".toList ∧
      Builtin.ofName? "exit\u00a0now" = none) ∧
    (Unquoted "a\u00a0b".toList ∧ (scan "a\u00a0b".toList).done = [] ∧
      (scan "a\u00a0b".toList).word.reverse = "a\u00a0b".toList ∧
      (∀ (names : List String) (host : Sandbox), complete names host "a\u00a0b" 4 =
        (3, PathNames.candidates host ['b']))) ∧
    (Unquoted "\u00a0#x".toList ∧ isComment "\u00a0#x" = true ∧
      words "\u00a0#x" = ["\u00a0#x"]) := by
  refine ⟨by decide +kernel, ⟨by decide, by decide +kernel, by decide +kernel, ?_⟩,
    by decide +kernel⟩
  intro names host
  have hbefore : charsBefore 4 "a\u00a0b".toList = "a\u00a0b".toList := by decide
  rw [complete, hbefore]
  rfl

end LineShell
