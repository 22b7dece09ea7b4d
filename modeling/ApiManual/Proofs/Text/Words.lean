import ApiManual.Text.Blank
import Mathlib.Data.List.Basic
import Mathlib.Data.List.TakeWhile

/-!
# First words

The first word of a text is the run of characters that are not blank after the leading blanks, and
whatever starts with a blank can follow it without changing it.
-/

namespace ApiManual.Text

theorem head?_splitOnP {α : Type} (p : α → Bool) (text : List α) :
    (text.splitOnP p).head? = some (text.takeWhile (!p ·)) := by
  induction text with
  | nil => rfl
  | cons c rest ih =>
    rw [List.splitOnP_cons_eq_if_modifyHead]
    by_cases hc : p c = true
    · simp [hc]
    · rw [Bool.not_eq_true] at hc
      simp [hc, List.head?_modifyHead, ih]

theorem head?_words_trimStart {text word : List Char}
    (hword : (words (trimStart text)).head? = some word) :
    (trimStart text).takeWhile (!isBlank ·) = word := by
  unfold words at hword
  have hhead := head?_splitOnP isBlank (trimStart text)
  cases htrimmed : trimStart text with
  | nil => simp [htrimmed] at hword
  | cons c rest =>
    have hc : isBlank c = false := by
      have hnot := List.head?_dropWhile_not isBlank text
      rw [← trimStart, htrimmed] at hnot
      simpa using hnot
    rw [htrimmed] at hhead hword
    obtain ⟨pieces, hpieces⟩ := List.head?_eq_some_iff.1 hhead
    rw [hpieces] at hword
    simpa [hc] using hword

/-- A text that is empty or starts with a blank. -/
def EndsWord (text : List Char) : Prop := ∀ c ∈ text.head?, isBlank c = true

theorem takeWhile_append_of_endsWord (word : List Char) {rest : List Char} (hrest : EndsWord rest) :
    (word ++ rest).takeWhile (!isBlank ·) = word.takeWhile (!isBlank ·) := by
  induction word with
  | nil =>
    cases rest with
    | nil => rfl
    | cons c rest =>
      have hc : isBlank c = true := hrest c rfl
      simp [hc]
  | cons c word ih =>
    rw [List.cons_append, List.takeWhile_cons, List.takeWhile_cons, ih]

theorem trim_eq_nil_iff {text : List Char} : trim text = [] ↔ ∀ c ∈ text, isBlank c = true := by
  rw [trim, trimEnd, List.reverse_eq_nil_iff, List.dropWhile_eq_nil_iff]
  simp only [List.mem_reverse]
  constructor
  · intro hrest c hc
    rw [← List.takeWhile_append_dropWhile (p := isBlank) (l := text), List.mem_append] at hc
    rcases hc with hfirst | hlast
    · exact List.mem_takeWhile_imp hfirst
    · exact hrest c hlast
  · intro hblank c hc
    exact hblank c ((List.dropWhile_suffix isBlank).subset hc)

theorem trimStart_append_of_blank {blanks : List Char} (hblanks : blanks.all isBlank = true)
    (rest : List Char) : trimStart (blanks ++ rest) = trimStart rest := by
  unfold trimStart
  rw [List.dropWhile_append_of_pos]
  exact List.all_eq_true.1 hblanks

/-- What follows a line in a text is nothing, or a line feed and more. -/
theorem unlines_cons (line : List Char) (rest : List (List Char)) :
    ∃ after, unlines (line :: rest) = line ++ after ∧ EndsWord after := by
  cases rest with
  | nil =>
    refine ⟨[], by simp [unlines], ?_⟩
    rintro c ⟨⟩
  | cons next rest =>
    refine ⟨'\n' :: unlines (next :: rest), by simp [unlines, List.intercalate_cons_cons], ?_⟩
    rintro c ⟨⟩
    decide

/-- Blank lines before a line that starts with no blank are trimmed off together with their ends. -/
theorem trimStart_unlines {blanks : List (List Char)} (line : List Char) (rest : List (List Char))
    (hblanks : ∀ blank ∈ blanks, blank.all isBlank = true)
    (hline : ∀ c ∈ line.head?, isBlank c = false) (hsome : line ≠ []) :
    ∃ after, trimStart (unlines (blanks ++ line :: rest)) = line ++ after ∧ EndsWord after := by
  induction blanks with
  | nil =>
    obtain ⟨after, hafter, hends⟩ := unlines_cons line rest
    refine ⟨after, ?_, hends⟩
    rw [List.nil_append, hafter]
    obtain ⟨c, line, rfl⟩ := List.exists_cons_of_ne_nil hsome
    have hc : isBlank c = false := hline c rfl
    simp [trimStart, hc]
  | cons blank blanks ih =>
    obtain ⟨after, hafter, hends⟩ := ih fun other hother =>
      hblanks other (List.mem_cons_of_mem _ hother)
    refine ⟨after, ?_, hends⟩
    have hsplit : unlines (blank :: blanks ++ line :: rest) =
        (blank ++ ['\n']) ++ unlines (blanks ++ line :: rest) := by
      cases blanks <;> simp [unlines, List.intercalate_cons_cons]
    have hblank : (blank ++ ['\n']).all isBlank = true := by
      rw [List.all_append, hblanks blank (List.mem_cons_self ..)]
      decide
    rw [hsplit, trimStart_append_of_blank hblank, hafter]

theorem trim_eq_self {text : List Char} (hplain : ∀ c ∈ text, isBlank c = false) :
    trim text = text := by
  have hdrop : ∀ {other : List Char}, (∀ c ∈ other, isBlank c = false) →
      other.dropWhile isBlank = other := by
    intro other hother
    cases other with
    | nil => rfl
    | cons c other => rw [List.dropWhile_cons, hother c List.mem_cons_self]; rfl
  rw [trim, trimStart, hdrop hplain, trimEnd, hdrop fun c hc => hplain c (List.mem_reverse.1 hc),
    List.reverse_reverse]

end ApiManual.Text
