import ApiManual.Annotation.Block
import ApiManual.Proofs.Text.Pieces
import ApiManual.Text.Utf8
import Mathlib.Data.List.Forall2
import Mathlib.Data.List.TakeWhile

/-!
# The margin of a text

The margin is the least indent of the lines that are not blank. A line may be blank without being made
of spaces and tabs, and then it has an indent that does not count, and may be shorter than the margin.
So the margin is cut off the other lines only, and of those none is too short, because each has at
least that many spaces and tabs before anything else. They take one byte each, and so it does not
matter that the margin is measured and cut off in bytes: the cut never falls inside a character.

The margin moves with the text. When all lines that are not blank are indented by the same text, the
margin grows by the length of that text, and nothing else changes.
-/

namespace ApiManual

namespace Text

/-- The text behind its first bytes. Nothing when it has fewer bytes, or when a character goes on
behind them. -/
def dropBytes? : Nat → List Char → Option (List Char)
  | 0, text => some text
  | _ + 1, [] => none
  | count + 1, c :: text =>
    if c.utf8Size ≤ count + 1 then dropBytes? (count + 1 - c.utf8Size) text else none

theorem length_utf8Bytes_cons (c : Char) (text : List Char) :
    (utf8Bytes (c :: text)).length = c.utf8Size + (utf8Bytes text).length := by
  rw [utf8Bytes, List.flatMap_cons, List.length_append, String.length_utf8EncodeChar, utf8Bytes]

/-- A text is gone past as a whole when all of its bytes are. -/
theorem dropBytes?_utf8Bytes_append (before rest : List Char) :
    dropBytes? (utf8Bytes before).length (before ++ rest) = some rest := by
  induction before with
  | nil => exact dropBytes?.eq_1 rest
  | cons c before ih =>
    obtain ⟨size, hsize⟩ := Nat.exists_eq_succ_of_ne_zero (Nat.ne_of_gt c.utf8Size_pos)
    have hlength : (utf8Bytes (c :: before)).length = (size + (utf8Bytes before).length) + 1 := by
      rw [length_utf8Bytes_cons, hsize]
      omega
    have hleft : size + (utf8Bytes before).length + 1 - c.utf8Size = (utf8Bytes before).length := by
      omega
    rw [hlength, List.cons_append, dropBytes?, if_pos (by omega), hleft, ih]

theorem stripEnd_append {line : List Char} (hline : line ≠ []) (c : Char) (before : List Char) :
    stripEnd c (before ++ line) = before ++ stripEnd c line := by
  unfold stripEnd
  rw [List.getLast?_append_of_ne_nil before hline, List.dropLast_append_of_ne_nil hline]
  split <;> rfl

theorem subset_of_stripEnd (c : Char) (line : List Char) : stripEnd c line ⊆ line := by
  unfold stripEnd
  split
  · exact List.dropLast_subset line
  · exact List.Subset.refl line

end Text

namespace Block

open Text

variable {line : List Char} {rows : List (List Char)}

/-! ### Indents -/

theorem utf8Size_of_isIndent {c : Char} (hc : isIndent c = true) : c.utf8Size = 1 := by
  rw [isIndent, Bool.or_eq_true, decide_eq_true_eq, decide_eq_true_eq] at hc
  rcases hc with rfl | rfl <;> rfl

theorem isBlank_of_isIndent {c : Char} (hc : isIndent c = true) : isBlank c = true := by
  rw [isIndent, Bool.or_eq_true, decide_eq_true_eq, decide_eq_true_eq] at hc
  rcases hc with rfl | rfl <;> decide

theorem lineFeed_not_mem_of_isIndent {pad : List Char} (hpad : ∀ c ∈ pad, isIndent c = true) :
    '\n' ∉ pad := fun hmem => absurd (hpad '\n' hmem) (by decide)

/-- The bytes of the spaces and tabs that a line begins with: all its bytes less those without
them. -/
def byteIndent (line : List Char) : Nat :=
  (utf8Bytes line).length - (utf8Bytes (line.dropWhile isIndent)).length

theorem length_utf8Bytes_eq_indent_add (line : List Char) :
    (utf8Bytes line).length = indent line + (utf8Bytes (line.dropWhile isIndent)).length := by
  induction line with
  | nil => rfl
  | cons c line ih =>
    by_cases hc : isIndent c = true
    · rw [length_utf8Bytes_cons, utf8Size_of_isIndent hc, ih, List.dropWhile_cons_of_pos hc,
        indent, indent, List.takeWhile_cons_of_pos hc, List.length_cons]
      omega
    · rw [List.dropWhile_cons_of_neg hc, indent, List.takeWhile_cons_of_neg hc, List.length_nil,
        Nat.zero_add]

theorem byteIndent_eq_indent (line : List Char) : byteIndent line = indent line := by
  rw [byteIndent, length_utf8Bytes_eq_indent_add, Nat.add_sub_cancel]

/-- Spaces and tabs are gone past byte by byte. -/
theorem dropBytes?_append {pad : List Char} (hpad : ∀ c ∈ pad, isIndent c = true)
    (rest : List Char) : dropBytes? pad.length (pad ++ rest) = some rest := by
  have hbytes : (utf8Bytes pad).length = pad.length := by
    rw [length_utf8Bytes_eq_indent_add, indent, List.takeWhile_eq_self_iff.2 hpad,
      List.dropWhile_eq_nil_iff.2 hpad]
    rfl
  rw [← hbytes, dropBytes?_utf8Bytes_append]

theorem indent_append {pad : List Char} (hpad : ∀ c ∈ pad, isIndent c = true) (line : List Char) :
    indent (pad ++ line) = pad.length + indent line := by
  rw [indent, List.takeWhile_append_of_pos hpad, List.length_append, indent]

/-- A line begins with as many spaces and tabs as its indent is long, or fewer of them. -/
theorem exists_pad_of_le_indent {k : Nat} (hle : k ≤ indent line) :
    ∃ pad, (∀ c ∈ pad, isIndent c = true) ∧ pad.length = k ∧ line = pad ++ line.drop k := by
  have htake : line.take k = (line.takeWhile isIndent).take k := by
    conv_lhs => rw [← List.takeWhile_append_dropWhile (p := isIndent) (l := line)]
    exact List.take_append_of_le_length hle
  refine ⟨line.take k, ?_, ?_, (List.take_append_drop k line).symm⟩
  · intro c hc
    rw [htake] at hc
    exact List.mem_takeWhile_imp (List.mem_of_mem_take hc)
  · rw [htake, List.length_take]
    exact Nat.min_eq_left hle

/-! ### Blank lines -/

theorem isBlankLine_append (before line : List Char) :
    isBlankLine (before ++ line) = (isBlankLine before && isBlankLine line) :=
  List.all_append

theorem isBlankLine_of_isIndent {pad : List Char} (hpad : ∀ c ∈ pad, isIndent c = true) :
    isBlankLine pad = true :=
  List.all_eq_true.2 fun c hc => isBlank_of_isIndent (hpad c hc)

/-- A carriage return is blank itself, so that it does not matter for being blank. -/
theorem isBlankLine_stripEnd (line : List Char) :
    isBlankLine (stripEnd '\r' line) = isBlankLine line := by
  unfold stripEnd
  split
  · next hlast =>
    have hreturn : isBlankLine ['\r'] = true := by decide
    conv_rhs => rw [← List.dropLast_append_getLast? '\r' hlast]
    rw [isBlankLine_append, hreturn, Bool.and_true]
  · rfl

theorem ne_nil_of_not_isBlankLine (hline : isBlankLine line = false) : line ≠ [] := by
  rintro rfl
  cases hline

/-! ### The margin -/

/-- The margin, measured in bytes. -/
def byteMargin (rows : List (List Char)) : Nat :=
  (((rows.filter (!isBlankLine ·)).map byteIndent).min?).getD 0

theorem byteMargin_eq_margin (rows : List (List Char)) : byteMargin rows = margin rows := by
  rw [byteMargin, margin, List.map_congr_left fun line _ => byteIndent_eq_indent line]

theorem mem_indents_iff {count : Nat} :
    count ∈ (rows.filter (!isBlankLine ·)).map indent ↔
      ∃ line ∈ rows, isBlankLine line = false ∧ indent line = count := by
  simp only [List.mem_map, List.mem_filter, Bool.not_eq_true', and_assoc]

/-- Where not all lines are blank, one of those that are not has the margin as its indent, and the
others have no less. -/
theorem margin_least (hmem : line ∈ rows) (hline : isBlankLine line = false) :
    (∃ least ∈ rows, isBlankLine least = false ∧ indent least = margin rows) ∧
      ∀ other ∈ rows, isBlankLine other = false → margin rows ≤ indent other := by
  obtain ⟨least, hleast⟩ := Option.isSome_iff_exists.1
    (List.isSome_min?_of_mem (mem_indents_iff.2 ⟨line, hmem, hline, rfl⟩))
  have hmargin : margin rows = least := by rw [margin, hleast, Option.getD_some]
  obtain ⟨hfound, hall⟩ := List.min?_eq_some_iff.1 hleast
  rw [hmargin]
  exact ⟨mem_indents_iff.1 hfound,
    fun other hother hnot => hall _ (mem_indents_iff.2 ⟨other, hother, hnot, rfl⟩)⟩

/-- Only the least indent is the margin. -/
theorem margin_eq {k : Nat} (hfound : ∃ least ∈ rows, isBlankLine least = false ∧ indent least = k)
    (hall : ∀ other ∈ rows, isBlankLine other = false → k ≤ indent other) : margin rows = k := by
  have hmin : ((rows.filter (!isBlankLine ·)).map indent).min? = some k := by
    refine List.min?_eq_some_iff.2 ⟨mem_indents_iff.2 hfound, fun count hcount => ?_⟩
    obtain ⟨other, hother, hnot, rfl⟩ := mem_indents_iff.1 hcount
    exact hall other hother hnot
  rw [margin, hmin, Option.getD_some]

/-! ### Lines of a dedented text -/

theorem lineFeed_not_mem_of_mem_textLines {text : List Char} (hline : line ∈ textLines text) :
    '\n' ∉ line := by
  obtain ⟨whole, hwhole, rfl⟩ := List.mem_map.1 hline
  exact fun hmem => not_mem_of_mem_splitOn hwhole (subset_of_stripEnd '\r' whole hmem)

theorem lines_unlines (hrows : ∀ row ∈ rows, '\n' ∉ row) (hne : rows ≠ []) :
    lines (unlines rows) = rows :=
  List.splitOn_intercalate '\n' hrows hne

theorem lines_dedent (text : List Char) :
    lines (dedent text) =
      (lines text).map fun line => dedentLine (margin (textLines text)) (stripEnd '\r' line) := by
  have hrows : (textLines text).map (dedentLine (margin (textLines text))) =
      (lines text).map fun line =>
        dedentLine (margin (textLines text)) (stripEnd '\r' line) := List.map_map
  rw [dedent, lines_unlines, hrows]
  · intro row hrow
    obtain ⟨line, hline, rfl⟩ := List.mem_map.1 hrow
    unfold dedentLine
    split
    · exact List.not_mem_nil
    · exact fun hmem => lineFeed_not_mem_of_mem_textLines hline (List.mem_of_mem_drop hmem)
  · rw [hrows, Ne, List.map_eq_nil_iff]
    exact List.splitOn_ne_nil '\n' text

/-- What becomes of a line when a margin is cut off. A blank line becomes empty. Another one, without
the carriage return that it may end with, is as many spaces and tabs as the margin is wide and then
what is left, which is also what is behind so many bytes. -/
structure Outdented (margin : Nat) (line left : List Char) : Prop where
  blank : isBlankLine line = true → left = []
  cut : isBlankLine line = false →
    ∃ pad, (∀ c ∈ pad, isIndent c = true) ∧ pad.length = margin ∧ stripEnd '\r' line = pad ++ left
  bytes : isBlankLine line = false → dropBytes? margin (stripEnd '\r' line) = some left

theorem outdented_dedentLine {k : Nat}
    (hindent : isBlankLine line = false → k ≤ indent (stripEnd '\r' line)) :
    Outdented k line (dedentLine k (stripEnd '\r' line)) := by
  rcases hblank : isBlankLine line with _ | _
  · obtain ⟨pad, hpad, hlength, hline⟩ := exists_pad_of_le_indent (hindent hblank)
    have hleft : dedentLine k (stripEnd '\r' line) = (stripEnd '\r' line).drop k := by
      rw [dedentLine, isBlankLine_stripEnd, hblank, if_neg Bool.false_ne_true]
    have hbytes := dropBytes?_append hpad ((stripEnd '\r' line).drop k)
    rw [hlength, ← hline] at hbytes
    rw [hleft]
    exact ⟨fun h => absurd (hblank.symm.trans h) Bool.false_ne_true,
      fun _ => ⟨pad, hpad, hlength, hline⟩, fun _ => hbytes⟩
  · have hleft : dedentLine k (stripEnd '\r' line) = [] := by
      rw [dedentLine, isBlankLine_stripEnd, hblank, if_pos rfl]
    rw [hleft]
    exact ⟨fun _ => rfl, fun h => absurd (h.symm.trans hblank) Bool.false_ne_true,
      fun h => absurd (h.symm.trans hblank) Bool.false_ne_true⟩

theorem outdented_lines (text : List Char) :
    List.Forall₂ (Outdented (margin (textLines text))) (lines text) (lines (dedent text)) := by
  rw [lines_dedent, List.forall₂_map_right_iff, List.forall₂_same]
  intro line hline
  refine outdented_dedentLine fun hblank => ?_
  have hmem : stripEnd '\r' line ∈ textLines text := List.mem_map_of_mem hline
  have hnot : isBlankLine (stripEnd '\r' line) = false := (isBlankLine_stripEnd line).trans hblank
  exact (margin_least hmem hnot).2 _ hmem hnot

/-- Behind all its spaces and tabs a line has no further ones, and is as blank as before. -/
theorem drop_indent (line : List Char) :
    isBlankLine (line.drop (indent line)) = isBlankLine line ∧
      ∀ c ∈ (line.drop (indent line)).head?, isIndent c = false := by
  have hsplit := List.takeWhile_append_dropWhile (p := isIndent) (l := line)
  have hdrop : line.drop (indent line) = line.dropWhile isIndent := by
    have hleft : (line.takeWhile isIndent ++ line.dropWhile isIndent).drop (indent line) =
        line.dropWhile isIndent := List.drop_left
    rwa [hsplit] at hleft
  have hblank : isBlankLine (line.takeWhile isIndent) = true :=
    isBlankLine_of_isIndent fun c hc => List.mem_takeWhile_imp hc
  rw [hdrop]
  refine ⟨?_, fun c hc => ?_⟩
  · conv_rhs => rw [← hsplit, isBlankLine_append, hblank, Bool.true_and]
  · have hnot := List.head?_dropWhile_not isIndent line
    rw [Option.mem_def.1 hc] at hnot
    exact hnot

theorem exists_flush (text : List Char) (hsome : ∃ line ∈ lines text, isBlankLine line = false) :
    ∃ left ∈ lines (dedent text),
      isBlankLine left = false ∧ ∀ c ∈ left.head?, isIndent c = false := by
  obtain ⟨line, hline, hnot⟩ := hsome
  rw [← isBlankLine_stripEnd] at hnot
  obtain ⟨least, hleast, hnot, hindent⟩ := (margin_least (List.mem_map_of_mem hline) hnot).1
  obtain ⟨whole, hwhole, rfl⟩ := List.mem_map.1 hleast
  obtain ⟨hblank, hhead⟩ := drop_indent (stripEnd '\r' whole)
  -- The line with the least indent loses all of it.
  have hleft : dedentLine (margin (textLines text)) (stripEnd '\r' whole) =
      (stripEnd '\r' whole).drop (indent (stripEnd '\r' whole)) := by
    rw [dedentLine, hnot, if_neg Bool.false_ne_true, textLines, hindent]
  refine ⟨_, (lines_dedent text) ▸ List.mem_map_of_mem hwhole, ?_, ?_⟩
  · rw [hleft, hblank, hnot]
  · rwa [hleft]

/-! ### Texts at other depths -/

def indentLine (pad line : List Char) : List Char :=
  if isBlankLine line then line else pad ++ line

/-- The text with something before every line that is not blank. -/
def indentBy (pad text : List Char) : List Char :=
  unlines ((lines text).map (indentLine pad))

theorem isBlankLine_indentLine {pad : List Char} (hpad : ∀ c ∈ pad, isIndent c = true)
    (line : List Char) : isBlankLine (indentLine pad line) = isBlankLine line := by
  unfold indentLine
  split
  · rfl
  · rw [isBlankLine_append, isBlankLine_of_isIndent hpad, Bool.true_and]

theorem textLines_indentBy {pad : List Char} (hpad : ∀ c ∈ pad, isIndent c = true)
    (text : List Char) : textLines (indentBy pad text) = (textLines text).map (indentLine pad) := by
  have hlines : lines (indentBy pad text) = (lines text).map (indentLine pad) := by
    refine lines_unlines (fun row hrow => ?_) ?_
    · obtain ⟨line, hline, rfl⟩ := List.mem_map.1 hrow
      have hnot : '\n' ∉ line := not_mem_of_mem_splitOn hline
      unfold indentLine
      split
      · exact hnot
      · exact List.not_mem_append (lineFeed_not_mem_of_isIndent hpad) hnot
    · rw [Ne, List.map_eq_nil_iff]
      exact List.splitOn_ne_nil '\n' text
  rw [textLines, hlines, textLines, List.map_map, List.map_map]
  refine List.map_congr_left fun line _ => ?_
  rw [Function.comp_apply, Function.comp_apply, indentLine, indentLine, isBlankLine_stripEnd]
  rcases hblank : isBlankLine line with _ | _
  · exact stripEnd_append (ne_nil_of_not_isBlankLine hblank) '\r' pad
  · rfl

theorem margin_map_indentLine {pad : List Char} (hpad : ∀ c ∈ pad, isIndent c = true)
    (hmem : line ∈ rows) (hline : isBlankLine line = false) :
    margin (rows.map (indentLine pad)) = pad.length + margin rows := by
  have hshift : ∀ {row : List Char}, isBlankLine row = false →
      indent (indentLine pad row) = pad.length + indent row := by
    intro row hrow
    rw [indentLine, hrow, if_neg Bool.false_ne_true, indent_append hpad]
  obtain ⟨⟨least, hleast, hnot, hindent⟩, hall⟩ := margin_least hmem hline
  refine margin_eq ⟨_, List.mem_map_of_mem hleast, ?_, ?_⟩ fun other hother hother' => ?_
  · rw [isBlankLine_indentLine hpad, hnot]
  · rw [hshift hnot, hindent]
  · obtain ⟨row, hrow, rfl⟩ := List.mem_map.1 hother
    rw [isBlankLine_indentLine hpad] at hother'
    rw [hshift hother']
    exact Nat.add_le_add_left (hall row hrow hother') pad.length

theorem dedent_indentBy {pad : List Char} (hpad : ∀ c ∈ pad, isIndent c = true)
    (text : List Char) : dedent (indentBy pad text) = dedent text := by
  rw [dedent, dedent, textLines_indentBy hpad, List.map_map]
  refine congrArg unlines (List.map_congr_left fun line hline => ?_)
  rw [Function.comp_apply, dedentLine, dedentLine, isBlankLine_indentLine hpad]
  rcases hblank : isBlankLine line with _ | _
  · rw [margin_map_indentLine hpad hline hblank, indentLine, hblank, if_neg Bool.false_ne_true,
      if_neg Bool.false_ne_true, if_neg Bool.false_ne_true, List.drop_length_add_append]
  · rfl

/-- **Dedenting takes off the margin and nothing else.** Of any text the least number of bytes of
spaces and tabs before the lines that are not blank is cut off each of these, less a carriage return
at its end. It is there to be cut off and ends between two characters. Blank lines become empty, the
number of lines stays, and unless all lines are blank one of the others then starts with neither
space nor tab. Indented further by the same spaces and tabs throughout, the text becomes the same. -/
theorem dedent_takes_margin (text : List Char) :
    (∃ k, k = byteMargin (textLines text) ∧
      (lines (dedent text)).length = (lines text).length ∧
      List.Forall₂ (Outdented k) (lines text) (lines (dedent text)) ∧
      ((∃ line ∈ lines text, isBlankLine line = false) →
        ∃ left ∈ lines (dedent text),
          isBlankLine left = false ∧ ∀ c ∈ left.head?, isIndent c = false)) ∧
    ∀ pad, (∀ c ∈ pad, isIndent c = true) → dedent (indentBy pad text) = dedent text := by
  have hlines := outdented_lines text
  refine ⟨⟨margin (textLines text), ?_, ?_, hlines, exists_flush text⟩, fun pad hpad => ?_⟩
  · exact (byteMargin_eq_margin (textLines text)).symm
  · exact hlines.length_eq.symm
  · exact dedent_indentBy hpad text

/-- A tag and its continuation in a comment, between a line with nothing but a no-break space, which
is blank and not indented at all, and a line that is left over before the closing marker. -/
def deepText : List Char :=
  "\u00a0\n    @apiDescription\r\n\t   Delete a product\n            marked as deleted.\n   ".toList

theorem dedent_deepText :
    (∀ c ∈ ['\t', ' '], isIndent c = true) ∧
      dedent (indentBy ['\t', ' '] deepText) =
        "\n@apiDescription\nDelete a product\n        marked as deleted.\n".toList ∧
      (∃ line ∈ lines deepText, isBlankLine line = false) ∧
      ∃ left ∈ lines (dedent deepText),
        isBlankLine left = false ∧ ∀ c ∈ left.head?, isIndent c = false := by
  obtain ⟨⟨k, -, -, -, hflush⟩, hdeeper⟩ := dedent_takes_margin deepText
  have hpad : ∀ c ∈ ['\t', ' '], isIndent c = true := by simp [isIndent]
  have hsome : ∃ line ∈ lines deepText, isBlankLine line = false := by decide +kernel
  refine ⟨hpad, ?_, hsome, hflush hsome⟩
  rw [hdeeper ['\t', ' '] hpad]
  decide +kernel

end Block

end ApiManual
