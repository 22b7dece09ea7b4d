import ApiManual.Annotation.Tag
import ApiManual.Proofs.Text.Pieces
import Mathlib.Data.List.Induction
import Mathlib.Data.List.ModifyLast
import Mathlib.Data.List.TakeWhile

/-!
# Tags and the lines they are made of

A tag's text is a line and the lines that go on with it, and between them stand a space and a line
feed. The lines may end with spaces themselves, so a space is not what tells them apart. The line feed
is: no line has one, and so the text can be cut at its line feeds again, and of all pieces but the last
exactly one character has to go, whatever stands before it.

The tags can also be found with one look at each line. A line either begins a tag or is added to the
last one so far, and is dropped only while there is none.
-/

namespace ApiManual

open Text

namespace TagLine

variable {lineOf : Nat → Nat} {offset : Nat} {line : List Char} {texts : List (List Char)}

/-! ### Line by line -/

/-- Tags after one more line, of which the offset is given with it. -/
def extend (lineOf : Nat → Nat) (tags : List TagLine) (numbered : List Char × Nat) : List TagLine :=
  if startsTag numbered.1 then tags ++ [⟨numbered.1, lineOf numbered.2⟩]
  else tags.modifyLast fun tag => { tag with text := tag.text ++ continuation numbered.1 }

theorem group_eq_nil_iff :
    group lineOf offset texts = [] ↔ ∀ line ∈ texts, startsTag line = false := by
  induction texts generalizing offset with
  | nil => simp [group]
  | cons line rest ih =>
    cases hstarts : startsTag line <;> simp [group, hstarts, ih]

theorem extend_nil (hline : startsTag line = false) (lineOf : Nat → Nat) (index : Nat) :
    extend lineOf [] (line, index) = [] := by
  rw [extend, hline]
  rfl

theorem extend_singleton (hline : startsTag line = false) (lineOf : Nat → Nat) (tag : TagLine)
    (index : Nat) :
    extend lineOf [tag] (line, index) = [⟨tag.text ++ continuation line, tag.line⟩] := by
  rw [extend, hline]
  exact List.modifyLast_concat _ tag []

theorem extend_cons {tags : List TagLine} (hsome : tags ≠ []) (lineOf : Nat → Nat) (tag : TagLine)
    (numbered : List Char × Nat) :
    extend lineOf (tag :: tags) numbered = tag :: extend lineOf tags numbered := by
  unfold extend
  split
  · rfl
  · exact List.modifyLast_append_of_right_ne_nil _ [tag] tags hsome

/-- Once another tag has begun, a line at the end does not go on with the tags before it. -/
theorem takeWhile_concat_of_group_ne_nil (hrest : group lineOf offset texts ≠ [])
    (line : List Char) :
    (texts ++ [line]).takeWhile (!startsTag ·) = texts.takeWhile (!startsTag ·) := by
  rw [List.takeWhile_append, if_neg]
  intro hlength
  have hwhole := (List.takeWhile_prefix (!startsTag ·)).eq_of_length hlength
  refine hrest (group_eq_nil_iff.2 ?_)
  simpa using List.takeWhile_eq_self_iff.1 hwhole

theorem group_concat (lineOf : Nat → Nat) (offset : Nat) (texts : List (List Char))
    (line : List Char) :
    group lineOf offset (texts ++ [line]) =
      extend lineOf (group lineOf offset texts) (line, offset + texts.length) := by
  induction texts generalizing offset with
  | nil =>
    cases hline : startsTag line with
    | true => simp [group, extend, hline]
    | false => simp [group, extend_nil hline, hline]
  | cons first rest ih =>
    have hoffset : offset + (first :: rest).length = offset + 1 + rest.length := by
      rw [List.length_cons]
      omega
    rw [List.cons_append, group, group, hoffset, ih]
    by_cases hfirst : startsTag first = true
    · rw [if_pos hfirst, if_pos hfirst]
      by_cases hrest : group lineOf (offset + 1) rest = []
      · -- The tag that the first line begins is still open, so the line may go on with it.
        have hquiet : ∀ other ∈ rest, (!startsTag other) = true := by
          simpa using group_eq_nil_iff.1 hrest
        rw [hrest, List.takeWhile_append_of_pos hquiet, List.takeWhile_eq_self_iff.2 hquiet]
        cases hline : startsTag line with
        | true => simp [extend, hline]
        | false =>
          rw [extend_nil hline, extend_singleton hline]
          simp [hline]
      · rw [takeWhile_concat_of_group_ne_nil hrest, extend_cons hrest]
    · rw [if_neg hfirst, if_neg hfirst]

theorem group_eq_foldl_extend (lineOf : Nat → Nat) (texts : List (List Char)) :
    group lineOf 0 texts = texts.zipIdx.foldl (extend lineOf) [] := by
  induction texts using List.reverseRecOn with
  | nil => rfl
  | append_singleton texts line ih =>
    rw [group_concat, ih, List.zipIdx_append, List.foldl_append]
    rfl

/-! ### The text of a tag -/

/-- Lines of which all but the last have a character at the end that was put there. -/
def withoutSpaces : List (List Char) → List (List Char)
  | [] => []
  | [line] => [line]
  | line :: next :: rest => line.dropLast :: withoutSpaces (next :: rest)

def sourceLines (tag : TagLine) : List (List Char) := withoutSpaces (lines tag.text)

theorem withoutSpaces_lines_continued (hline : '\n' ∉ line) {more : List (List Char)}
    (hmore : ∀ other ∈ more, '\n' ∉ other) :
    withoutSpaces (lines (line ++ more.flatMap continuation)) = line :: more := by
  induction more generalizing line with
  | nil =>
    rw [List.flatMap_nil, List.append_nil, lines, List.splitOn_eq_singleton hline]
    rfl
  | cons next more ih =>
    rw [List.forall_mem_cons] at hmore
    have hspaced : '\n' ∉ line ++ [' '] := by simp [hline]
    have hjoined : line ++ (next :: more).flatMap continuation =
        (line ++ [' ']) ++ '\n' :: (next ++ more.flatMap continuation) := by
      simp [continuation]
    obtain ⟨first, others, hothers⟩ := List.exists_cons_of_ne_nil
      (List.splitOn_ne_nil '\n' (next ++ more.flatMap continuation))
    have hnext := ih hmore.1 hmore.2
    rw [lines, hothers] at hnext
    rw [hjoined, lines, List.splitOn_append_cons_self, List.splitOn_eq_singleton hspaced, hothers,
      List.singleton_append, withoutSpaces, List.dropLast_concat, hnext]

theorem flatMap_sourceLines_group (lineOf : Nat → Nat) (offset : Nat)
    (hplain : ∀ line ∈ texts, '\n' ∉ line) :
    (group lineOf offset texts).flatMap sourceLines = texts.dropWhile (!startsTag ·) := by
  induction texts generalizing offset with
  | nil => rfl
  | cons line rest ih =>
    rw [List.forall_mem_cons] at hplain
    have hmore : ∀ other ∈ rest.takeWhile (!startsTag ·), '\n' ∉ other := fun other hother =>
      hplain.2 other ((List.takeWhile_prefix _).subset hother)
    rw [group]
    cases hline : startsTag line with
    | true =>
      rw [if_pos rfl, List.flatMap_cons, ih _ hplain.2, sourceLines,
        withoutSpaces_lines_continued hplain.1 hmore, List.cons_append,
        List.takeWhile_append_dropWhile, List.dropWhile_cons_of_neg (by simp [hline])]
    | false =>
      rw [if_neg Bool.false_ne_true, ih _ hplain.2, List.dropWhile_cons_of_pos (by simp [hline])]

/-- The lines before the first tag do not matter for the texts of the tags, and neither does where
the lines stand. -/
theorem map_text_group_dropWhile (lineOf lineOf' : Nat → Nat) (offset offset' : Nat)
    (texts : List (List Char)) :
    (group lineOf offset texts).map (·.text) =
      (group lineOf' offset' (texts.dropWhile (!startsTag ·))).map (·.text) := by
  induction texts generalizing lineOf lineOf' offset offset' with
  | nil => rfl
  | cons line rest ih =>
    cases hline : startsTag line with
    | true =>
      rw [List.dropWhile_cons_of_neg (by simp [hline]), group, group, if_pos hline, if_pos hline,
        List.map_cons, List.map_cons, ih lineOf lineOf' (offset + 1) 0,
        ← ih lineOf' lineOf' (offset' + 1) 0]
    | false =>
      rw [List.dropWhile_cons_of_pos (by simp [hline]), group, hline, if_neg Bool.false_ne_true]
      exact ih lineOf lineOf' (offset + 1) offset'

/-! ### The tags of a text -/

/-- The tag that a line of a text begins, with the lines that go on with it up to the next tag. -/
def begunBy (lineOf : Nat → Nat) (texts : List (List Char)) (numbered : List Char × Nat) :
    TagLine :=
  ⟨numbered.1 ++
      ((texts.drop (numbered.2 + 1)).takeWhile (!startsTag ·)).flatMap continuation,
    lineOf numbered.2⟩

theorem group_eq_map_begunBy (lineOf : Nat → Nat) (offset : Nat) (texts : List (List Char)) :
    group lineOf offset texts =
      (texts.zipIdx.filter (startsTag ·.1)).map
        (begunBy (fun index => lineOf (offset + index)) texts) := by
  induction texts generalizing offset with
  | nil => rfl
  | cons line rest ih =>
    have hlater : ((rest.zipIdx.map (Prod.map id (· + 1))).filter (startsTag ·.1)).map
        (begunBy (fun index => lineOf (offset + index)) (line :: rest)) =
          group lineOf (offset + 1) rest := by
      rw [ih, List.filter_map, List.map_map]
      refine List.map_congr_left fun numbered _ => ?_
      simp [begunBy, Nat.add_assoc, Nat.add_comm 1]
    rw [List.zipIdx_cons', List.filter_cons, group]
    cases hline : startsTag line with
    | true => simp [begunBy, hlater]
    | false => simp [hlater]

/-- **No line is lost in the tags.** The tags that come of one look at each line are one for each line
that begins with an at sign, in the order of the lines and reported as far behind the start as the line
is. The text of a tag is that line and, set off by a space and a line feed, each line up to the next one
with an at sign. From the texts of the tags their lines can be read again, and with the lines before the
first tag they are all lines of the text. So texts have the same tags exactly if they have the same
lines from the first tag on. -/
theorem ofText_loses_no_line (start : Nat) (text : List Char) :
    ofText (start + ·) text = (lines text).zipIdx.foldl (extend (start + ·)) [] ∧
      ofText (start + ·) text =
        ((lines text).zipIdx.filter (startsTag ·.1)).map (begunBy (start + ·) (lines text)) ∧
      lines text = (lines text).takeWhile (!startsTag ·) ++
        (ofText (start + ·) text).flatMap sourceLines ∧
      ∀ (otherStart : Nat) (other : List Char),
        (ofText (otherStart + ·) other).map (·.text) = (ofText (start + ·) text).map (·.text) ↔
          (lines other).dropWhile (!startsTag ·) = (lines text).dropWhile (!startsTag ·) := by
  have hrecovered : ∀ (number : Nat) (source : List Char),
      (ofText (number + ·) source).flatMap sourceLines =
        (lines source).dropWhile (!startsTag ·) := fun number source =>
    flatMap_sourceLines_group (number + ·) 0 fun line hline => not_mem_of_mem_splitOn hline
  refine ⟨group_eq_foldl_extend _ _, ?_, ?_,
    fun otherStart other => ⟨fun hsame => ?_, fun hsame => ?_⟩⟩
  · rw [ofText, group_eq_map_begunBy]
    simp only [Nat.zero_add]
  · rw [hrecovered, List.takeWhile_append_dropWhile]
  · rw [← hrecovered otherStart, ← hrecovered start]
    have hlines := congrArg (List.flatMap fun source => withoutSpaces (lines source)) hsame
    rwa [List.flatMap_map, List.flatMap_map] at hlines
  · rw [ofText, ofText, map_text_group_dropWhile _ (start + ·) 0 0, hsame,
      ← map_text_group_dropWhile]

/-- The first line is before all tags. The second ends with a space, and the third is empty. -/
example : ofText (4 + ·) "Photos\n@api {get} /photo \n\n  Photos\n@apiGroup Photo".toList =
      [⟨"@api {get} /photo  \n \n  Photos".toList, 5⟩, ⟨"@apiGroup Photo".toList, 8⟩] := by
  decide

end TagLine

end ApiManual
