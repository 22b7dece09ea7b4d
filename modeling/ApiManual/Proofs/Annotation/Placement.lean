import ApiManual.Proofs.Annotation.Cutting
import Mathlib.Algebra.GroupWithZero.Nat

/-!
# The line of a block

The line of a block is counted up while the source is scanned, over the text before each block and
the text between its markers. The markers themselves are gone past without a look. So the line that a
block is given falls behind the line on which it stands by the line feeds of the markers above it, and
is right for every source exactly when neither marker has a line feed, or no block stands above.
-/

namespace ApiManual

open Text Block

namespace Cutting

variable {opening closing : List Char}

/-- The source up to the opening marker of the block with the given number, the first one being 0. -/
def above (opening closing : List Char) (cutting : Cutting) (number : Nat) : List Char :=
  (cutting.pieces.take number).flatMap (Piece.text opening closing) ++
    (cutting.pieces[number]?.map (·.gap)).getD []

theorem above_of_getElem? {cutting : Cutting} {number : Nat} {piece : Piece}
    (hpiece : cutting.pieces[number]? = some piece) :
    cutting.above opening closing number =
      (cutting.pieces.take number).flatMap (Piece.text opening closing) ++ piece.gap := by
  rw [above, hpiece, Option.map_some, Option.getD_some]

/-- Behind what is above a block follow its opening marker, its content and its closing marker. -/
theorem source_eq_above {source : List Char} {number : Nat} {piece : Piece}
    (hpiece : (of opening closing source).pieces[number]? = some piece) :
    ∃ below, source = (of opening closing source).above opening closing number ++ opening ++
      piece.content ++ closing ++ below := by
  obtain ⟨hnumber, hget⟩ := List.getElem?_eq_some_iff.1 hpiece
  refine ⟨((of opening closing source).pieces.drop (number + 1)).flatMap
    (Piece.text opening closing) ++ (of opening closing source).rest, ?_⟩
  have hsplit : (of opening closing source).pieces =
      (of opening closing source).pieces.take number ++
        piece :: (of opening closing source).pieces.drop (number + 1) := by
    rw [← hget, List.getElem_cons_drop, List.take_append_drop]
  rw [above_of_getElem? hpiece]
  conv_lhs => rw [source_eq opening closing source, hsplit]
  simp only [List.flatMap_append, List.flatMap_cons, Piece.text, List.append_assoc]

theorem lineFeeds_flatMap_text (pieces : List Piece) :
    lineFeeds (pieces.flatMap (Piece.text opening closing)) =
      (pieces.map Piece.lineFeeds).sum +
        pieces.length * (lineFeeds opening + lineFeeds closing) := by
  induction pieces with
  | nil => simp [lineFeeds]
  | cons piece pieces ih =>
    rw [List.flatMap_cons, lineFeeds_append, ih, Piece.lineFeeds_text, List.map_cons, List.sum_cons,
      List.length_cons, Nat.succ_mul]
    omega

end Cutting

namespace Block

theorem getElem?_ofPieces (line : Nat) (pieces : List Piece) (number : Nat) :
    (ofPieces line pieces)[number]? = pieces[number]?.map fun piece =>
      ⟨dedent piece.content,
        line + ((pieces.take number).map Piece.lineFeeds).sum + lineFeeds piece.gap⟩ := by
  induction pieces generalizing line number with
  | nil => rfl
  | cons piece pieces ih =>
    cases number with
    | zero => rfl
    | succ number =>
      simp only [ofPieces, List.getElem?_cons_succ, ih, List.take_succ_cons, List.map_cons,
        List.sum_cons, Nat.add_assoc]

variable {delimiters : Delimiters} {source : String} {number : Nat} {block : Block}

/-- The source up to the opening marker of a block. -/
def above (delimiters : Delimiters) (source : String) (number : Nat) : List Char :=
  (Cutting.of delimiters.opening.toList delimiters.closing.toList source.toList).above
    delimiters.opening.toList delimiters.closing.toList number

/-- **A block is as many lines too high as the markers above it have line feeds.** Behind what is
above a block its opening marker follows, and then its text. The line of the block and the line feeds
of the markers of all blocks above it make up the line on which the opening marker stands. So they
are the same line if and only if it is the first block or the markers have no line feeds. -/
theorem line_eq_iff (hblock : (scan delimiters source)[number]? = some block) :
    (∃ content below, source.toList = above delimiters source number ++
        delimiters.opening.toList ++ content ++ delimiters.closing.toList ++ below ∧
        block.text = dedent content) ∧
      block.line +
          number * (lineFeeds delimiters.opening.toList + lineFeeds delimiters.closing.toList) =
        1 + lineFeeds (above delimiters source number) ∧
      (block.line = 1 + lineFeeds (above delimiters source number) ↔
        number = 0 ∨ '\n' ∉ delimiters.opening.toList ∧ '\n' ∉ delimiters.closing.toList) := by
  rw [scan_eq_ofPieces, getElem?_ofPieces] at hblock
  obtain ⟨piece, hpiece, rfl⟩ := Option.map_eq_some_iff.1 hblock
  obtain ⟨below, hsource⟩ := Cutting.source_eq_above hpiece
  have hlength := (List.getElem?_eq_some_iff.1 hpiece).1
  have hline : 1 + (((Cutting.of delimiters.opening.toList delimiters.closing.toList
        source.toList).pieces.take number).map Piece.lineFeeds).sum + lineFeeds piece.gap +
      number * (lineFeeds delimiters.opening.toList + lineFeeds delimiters.closing.toList) =
        1 + lineFeeds (above delimiters source number) := by
    rw [above, Cutting.above_of_getElem? hpiece, lineFeeds_append, Cutting.lineFeeds_flatMap_text,
      List.length_take_of_le (Nat.le_of_lt hlength)]
    omega
  refine ⟨⟨piece.content, below, hsource, rfl⟩, hline, ?_⟩
  have hmarkers : '\n' ∉ delimiters.opening.toList ∧ '\n' ∉ delimiters.closing.toList ↔
      lineFeeds delimiters.opening.toList + lineFeeds delimiters.closing.toList = 0 := by
    rw [Nat.add_eq_zero_iff, lineFeeds, lineFeeds, List.count_eq_zero, List.count_eq_zero]
  rw [hmarkers, ← Nat.mul_eq_zero, ← hline]
  exact Nat.left_eq_add

/-- Two blocks whose opening marker takes the rest of its line. -/
def commentDelimiters : Delimiters := ⟨"/**\n", "*/"⟩

def commentedSource : String :=
  "/**\n@api {get} /a A\n*/\n/**\n@api {get} /b B\n*/\n"

theorem getElem?_scan_commentedSource :
    (scan commentDelimiters commentedSource)[1]? = some ⟨"@api {get} /b B\n".toList, 3⟩ := by
  decide +kernel

theorem line_commentedSource :
    (scan commentDelimiters commentedSource)[1]? = some ⟨"@api {get} /b B\n".toList, 3⟩ ∧
      3 + 1 * (lineFeeds commentDelimiters.opening.toList +
        lineFeeds commentDelimiters.closing.toList) =
          1 + lineFeeds (above commentDelimiters commentedSource 1) :=
  ⟨getElem?_scan_commentedSource, (line_eq_iff getElem?_scan_commentedSource).2.1⟩

/-- The second block stands on the fourth line, and is given the third. -/
theorem line_ne_commentedSource :
    ¬ ∀ (delimiters : Delimiters) (source : String) (number : Nat) (block : Block),
      delimiters.opening ≠ "" → delimiters.closing ≠ "" →
        (scan delimiters source)[number]? = some block →
          block.line = 1 + lineFeeds (above delimiters source number) := by
  intro hexact
  have habove : lineFeeds (above commentDelimiters commentedSource 1) = 3 := by
    decide +kernel
  have hline := hexact commentDelimiters commentedSource 1 _ (by decide) (by decide)
    getElem?_scan_commentedSource
  rw [habove] at hline
  exact absurd hline (by decide)

end Block

end ApiManual
