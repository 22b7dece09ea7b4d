import ApiManual.Annotation.Block
import ApiManual.Proofs.Text.Marker

/-!
# A source cut at its blocks

Whatever the blocks of a source say, they come from cutting the source: the text before a block, the
text between its markers, and so on, and at the end the rest, in which no block is complete. Reading
off the blocks from the pieces is then a matter of counting lines. So what a change to a source does
to its blocks can be said in two steps, what it does to the pieces and what that does to the lines.
-/

namespace ApiManual

open Text Block

/-- The text before a block and the text between its markers. -/
structure Piece where
  gap : List Char
  content : List Char
deriving DecidableEq, Repr

/-- The pieces of a source, first to last, and the rest behind its last block. -/
structure Cutting where
  pieces : List Piece
  rest : List Char
deriving DecidableEq, Repr

theorem Block.lineFeeds_append (a b : List Char) :
    lineFeeds (a ++ b) = lineFeeds a + lineFeeds b :=
  List.count_append

namespace Piece

variable {opening closing source after : List Char} {piece : Piece}

def text (opening closing : List Char) (piece : Piece) : List Char :=
  piece.gap ++ opening ++ piece.content ++ closing

def lineFeeds (piece : Piece) : Nat :=
  Block.lineFeeds piece.gap + Block.lineFeeds piece.content

theorem lineFeeds_text (opening closing : List Char) (piece : Piece) :
    Block.lineFeeds (piece.text opening closing) =
      piece.lineFeeds + (Block.lineFeeds opening + Block.lineFeeds closing) := by
  simp only [text, lineFeeds, lineFeeds_append]
  omega

/-- The piece up to the end of the first block, and the text after it. -/
def first? (opening closing source : List Char) : Option (Piece × List Char) :=
  if opening = [] ∨ closing = [] then none
  else (breakOn opening source).bind fun (gap, behind) =>
    (breakOn closing behind).map fun (content, after) => (⟨gap, content⟩, after)

theorem first?_eq_some_iff :
    first? opening closing source = some (piece, after) ↔
      opening ≠ [] ∧ closing ≠ [] ∧ ∃ behind,
        breakOn opening source = some (piece.gap, behind) ∧
          breakOn closing behind = some (piece.content, after) := by
  unfold first?
  split
  · next hempty =>
    simp only [reduceCtorEq, false_iff]
    rintro ⟨hopening, hclosing, -⟩
    exact hempty.elim hopening hclosing
  · next hmarkers =>
    rw [not_or] at hmarkers
    rw [← and_assoc, and_iff_right hmarkers]
    constructor
    · intro hfirst
      obtain ⟨⟨gap, behind⟩, hfound, hfirst⟩ := Option.bind_eq_some_iff.1 hfirst
      obtain ⟨⟨content, last⟩, hended, heq⟩ := Option.map_eq_some_iff.1 hfirst
      cases heq
      exact ⟨behind, hfound, hended⟩
    · rintro ⟨behind, hfound, hended⟩
      simp [hfound, hended]

theorem eq_of_first?_eq_some (hfirst : first? opening closing source = some (piece, after)) :
    source = piece.text opening closing ++ after := by
  obtain ⟨-, -, behind, hfound, hended⟩ := first?_eq_some_iff.1 hfirst
  rw [breakOn_eq_some hfound, breakOn_eq_some hended, text]
  simp

theorem length_lt_of_first? (hfirst : first? opening closing source = some (piece, after)) :
    after.length < source.length := by
  have hopening := List.length_pos_iff.2 (first?_eq_some_iff.1 hfirst).1
  rw [eq_of_first?_eq_some hfirst, text]
  simp
  omega

end Piece

namespace Cutting

variable {opening closing source after : List Char} {piece : Piece}

def cons (piece : Piece) (cutting : Cutting) : Cutting :=
  { cutting with pieces := piece :: cutting.pieces }

/-- Cuts a source at its blocks. -/
def of (opening closing source : List Char) : Cutting :=
  match _first : Piece.first? opening closing source with
  | none => ⟨[], source⟩
  | some (piece, after) => cons piece (of opening closing after)
termination_by source.length
decreasing_by exact Piece.length_lt_of_first? _first

theorem of_eq_of_none (hfirst : Piece.first? opening closing source = none) :
    of opening closing source = ⟨[], source⟩ := by
  unfold of
  split
  · rfl
  · next hsome => exact absurd (hfirst.symm.trans hsome) (by simp)

theorem of_eq_of_some (hfirst : Piece.first? opening closing source = some (piece, after)) :
    of opening closing source = cons piece (of opening closing after) := by
  conv_lhs => unfold of
  split
  · next hnone => exact absurd (hnone.symm.trans hfirst) (by simp)
  · next hsome =>
    cases hsome.symm.trans hfirst
    rfl

/-- A source is its pieces with the markers put back, and the rest. -/
theorem source_eq (opening closing source : List Char) :
    source = (of opening closing source).pieces.flatMap (Piece.text opening closing) ++
      (of opening closing source).rest := by
  induction source using of.induct opening closing with
  | case1 source hfirst => simp [of_eq_of_none hfirst]
  | case2 source piece after hfirst ih =>
    rw [of_eq_of_some hfirst, cons, List.flatMap_cons, List.append_assoc, ← ih]
    exact Piece.eq_of_first?_eq_some hfirst

end Cutting

namespace Block

variable {opening closing : List Char}

/-- The blocks of some pieces, of which the first begins at the given line. -/
def ofPieces (line : Nat) : List Piece → List Block
  | [] => []
  | piece :: pieces =>
    ⟨dedent piece.content, line + lineFeeds piece.gap⟩ :: ofPieces (line + piece.lineFeeds) pieces

theorem scanFrom_of_none (hopening : opening ≠ []) (hclosing : closing ≠ []) (line : Nat)
    {source : List Char} (hfirst : Piece.first? opening closing source = none) :
    scanFrom opening closing hopening line source = [] := by
  unfold scanFrom
  split
  · rfl
  · next hfound =>
    split
    · rfl
    · next hended => simp [Piece.first?, hopening, hclosing, hfound, hended] at hfirst

theorem scanFrom_of_some (hopening : opening ≠ []) (line : Nat) {source after : List Char}
    {piece : Piece} (hfirst : Piece.first? opening closing source = some (piece, after)) :
    scanFrom opening closing hopening line source =
      ⟨dedent piece.content, line + lineFeeds piece.gap⟩ ::
        scanFrom opening closing hopening (line + piece.lineFeeds) after := by
  obtain ⟨-, -, behind, hfound, hended⟩ := Piece.first?_eq_some_iff.1 hfirst
  conv_lhs => unfold scanFrom
  split
  · next hnone => cases hnone.symm.trans hfound
  · next hsome =>
    cases hsome.symm.trans hfound
    split
    · next hnone => cases hnone.symm.trans hended
    · next hsome =>
      cases hsome.symm.trans hended
      rw [Piece.lineFeeds, ← Nat.add_assoc]

theorem scanFrom_eq_ofPieces (hopening : opening ≠ []) (hclosing : closing ≠ []) (line : Nat)
    (source : List Char) :
    scanFrom opening closing hopening line source =
      ofPieces line (Cutting.of opening closing source).pieces := by
  induction source using Cutting.of.induct opening closing generalizing line with
  | case1 source hfirst =>
    rw [scanFrom_of_none hopening hclosing line hfirst, Cutting.of_eq_of_none hfirst, ofPieces]
  | case2 source piece after hfirst ih =>
    rw [scanFrom_of_some hopening line hfirst, Cutting.of_eq_of_some hfirst, Cutting.cons,
      ofPieces, ih]

/-- The blocks of a source are those of its pieces. -/
theorem scan_eq_ofPieces (delimiters : Delimiters) (source : String) :
    scan delimiters source = ofPieces 1
      (Cutting.of delimiters.opening.toList delimiters.closing.toList source.toList).pieces := by
  simp only [scan]
  split
  · next hopening =>
    rw [Cutting.of_eq_of_none (by simp [Piece.first?, hopening]), ofPieces]
  · next hopening =>
    split
    · next hclosing =>
      rw [Cutting.of_eq_of_none (by simp [Piece.first?, hclosing]), ofPieces]
    · next hclosing => exact scanFrom_eq_ofPieces hopening hclosing 1 source.toList

end Block

end ApiManual
