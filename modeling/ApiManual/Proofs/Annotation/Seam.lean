import ApiManual.Proofs.Annotation.Cutting
import ApiManual.Settings
import Mathlib.Algebra.GroupWithZero.Nat
import Mathlib.Data.List.Basic

/-!
# Sources put together

When two texts are put together, the second one may be read quite differently from how it would be
read alone: a block that the first one leaves open swallows it, and a marker may lie across the seam.
Neither can be when the first text is sealed, that is, when it ends with a line feed and has no
opening marker behind its last block. The markers have no line feed, so none lies across the seam.

The main result `scan_append` says that the blocks of a sealed text and whatever follows are the
blocks of both, those of the second moved down. So of a source that is put together from sealed parts
each part gives its own blocks, wherever it stands.
-/

namespace ApiManual

open Text

namespace Piece

variable {opening closing source after : List Char} {piece : Piece}

/-- The piece with more text before its block. -/
def behind (text : List Char) (piece : Piece) : Piece :=
  { piece with gap := text ++ piece.gap }

/-- A block that is complete does not change when the text goes on. -/
theorem first?_append_of_some (hfirst : first? opening closing source = some (piece, after))
    (following : List Char) :
    first? opening closing (source ++ following) = some (piece, after ++ following) := by
  obtain ⟨hopening, hclosing, behind, hfound, hended⟩ := first?_eq_some_iff.1 hfirst
  exact first?_eq_some_iff.2 ⟨hopening, hclosing, behind ++ following,
    breakOn_append_of_some hfound following, breakOn_append_of_some hended following⟩

theorem first?_append_of_not_infix (hopening : '\n' ∉ opening)
    (hends : source.getLast? = some '\n') (hclosed : ¬ opening <:+: source)
    (following : List Char) :
    first? opening closing (source ++ following) =
      (first? opening closing following).map fun (piece, after) =>
        (piece.behind source, after) := by
  -- The last line feed is not in the marker, so no marker begins before it and ends behind it.
  obtain ⟨front, rfl⟩ := List.getLast?_eq_some_iff.1 hends
  have hfront : ¬ opening <:+: front := fun hinside =>
    hclosed (hinside.trans (List.prefix_append front ['\n']).isInfix)
  have hfound := breakOn_append_of_not_infix hfront hopening following
  unfold first?
  split
  · rfl
  · rw [List.append_assoc, List.singleton_append, hfound, Option.bind_map, Option.map_bind]
    refine congrArg (Option.bind _) (funext fun (gap, rest) => ?_)
    simp only [Function.comp_apply, Option.map_map]
    refine congrArg (Option.map · _) (funext fun (content, after) => ?_)
    simp [behind]

end Piece

namespace Cutting

variable {opening closing source : List Char}

theorem getLast?_after {after : List Char} {piece : Piece} (hclosing : '\n' ∉ closing)
    (hfirst : Piece.first? opening closing source = some (piece, after))
    (hends : source.getLast? = some '\n') : after.getLast? = some '\n' := by
  have hne : closing ≠ [] := (Piece.first?_eq_some_iff.1 hfirst).2.1
  rw [Piece.eq_of_first?_eq_some hfirst, Piece.text, List.getLast?_append, List.getLast?_append,
    Option.or_eq_some_iff] at hends
  rcases hends with hafter | ⟨-, hmarker⟩
  · exact hafter
  · -- With nothing after it, the closing marker would end in the line feed.
    rw [List.getLast?_eq_some_getLast hne, Option.some_or, Option.some_inj] at hmarker
    exact absurd (hmarker ▸ List.getLast_mem hne) hclosing

/-- Put together with a sealed text before it, a text is cut as it would be alone, and only the text
before its first block grows. -/
theorem pieces_append (hopening : '\n' ∉ opening) (hclosing : '\n' ∉ closing)
    (hends : source.getLast? = some '\n')
    (hclosed : ¬ opening <:+: (of opening closing source).rest) (following : List Char) :
    (of opening closing (source ++ following)).pieces =
      (of opening closing source).pieces ++
        (of opening closing following).pieces.modifyHead
          (Piece.behind (of opening closing source).rest) := by
  induction source using of.induct opening closing with
  | case1 source hfirst =>
    -- All of the text is rest now, and joins the text before the first block that follows.
    rw [of_eq_of_none hfirst] at hclosed ⊢
    have happend : Piece.first? opening closing (source ++ following) =
        (Piece.first? opening closing following).map fun (piece, after) =>
          (piece.behind source, after) :=
      Piece.first?_append_of_not_infix hopening hends hclosed following
    cases hnext : Piece.first? opening closing following with
    | none =>
      rw [hnext, Option.map_none] at happend
      rw [of_eq_of_none happend, of_eq_of_none hnext]
      rfl
    | some found =>
      obtain ⟨piece, after⟩ := found
      rw [hnext, Option.map_some] at happend
      rw [of_eq_of_some happend, of_eq_of_some hnext]
      rfl
  | case2 source piece after hfirst ih =>
    rw [of_eq_of_some hfirst] at hclosed
    have hrest := ih (getLast?_after hclosing hfirst hends) hclosed
    rw [of_eq_of_some hfirst, of_eq_of_some (Piece.first?_append_of_some hfirst following)]
    exact congrArg (piece :: ·) hrest

end Cutting

namespace Block

/-- The block some lines further down. -/
def movedDown (count : Nat) (block : Block) : Block :=
  { block with line := block.line + count }

/-! ### Lines -/

theorem ofPieces_append (line : Nat) (pieces more : List Piece) :
    ofPieces line (pieces ++ more) =
      ofPieces line pieces ++ ofPieces (line + (pieces.map Piece.lineFeeds).sum) more := by
  induction pieces generalizing line with
  | nil => rfl
  | cons piece pieces ih =>
    rw [List.cons_append, ofPieces, ofPieces, ih, List.map_cons, List.sum_cons, Nat.add_assoc]
    rfl

theorem ofPieces_behind (line : Nat) (text : List Char) (pieces : List Piece) :
    ofPieces line (pieces.modifyHead (Piece.behind text)) =
      ofPieces (line + lineFeeds text) pieces := by
  cases pieces with
  | nil => rfl
  | cons piece pieces =>
    simp only [List.modifyHead_cons, ofPieces, Piece.behind, Piece.lineFeeds, lineFeeds_append,
      Nat.add_assoc]

theorem ofPieces_add (line count : Nat) (pieces : List Piece) :
    ofPieces (line + count) pieces = (ofPieces line pieces).map (movedDown count) := by
  induction pieces generalizing line with
  | nil => rfl
  | cons piece pieces ih =>
    rw [ofPieces, ofPieces, List.map_cons, ← ih, movedDown, Nat.add_right_comm,
      Nat.add_right_comm line count]

theorem lineFeeds_source {opening closing : List Char} (hopening : '\n' ∉ opening)
    (hclosing : '\n' ∉ closing) (source : List Char) :
    lineFeeds source =
      ((Cutting.of opening closing source).pieces.map Piece.lineFeeds).sum +
        lineFeeds (Cutting.of opening closing source).rest := by
  have hpiece : ∀ piece : Piece, lineFeeds (piece.text opening closing) = piece.lineFeeds := by
    intro piece
    -- The markers have no line feeds, so all of them are in the gap and the content.
    have hnone : lineFeeds opening = 0 ∧ lineFeeds closing = 0 :=
      ⟨List.count_eq_zero.2 hopening, List.count_eq_zero.2 hclosing⟩
    rw [Piece.lineFeeds_text, hnone.1, hnone.2, Nat.add_zero]
  conv_lhs => rw [Cutting.source_eq opening closing source, lineFeeds_append]
  congr 1
  rw [lineFeeds, List.count_flatMap]
  exact congrArg List.sum (List.map_congr_left fun piece _ => hpiece piece)

/-! ### Sealed texts -/

/-- A text that nothing behind it gets into: it ends a line, and there is no opening marker behind
its last block. -/
structure Sealed (delimiters : Delimiters) (source : String) : Prop where
  lineEnd : source.toList.getLast? = some '\n'
  closed : ¬ delimiters.opening.toList <:+:
    (Cutting.of delimiters.opening.toList delimiters.closing.toList source.toList).rest

/-- The blocks of texts that stand one below the other, with so many lines above the first one. -/
def stacked (delimiters : Delimiters) (above : Nat) : List String → List Block
  | [] => []
  | part :: parts =>
    (scan delimiters part).map (movedDown above) ++
      stacked delimiters (above + lineFeeds part.toList) parts

variable {delimiters : Delimiters}

theorem scan_append_of_sealed (hopening : '\n' ∉ delimiters.opening.toList)
    (hclosing : '\n' ∉ delimiters.closing.toList) {source : String}
    (hsealed : Sealed delimiters source) (following : String) :
    scan delimiters (source ++ following) =
      scan delimiters source ++
        (scan delimiters following).map (movedDown (lineFeeds source.toList)) := by
  rw [scan_eq_ofPieces, String.toList_append,
    Cutting.pieces_append hopening hclosing hsealed.lineEnd hsealed.closed, ofPieces_append,
    ofPieces_behind, Nat.add_assoc, ← lineFeeds_source hopening hclosing, ofPieces_add,
    ← scan_eq_ofPieces, ← scan_eq_ofPieces]

theorem movedDown_movedDown (above count : Nat) (blocks : List Block) :
    (blocks.map (movedDown count)).map (movedDown above) =
      blocks.map (movedDown (above + count)) := by
  rw [List.map_map]
  refine List.map_congr_left fun block _ => ?_
  simp only [Function.comp_apply, movedDown, Nat.add_assoc, Nat.add_comm count above]

theorem scan_join_of_sealed (hopening : '\n' ∉ delimiters.opening.toList)
    (hclosing : '\n' ∉ delimiters.closing.toList) (above : Nat) {parts : List String}
    (hsealed : ∀ part ∈ parts, Sealed delimiters part) (last : String) :
    (scan delimiters (String.join parts ++ last)).map (movedDown above) =
      stacked delimiters above (parts ++ [last]) := by
  induction parts generalizing above with
  | nil => simp [stacked]
  | cons part parts ih =>
    rw [List.forall_mem_cons] at hsealed
    rw [String.join_cons, String.append_assoc,
      scan_append_of_sealed hopening hclosing hsealed.1, List.map_append, movedDown_movedDown,
      ih _ hsealed.2, List.cons_append, stacked]

theorem text_stacked (above : Nat) (parts : List String) :
    (stacked delimiters above parts).map (·.text) =
      parts.flatMap fun part => (scan delimiters part).map (·.text) := by
  induction parts generalizing above with
  | nil => rfl
  | cons part parts ih =>
    rw [stacked, List.map_append, ih, List.flatMap_cons, List.map_map]
    rfl

/-- **Lexing is local.** The blocks of a sealed text with another text behind it are the blocks of
the one and then those of the other, moved down by the lines of the first. So in a source made of
sealed parts, and of any text at its end, every part has the blocks that it has by itself: what
stands elsewhere decides about their lines, never about their texts. -/
theorem scan_append (hopening : '\n' ∉ delimiters.opening.toList)
    (hclosing : '\n' ∉ delimiters.closing.toList) {source : String}
    (hsealed : Sealed delimiters source) (following : String) :
    scan delimiters (source ++ following) =
        scan delimiters source ++
          (scan delimiters following).map (movedDown (lineFeeds source.toList)) ∧
      ∀ parts last, (∀ part ∈ parts, Sealed delimiters part) →
        scan delimiters (String.join parts ++ last) = stacked delimiters 0 (parts ++ [last]) ∧
          (scan delimiters (String.join parts ++ last)).map (·.text) =
            (parts ++ [last]).flatMap fun part => (scan delimiters part).map (·.text) := by
  refine ⟨scan_append_of_sealed hopening hclosing hsealed following, fun parts last hparts => ?_⟩
  have hjoin := scan_join_of_sealed hopening hclosing 0 hparts last
  have hsame : ∀ blocks : List Block, blocks.map (movedDown 0) = blocks := List.map_id
  rw [hsame] at hjoin
  exact ⟨hjoin, by rw [hjoin, text_stacked]⟩

/-- A block, and behind it the beginning of a marker. -/
def albumPart : String := "\n\"\"\"\n@api {get} /album Albums\n\"\"\"\n\"\"\n"

def photoPart : String := "\"\"\"@api {get} /photo Photos\"\"\""

theorem scan_albumPart_photoPart :
    Sealed Settings.standardDelimiters albumPart ∧
      scan Settings.standardDelimiters (albumPart ++ photoPart) =
        [⟨"\n@api {get} /album Albums\n".toList, 2⟩, ⟨"@api {get} /photo Photos".toList, 6⟩] := by
  have hsealed : Sealed Settings.standardDelimiters albumPart := by
    refine ⟨by decide, ?_⟩
    have hrest : (Cutting.of "\"\"\"".toList "\"\"\"".toList albumPart.toList).rest =
        "\n\"\"\n".toList := by
      decide +kernel
    rw [← breakOn_eq_none_iff]
    exact hrest ▸ (by decide)
  have happend := (scan_append (by decide) (by decide) hsealed photoPart).1
  refine ⟨hsealed, happend.trans ?_⟩
  decide +kernel

end Block

end ApiManual
