import ApiManual.Annotation.Source
import ApiManual.Proofs.Annotation.Cutting
import ApiManual.Settings

/-!
# Line ends

A source may end its lines with a carriage return and a line feed in place of the line feed alone. It
is cut at the same places, because markers have neither character, and its lines count the same. Only
the contents of blocks change: each of their lines but the last has a carriage return at its end. Now
dedenting takes one carriage return off every line before it looks at blanks and margins, so the
blocks are the same, and whatever is read from them.
-/

namespace ApiManual

namespace Text

variable {marker text : List Char} {c : Char}

/-- The text with a carriage return before every line feed. -/
def withReturns (text : List Char) : List Char :=
  text.flatMap fun c => if c = '\n' then ['\r', '\n'] else [c]

theorem withReturns_lineFeed (text : List Char) :
    withReturns ('\n' :: text) = '\r' :: '\n' :: withReturns text :=
  rfl

theorem withReturns_cons (hc : c ≠ '\n') (text : List Char) :
    withReturns (c :: text) = c :: withReturns text := by
  simp [withReturns, hc]

theorem stripStart?_withReturns (hreturn : '\r' ∉ marker) (hfeed : '\n' ∉ marker) :
    stripStart? marker (withReturns text) = (stripStart? marker text).map withReturns := by
  induction marker generalizing text with
  | nil => rfl
  | cons d marker ih =>
    rw [List.mem_cons, not_or] at hreturn hfeed
    cases text with
    | nil => rfl
    | cons c text =>
      by_cases hc : c = '\n'
      · rw [hc, withReturns_lineFeed, stripStart?_cons_cons, stripStart?_cons_cons,
          if_neg (Ne.symm hreturn.1), if_neg (Ne.symm hfeed.1), Option.map_none]
      · rw [withReturns_cons hc, stripStart?_cons_cons, stripStart?_cons_cons]
        split
        · exact ih hreturn.2 hfeed.2
        · rfl

theorem breakOn_withReturns (hreturn : '\r' ∉ marker) (hfeed : '\n' ∉ marker) :
    breakOn marker (withReturns text) =
      (breakOn marker text).map (Prod.map withReturns withReturns) := by
  induction text with
  | nil => cases marker <;> rfl
  | cons c text ih =>
    have hstart : stripStart? marker (withReturns (c :: text)) =
        (stripStart? marker (c :: text)).map withReturns :=
      stripStart?_withReturns hreturn hfeed
    cases hstrip : stripStart? marker (c :: text) with
    | some after =>
      rw [hstrip] at hstart
      rw [breakOn_of_stripStart? hstrip, breakOn_of_stripStart? hstart]
      rfl
    | none =>
      rw [breakOn_cons_of_stripStart? hstrip, Option.map_map]
      by_cases hc : c = '\n'
      · have hne : marker ≠ [] := by
          rintro rfl
          cases hstrip
        rw [hc, withReturns_lineFeed, breakOn_cons_of_not_mem hreturn hne,
          breakOn_cons_of_not_mem hfeed hne, ih, Option.map_map, Option.map_map]
        rfl
      · rw [withReturns_cons hc] at hstart ⊢
        rw [hstrip] at hstart
        rw [breakOn_cons_of_stripStart? hstart, ih, Option.map_map]
        refine congrArg (Option.map · _) (funext fun found => ?_)
        simp [withReturns_cons hc]

end Text

open Text

namespace Block

variable {text : List Char} {c : Char}

theorem textLines_lineFeed (text : List Char) :
    textLines ('\n' :: text) = [] :: textLines text := by
  simp [textLines, lines, List.splitOn_eq_splitOnP, List.splitOnP_cons_eq_if_modifyHead, stripEnd]

theorem textLines_return (text : List Char) :
    textLines ('\r' :: '\n' :: text) = [] :: textLines text := by
  simp [textLines, lines, List.splitOn_eq_splitOnP, List.splitOnP_cons_eq_if_modifyHead, stripEnd]

theorem stripEnd_cons {last : Char} (hc : c ≠ last) (line : List Char) :
    stripEnd last (c :: line) = c :: stripEnd last line := by
  cases line with
  | nil => simp [stripEnd, hc]
  | cons d line =>
    unfold stripEnd
    rw [List.getLast?_cons_cons]
    split <;> rfl

theorem textLines_cons (hreturn : c ≠ '\r') (hfeed : c ≠ '\n') (text : List Char) :
    textLines (c :: text) = (textLines text).modifyHead (c :: ·) := by
  have hlines : lines (c :: text) = (lines text).modifyHead (c :: ·) := by
    simp [lines, List.splitOn_eq_splitOnP, List.splitOnP_cons_eq_if_modifyHead, hfeed]
  rw [textLines, textLines, hlines]
  cases lines text with
  | nil => rfl
  | cons line rest => simp [stripEnd_cons hreturn]

theorem textLines_withReturns (hplain : '\r' ∉ text) :
    textLines (withReturns text) = textLines text := by
  induction text with
  | nil => rfl
  | cons c text ih =>
    rw [List.mem_cons, not_or] at hplain
    by_cases hc : c = '\n'
    · rw [hc, withReturns_lineFeed, textLines_return, textLines_lineFeed, ih hplain.2]
    · rw [withReturns_cons hc, textLines_cons (Ne.symm hplain.1) hc,
        textLines_cons (Ne.symm hplain.1) hc, ih hplain.2]

theorem dedent_withReturns (hplain : '\r' ∉ text) : dedent (withReturns text) = dedent text := by
  rw [dedent, dedent, textLines_withReturns hplain]

theorem lineFeeds_withReturns (text : List Char) : lineFeeds (withReturns text) = lineFeeds text := by
  induction text with
  | nil => rfl
  | cons c text ih =>
    unfold lineFeeds at ih ⊢
    by_cases hc : c = '\n'
    · rw [hc, withReturns_lineFeed, List.count_cons_of_ne (by decide), List.count_cons_self,
        List.count_cons_self, ih]
    · rw [withReturns_cons hc, List.count_cons_of_ne hc, List.count_cons_of_ne hc, ih]

end Block

/-! ### Pieces and blocks -/

def Piece.withReturns (piece : Piece) : Piece :=
  ⟨Text.withReturns piece.gap, Text.withReturns piece.content⟩

section Markers

variable {opening closing : List Char} (hopening : '\r' ∉ opening ∧ '\n' ∉ opening)
  (hclosing : '\r' ∉ closing ∧ '\n' ∉ closing)

include hopening hclosing

theorem Piece.first?_withReturns (source : List Char) :
    first? opening closing (Text.withReturns source) =
      (first? opening closing source).map (Prod.map Piece.withReturns Text.withReturns) := by
  unfold first?
  split
  · rfl
  · rw [breakOn_withReturns hopening.1 hopening.2, Option.bind_map, Option.map_bind]
    refine congrArg (Option.bind _) (funext fun (gap, behind) => ?_)
    simp only [Function.comp_apply, Prod.map_apply, breakOn_withReturns hclosing.1 hclosing.2,
      Option.map_map]
    rfl

theorem Cutting.pieces_withReturns (source : List Char) :
    (of opening closing (Text.withReturns source)).pieces =
      (of opening closing source).pieces.map Piece.withReturns := by
  induction source using of.induct opening closing with
  | case1 source hfirst =>
    have hreturns := Piece.first?_withReturns hopening hclosing source
    rw [hfirst] at hreturns
    rw [of_eq_of_none hfirst, of_eq_of_none hreturns]
    rfl
  | case2 source piece after hfirst ih =>
    have hreturns := Piece.first?_withReturns hopening hclosing source
    rw [hfirst] at hreturns
    rw [of_eq_of_some hfirst, of_eq_of_some hreturns]
    exact congrArg (piece.withReturns :: ·) ih

end Markers

theorem Block.ofPieces_withReturns (line : Nat) {pieces : List Piece}
    (hplain : ∀ piece ∈ pieces, '\r' ∉ piece.content) :
    ofPieces line (pieces.map Piece.withReturns) = ofPieces line pieces := by
  induction pieces generalizing line with
  | nil => rfl
  | cons piece pieces ih =>
    rw [List.forall_mem_cons] at hplain
    have hfeeds : piece.withReturns.lineFeeds = piece.lineFeeds := by
      simp only [Piece.lineFeeds, Piece.withReturns, lineFeeds_withReturns]
    rw [List.map_cons, ofPieces, ofPieces, ih _ hplain.2, hfeeds, Piece.withReturns,
      dedent_withReturns hplain.1, lineFeeds_withReturns]

/-- What stands between markers stands in the source. -/
theorem Cutting.mem_of_mem_content {opening closing source : List Char} {piece : Piece} {c : Char}
    (hpiece : piece ∈ (of opening closing source).pieces) (hc : c ∈ piece.content) :
    c ∈ source := by
  rw [source_eq opening closing source, List.mem_append, List.mem_flatMap]
  refine Or.inl ⟨piece, hpiece, ?_⟩
  simp [Piece.text, hc]

namespace SourceFile

/-- The source with a carriage return before every line feed. -/
def withReturns (source : SourceFile) : SourceFile :=
  { source with content := String.ofList (Text.withReturns source.content.toList) }

variable {delimiters : Delimiters} {source : SourceFile}

theorem scan_withReturns
    (hopening : '\r' ∉ delimiters.opening.toList ∧ '\n' ∉ delimiters.opening.toList)
    (hclosing : '\r' ∉ delimiters.closing.toList ∧ '\n' ∉ delimiters.closing.toList)
    (hplain : '\r' ∉ source.content.toList) :
    Block.scan delimiters source.withReturns.content = Block.scan delimiters source.content := by
  rw [Block.scan_eq_ofPieces, withReturns, String.toList_ofList,
    Cutting.pieces_withReturns hopening hclosing, Block.scan_eq_ofPieces]
  exact Block.ofPieces_withReturns 1 fun piece hpiece hreturn =>
    hplain (Cutting.mem_of_mem_content hpiece hreturn)

/-- **Line ends do not matter.** Sources without carriage returns have the same blocks, declare the
same fragments and read as the same drafts and warnings, lines included, when their lines end with a
carriage return and a line feed. -/
theorem readAll_withReturns {sources : List SourceFile}
    (hopening : '\r' ∉ delimiters.opening.toList ∧ '\n' ∉ delimiters.opening.toList)
    (hclosing : '\r' ∉ delimiters.closing.toList ∧ '\n' ∉ delimiters.closing.toList)
    (hplain : ∀ source ∈ sources, '\r' ∉ source.content.toList) :
    (∀ source ∈ sources,
        Block.scan delimiters source.withReturns.content =
          Block.scan delimiters source.content) ∧
      collectFragments delimiters (sources.map withReturns) = collectFragments delimiters sources ∧
      readAll delimiters (sources.map withReturns) = readAll delimiters sources := by
  have hscan : ∀ source ∈ sources, Block.scan delimiters source.withReturns.content =
      Block.scan delimiters source.content :=
    fun source hmem => scan_withReturns hopening hclosing (hplain source hmem)
  have hfragments : collectFragments delimiters (sources.map withReturns) =
      collectFragments delimiters sources := by
    rw [collectFragments, collectFragments, List.flatMap_map]
    refine congrArg (Keyed.ofList _) (List.flatMap_congr fun source hmem => ?_)
    rw [fragmentsIn, hscan source hmem, fragmentsIn]
  have hread : (sources.map withReturns).map
      (read delimiters (collectFragments delimiters sources)) =
        sources.map (read delimiters (collectFragments delimiters sources)) := by
    rw [List.map_map]
    refine List.map_congr_left fun source hmem => ?_
    rw [Function.comp_apply, read, hscan source hmem, read]
    rfl
  refine ⟨hscan, hfragments, ?_⟩
  rw [readAll, readAll, hfragments, hread]

/-- A blank line with spaces in it, a tag that is indented, and a last line with nothing but the
indent of the closing marker. -/
def photoFile : SourceFile :=
  ⟨"photo.py", "def get():\n  \"\"\"\n  @api {get} /photo Photos\n   \n    @apiGroup Photo\n  \"\"\"\n"⟩

theorem readAll_photoFile :
    '\r' ∉ photoFile.content.toList ∧ '\r' ∈ photoFile.withReturns.content.toList ∧
      Block.scan Settings.standardDelimiters photoFile.withReturns.content =
        [⟨"\n@api {get} /photo Photos\n\n  @apiGroup Photo\n".toList, 2⟩] ∧
      readAll Settings.standardDelimiters [photoFile.withReturns] =
        readAll Settings.standardDelimiters [photoFile] := by
  have hplain : '\r' ∉ photoFile.content.toList := by decide
  have hall : ∀ source ∈ [photoFile], '\r' ∉ source.content.toList := by
    simpa using hplain
  have hsame : _ ∧ _ ∧ readAll Settings.standardDelimiters [photoFile.withReturns] =
      readAll Settings.standardDelimiters [photoFile] :=
    readAll_withReturns (by decide) (by decide) hall
  refine ⟨hplain, by decide, ?_, hsame.2.2⟩
  rw [hsame.1 photoFile (List.mem_singleton_self photoFile)]
  decide +kernel

end SourceFile

end ApiManual
