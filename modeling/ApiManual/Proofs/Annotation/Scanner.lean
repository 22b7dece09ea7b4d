import ApiManual.Proofs.Annotation.Cutting
import ApiManual.Settings
import Mathlib.Logic.Function.Iterate

/-!
# Blocks one at a time

A source is cut at its blocks in one way only. The text before each block has no opening marker but
the one behind it, the content none but the closing marker behind it, and in the rest no block is
complete. This says nothing about a search, and holds of markers that are equal, that begin with one
another or that overlap themselves.

The blocks need not be found all at once. A scanner stands at a position of the source and is asked
for one block after the other. It goes on behind the closing marker of the block that it gave last, so
it neither passes over text nor comes back to any. When there is no further block it stays where it
is, and so there is none either when it is asked again.
-/

namespace ApiManual

open Text Block

namespace Piece

variable {opening closing source after : List Char} {piece : Piece}

theorem first?_eq_some_iff_onlyAtEnd (hopening : opening ≠ []) (hclosing : closing ≠ []) :
    first? opening closing source = some (piece, after) ↔
      source = piece.text opening closing ++ after ∧ OnlyAtEnd opening piece.gap ∧
        OnlyAtEnd closing piece.content := by
  rw [first?_eq_some_iff, and_iff_right hopening, and_iff_right hclosing]
  simp only [breakOn_eq_some_iff]
  constructor
  · rintro ⟨behind, ⟨rfl, hgap⟩, rfl, hcontent⟩
    exact ⟨by simp [text], hgap, hcontent⟩
  · rintro ⟨rfl, hgap, hcontent⟩
    exact ⟨piece.content ++ closing ++ after, ⟨by simp [text], hgap⟩, rfl, hcontent⟩

theorem first?_eq_none_iff (hopening : opening ≠ []) (hclosing : closing ≠ []) :
    first? opening closing source = none ↔
      ¬ opening <:+: source ∨
        ∃ gap behind, source = gap ++ opening ++ behind ∧ OnlyAtEnd opening gap ∧
          ¬ closing <:+: behind := by
  have hmarkers : ¬ (opening = [] ∨ closing = []) := not_or.2 ⟨hopening, hclosing⟩
  rw [first?, if_neg hmarkers, Option.bind_eq_none_iff, ← breakOn_eq_none_iff]
  simp only [Prod.forall, Option.map_eq_none_iff, @breakOn_eq_none_iff closing]
  constructor
  · intro hnone
    rcases hfound : breakOn opening source with _ | ⟨gap, behind⟩
    · exact Or.inl rfl
    · obtain ⟨hsource, hgap⟩ := breakOn_eq_some_iff.1 hfound
      exact Or.inr ⟨gap, behind, hsource, hgap, hnone gap behind hfound⟩
  · rintro (hnone | ⟨gap, behind, hsource, hgap, hbehind⟩) other tail hfound
    · cases hnone.symm.trans hfound
    · cases (breakOn_eq_some_iff.2 ⟨hsource, hgap⟩).symm.trans hfound
      exact hbehind

end Piece

namespace Cutting

/-- The source is cut at its blocks from left to right. Each marker occurs for the first time where
the text before it ends, and no block is complete in the rest. -/
structure Leftmost (opening closing source : List Char) (cutting : Cutting) : Prop where
  whole : source = cutting.pieces.flatMap (Piece.text opening closing) ++ cutting.rest
  gap : ∀ piece ∈ cutting.pieces, OnlyAtEnd opening piece.gap
  content : ∀ piece ∈ cutting.pieces, OnlyAtEnd closing piece.content
  rest : ¬ opening <:+: cutting.rest ∨
    ∃ gap behind, cutting.rest = gap ++ opening ++ behind ∧ OnlyAtEnd opening gap ∧
      ¬ closing <:+: behind

variable {opening closing source : List Char}

theorem leftmost_of (hopening : opening ≠ []) (hclosing : closing ≠ []) (source : List Char) :
    Leftmost opening closing source (of opening closing source) := by
  have hall : (∀ piece ∈ (of opening closing source).pieces,
      OnlyAtEnd opening piece.gap ∧ OnlyAtEnd closing piece.content) ∧
      Piece.first? opening closing (of opening closing source).rest = none := by
    induction source using of.induct opening closing with
    | case1 source hfirst =>
      rw [of_eq_of_none hfirst]
      exact ⟨fun piece hpiece => absurd hpiece List.not_mem_nil, hfirst⟩
    | case2 source piece after hfirst ih =>
      obtain ⟨-, honly⟩ := (Piece.first?_eq_some_iff_onlyAtEnd hopening hclosing).1 hfirst
      rw [of_eq_of_some hfirst]
      exact ⟨List.forall_mem_cons.2 ⟨honly, ih.1⟩, ih.2⟩
  exact ⟨source_eq opening closing source, fun piece hpiece => (hall.1 piece hpiece).1,
    fun piece hpiece => (hall.1 piece hpiece).2, (Piece.first?_eq_none_iff hopening hclosing).1 hall.2⟩

/-- There is no other way to cut the source. -/
theorem Leftmost.eq_of (hopening : opening ≠ []) (hclosing : closing ≠ []) {cutting : Cutting}
    (hleftmost : Leftmost opening closing source cutting) :
    cutting = of opening closing source := by
  obtain ⟨pieces, rest⟩ := cutting
  induction pieces generalizing source with
  | nil =>
    obtain rfl : source = rest := hleftmost.whole
    rw [of_eq_of_none ((Piece.first?_eq_none_iff hopening hclosing).2 hleftmost.rest)]
  | cons piece pieces ih =>
    have hfirst : Piece.first? opening closing source = some (piece,
        pieces.flatMap (Piece.text opening closing) ++ rest) := by
      refine (Piece.first?_eq_some_iff_onlyAtEnd hopening hclosing).2 ⟨?_, ?_, ?_⟩
      · rw [hleftmost.whole, List.flatMap_cons, List.append_assoc]
      · exact hleftmost.gap piece List.mem_cons_self
      · exact hleftmost.content piece List.mem_cons_self
    have hrest := ih ⟨rfl, fun other hother => hleftmost.gap other (List.mem_cons_of_mem _ hother),
      fun other hother => hleftmost.content other (List.mem_cons_of_mem _ hother), hleftmost.rest⟩
    rw [of_eq_of_some hfirst, ← hrest]
    rfl

end Cutting

/-- Where the search for the next block of a source begins, and the line there. -/
structure Scanner where
  opening : List Char
  closing : List Char
  source : List Char
  position : Nat
  line : Nat

namespace Scanner

/-- How many characters stand before the first occurrence of a marker. -/
def find? (marker text : List Char) : Option Nat :=
  (breakOn marker text).map (·.1.length)

def start (delimiters : Delimiters) (source : String) : Scanner where
  opening := delimiters.opening.toList
  closing := delimiters.closing.toList
  source := source.toList
  position := 0
  line := 1

/-- The next block, if there is one, and the scanner behind it. -/
def next (scanner : Scanner) : Option Block × Scanner :=
  if scanner.opening = [] ∨ scanner.closing = [] then (none, scanner)
  else
    let ahead := scanner.source.drop scanner.position
    match find? scanner.opening ahead with
    | none => (none, scanner)
    | some opened =>
      let line := scanner.line + lineFeeds (ahead.take opened)
      let inside := scanner.position + opened + scanner.opening.length
      let behind := scanner.source.drop inside
      match find? scanner.closing behind with
      | none => (none, { scanner with line })
      | some closed =>
        let content := behind.take closed
        (some ⟨dedent content, line⟩,
          { scanner with
            position := inside + closed + scanner.closing.length
            line := line + lineFeeds content })

def advance (scanner : Scanner) : Scanner := scanner.next.2

/-- What the scanner gives when it is asked for a block after so many others. -/
def output (scanner : Scanner) (number : Nat) : Option Block :=
  (advance^[number] scanner).next.1

theorem find?_eq_none_iff {marker text : List Char} :
    find? marker text = none ↔ breakOn marker text = none :=
  Option.map_eq_none_iff

section Found

variable {marker text before after : List Char}

theorem find?_of_breakOn (hfound : breakOn marker text = some (before, after)) :
    find? marker text = some before.length := by
  rw [find?, hfound, Option.map_some]

theorem take_of_breakOn (hfound : breakOn marker text = some (before, after)) :
    text.take before.length = before := by
  rw [breakOn_eq_some hfound, List.append_assoc, List.take_left]

theorem drop_of_breakOn {position : Nat}
    (hfound : breakOn marker (text.drop position) = some (before, after)) :
    text.drop (position + before.length + marker.length) = after := by
  rw [Nat.add_assoc, ← List.drop_drop, breakOn_eq_some hfound, ← List.length_append, List.drop_left]

end Found

variable {scanner : Scanner} {piece : Piece} {after : List Char}

/-- The scanner goes to the end of the first block ahead of it. -/
theorem next_of_first? (hfirst : Piece.first? scanner.opening scanner.closing
      (scanner.source.drop scanner.position) = some (piece, after)) :
    scanner.next =
        (some ⟨dedent piece.content, scanner.line + lineFeeds piece.gap⟩,
          { scanner with
            position := scanner.position + (piece.text scanner.opening scanner.closing).length
            line := scanner.line + piece.lineFeeds }) ∧
      scanner.source.drop
        (scanner.position + (piece.text scanner.opening scanner.closing).length) = after := by
  obtain ⟨hopening, hclosing, behind, hfound, hended⟩ := Piece.first?_eq_some_iff.1 hfirst
  have hmarkers : ¬ (scanner.opening = [] ∨ scanner.closing = []) := not_or.2 ⟨hopening, hclosing⟩
  constructor
  · rw [next, if_neg hmarkers]
    simp only [find?_of_breakOn hfound, take_of_breakOn hfound, drop_of_breakOn hfound,
      find?_of_breakOn hended, take_of_breakOn hended]
    simp only [Piece.text, Piece.lineFeeds, List.length_append, Nat.add_assoc]
  · rw [← List.drop_drop, Piece.eq_of_first?_eq_some hfirst, List.drop_left]

/-- With no complete block ahead of it the scanner gives none, and stays. -/
theorem next_of_first?_eq_none (hfirst : Piece.first? scanner.opening scanner.closing
      (scanner.source.drop scanner.position) = none) :
    scanner.next.1 = none ∧ ∃ line, scanner.next.2 = { scanner with line } := by
  unfold next
  split
  · exact ⟨rfl, scanner.line, rfl⟩
  · next hmarkers =>
    rw [Piece.first?, if_neg hmarkers, Option.bind_eq_none_iff] at hfirst
    rcases hfound : breakOn scanner.opening (scanner.source.drop scanner.position)
      with _ | ⟨gap, behind⟩
    · simp only [find?_eq_none_iff.2 hfound]
      exact ⟨trivial, scanner.line, rfl⟩
    · have hended := Option.map_eq_none_iff.1 (hfirst (gap, behind) hfound)
      simp only [find?_of_breakOn hfound, drop_of_breakOn hfound, find?_eq_none_iff.2 hended]
      exact ⟨trivial, _, rfl⟩

/-- Asked again and again, the scanner gives the blocks of what is ahead of it, and none any more when
it has given the last one. -/
theorem output_eq_getElem? (scanner : Scanner) (number : Nat) :
    scanner.output number =
      (ofPieces scanner.line (Cutting.of scanner.opening scanner.closing
        (scanner.source.drop scanner.position)).pieces)[number]? := by
  -- On the number of blocks that were given before, for any scanner: the first of them moves it.
  induction number generalizing scanner with
  | zero =>
    change scanner.next.1 = _
    rcases hfirst : Piece.first? scanner.opening scanner.closing
        (scanner.source.drop scanner.position) with _ | ⟨piece, after⟩
    · rw [(next_of_first?_eq_none hfirst).1, Cutting.of_eq_of_none hfirst]
      rfl
    · rw [(next_of_first? hfirst).1, Cutting.of_eq_of_some hfirst]
      rfl
  | succ number ih =>
    have hstep : scanner.output (number + 1) = scanner.advance.output number := by
      rw [output, Function.iterate_succ_apply, output]
    rw [hstep, ih, advance]
    rcases hfirst : Piece.first? scanner.opening scanner.closing
        (scanner.source.drop scanner.position) with _ | ⟨piece, after⟩
    -- The line may have changed in a search that failed, but no block is ahead to be put there.
    · obtain ⟨line, hstays⟩ := (next_of_first?_eq_none hfirst).2
      rw [hstays, Cutting.of_eq_of_none hfirst]
      rfl
    · obtain ⟨hnext, hafter⟩ := next_of_first? hfirst
      rw [hnext, Cutting.of_eq_of_some hfirst]
      dsimp only
      rw [hafter]
      rfl

theorem output_start (delimiters : Delimiters) (source : String) (number : Nat) :
    (start delimiters source).output number = (scan delimiters source)[number]? := by
  rw [output_eq_getElem?, scan_eq_ofPieces]
  rfl

end Scanner

namespace Block

theorem text_ofPieces (line : Nat) (pieces : List Piece) :
    (ofPieces line pieces).map (·.text) = pieces.map fun piece => dedent piece.content := by
  induction pieces generalizing line with
  | nil => rfl
  | cons piece pieces ih => rw [ofPieces, List.map_cons, List.map_cons, ih]

/-- **The blocks are those from left to right.** With markers that are not empty there is exactly one
way to cut a source at its blocks from left to right, and the blocks are the dedented contents of that
one. With an empty marker there are none. A scanner that is asked for one block after the other gives
just these, and then no further one however often it is asked. -/
theorem scan_leftmost (delimiters : Delimiters) (source : String) :
    (delimiters.opening ≠ "" → delimiters.closing ≠ "" →
      ∃ cutting : Cutting,
        (∀ other : Cutting, other.Leftmost delimiters.opening.toList delimiters.closing.toList
          source.toList ↔ other = cutting) ∧
        (scan delimiters source).map (·.text) =
          cutting.pieces.map fun piece => dedent piece.content) ∧
    (delimiters.opening = "" ∨ delimiters.closing = "" → scan delimiters source = []) ∧
    ∀ number, (Scanner.start delimiters source).output number =
      (scan delimiters source)[number]? := by
  refine ⟨fun hopening hclosing => ?_, fun hempty => ?_, Scanner.output_start delimiters source⟩
  · have hopening : delimiters.opening.toList ≠ [] := mt String.toList_eq_nil_iff.1 hopening
    have hclosing : delimiters.closing.toList ≠ [] := mt String.toList_eq_nil_iff.1 hclosing
    refine ⟨_, fun other => ⟨Cutting.Leftmost.eq_of hopening hclosing, ?_⟩, ?_⟩
    · rintro rfl
      exact Cutting.leftmost_of hopening hclosing source.toList
    · rw [scan_eq_ofPieces, text_ofPieces]
  · have hmarkers : delimiters.opening.toList = [] ∨ delimiters.closing.toList = [] :=
      hempty.imp String.toList_eq_nil_iff.2 String.toList_eq_nil_iff.2
    rw [scan_eq_ofPieces, Cutting.of_eq_of_none (by rw [Piece.first?, if_pos hmarkers]), ofPieces]

/-- A run of four quotes, of which three open a block, and a run of six, of which three close it and
the others open another one that is not closed. -/
def quoteRuns : String := "x\"\"\"\"a\"\"\"\"\"\"\nb"

theorem scan_quoteRuns :
    Settings.standardDelimiters.opening ≠ "" ∧ Settings.standardDelimiters.closing ≠ "" ∧
      Cutting.Leftmost "\"\"\"".toList "\"\"\"".toList quoteRuns.toList
        ⟨[⟨['x'], ['"', 'a']⟩], "\"\"\"\nb".toList⟩ ∧
      (scan Settings.standardDelimiters quoteRuns).map (·.text) = [['"', 'a']] ∧
      scan ⟨"", "\"\"\""⟩ quoteRuns = [] := by
  have hmarkers : Settings.standardDelimiters.opening ≠ "" ∧
      Settings.standardDelimiters.closing ≠ "" := by decide
  have hgap : breakOn "\"\"\"".toList "x\"\"\"".toList = some (['x'], []) := by decide
  have hcontent : breakOn "\"\"\"".toList "\"a\"\"\"".toList = some (['"', 'a'], []) := by decide
  have hleftmost : Cutting.Leftmost "\"\"\"".toList "\"\"\"".toList quoteRuns.toList
      ⟨[⟨['x'], ['"', 'a']⟩], "\"\"\"\nb".toList⟩ := by
    refine ⟨by decide, ?_, ?_, Or.inr ⟨[], ['\n', 'b'], by decide, onlyAtEnd_nil _, ?_⟩⟩
    · exact List.forall_mem_singleton.2 (breakOn_eq_some_iff.1 hgap).2
    · exact List.forall_mem_singleton.2 (breakOn_eq_some_iff.1 hcontent).2
    · exact breakOn_eq_none_iff.1 (by decide)
  obtain ⟨cutting, hunique, htexts⟩ :=
    (scan_leftmost Settings.standardDelimiters quoteRuns).1 hmarkers.1 hmarkers.2
  obtain rfl := (hunique _).1 hleftmost
  refine ⟨hmarkers.1, hmarkers.2, hleftmost, ?_, ?_⟩
  · rw [htexts]
    decide +kernel
  · exact (scan_leftmost ⟨"", "\"\"\""⟩ quoteRuns).2.1 (Or.inl rfl)

end Block

end ApiManual
