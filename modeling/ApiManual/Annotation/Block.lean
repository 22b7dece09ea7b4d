import ApiManual.Text.Blank

/-!
# Annotation blocks

A block is the text between an opening and a closing marker. Blocks are found from left to right, the
leftmost opening marker first and then the leftmost closing marker after it, and never overlap. A
block is dedented: the margin its lines have in common is removed, so it reads the same at any depth
of the source.
-/

namespace ApiManual

structure Delimiters where
  opening : String
  closing : String
deriving DecidableEq, Repr

/-- A dedented block and the line of its opening marker, counted from one. -/
structure Block where
  text : List Char
  line : Nat
deriving DecidableEq, Repr

namespace Block

open Text

def isIndent (c : Char) : Bool := c = ' ' || c = '\t'

def isBlankLine (line : List Char) : Bool := line.all isBlank

def indent (line : List Char) : Nat := (line.takeWhile isIndent).length

/-- The least indent of the lines that are not blank. -/
def margin (lines : List (List Char)) : Nat :=
  (((lines.filter (!isBlankLine ·)).map indent).min?).getD 0

def dedentLine (margin : Nat) (line : List Char) : List Char :=
  if isBlankLine line then [] else line.drop margin

/-- Lines of a text, each without the carriage return it may end with. -/
def textLines (text : List Char) : List (List Char) :=
  (lines text).map (stripEnd '\r')

/-- Removes the common margin of the lines that are not blank, and everything from blank lines. -/
def dedent (text : List Char) : List Char :=
  let lines := textLines text
  unlines (lines.map (dedentLine (margin lines)))

def lineFeeds (text : List Char) : Nat := text.count '\n'

/-- The blocks of a source that begins at the given line. -/
def scanFrom (opening closing : List Char) (nonempty : opening ≠ []) (line : Nat)
    (source : List Char) : List Block :=
  match _found : breakOn opening source with
  | none => []
  | some (gap, rest) =>
    match _ended : breakOn closing rest with
    | none => []
    | some (content, after) =>
      let line := line + lineFeeds gap
      ⟨dedent content, line⟩ ::
        scanFrom opening closing nonempty (line + lineFeeds content) after
termination_by source.length
decreasing_by
  have := length_of_breakOn nonempty _found
  have := length_le_of_breakOn _ended
  omega

/-- The blocks of a source. There is none when a marker is empty. -/
def scan (delimiters : Delimiters) (source : String) : List Block :=
  let opening := delimiters.opening.toList
  let closing := delimiters.closing.toList
  if nonempty : opening = [] then []
  else if closing = [] then []
  else scanFrom opening closing nonempty 1 source.toList

def trimmed (block : Block) : List Char := trimStart block.text

/-- The first word of the block announces an endpoint. -/
def announcesEndpoint (block : Block) : Bool :=
  (words block.trimmed).head? == some "@api".toList

end Block

end ApiManual
