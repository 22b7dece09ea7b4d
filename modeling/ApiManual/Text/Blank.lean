import ApiManual.Text.Ranges
import ApiManual.Text.Split

/-!
# Blank characters

Every code point with the white space property is blank: tabs and line breaks, the space, the no-break
space and the spaces of typography. Trimming and word splitting go by it.
-/

namespace ApiManual.Text

def blankRanges : Ranges :=
  [(0x9, 0xd), (0x20, 0x20), (0x85, 0x85), (0xa0, 0xa0), (0x1680, 0x1680), (0x2000, 0x200a),
    (0x2028, 0x2029), (0x202f, 0x202f), (0x205f, 0x205f), (0x3000, 0x3000)]

def isBlank (c : Char) : Bool :=
  blankRanges.has c

def trimStart (text : List Char) : List Char :=
  text.dropWhile isBlank

def trimEnd (text : List Char) : List Char :=
  (text.reverse.dropWhile isBlank).reverse

def trim (text : List Char) : List Char :=
  trimEnd (trimStart text)

/-- The trimmed text, or nothing when only blanks are there. -/
def content? (text : List Char) : Option (List Char) :=
  let trimmed := trim text
  if trimmed.isEmpty then none else some trimmed

/-- The maximal runs of characters that are not blank. -/
def words (text : List Char) : List (List Char) :=
  (text.splitOnP isBlank).filter (!·.isEmpty)

end ApiManual.Text
