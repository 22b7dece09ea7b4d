import ApiManual.Param
import ApiManual.Text.Blank

/-!
# Tags

Annotations consist of tags. A tag starts a line with an at sign, and the lines after it up to the
next tag go on with its text. Each tag keeps the number of its own line.
-/

namespace ApiManual

open Text

inductive Tag where
  | api
  | version
  | group
  | permission
  | description
  | param (carrier : Carrier)
  | use
deriving DecidableEq, Repr

namespace Tag

def ofName? : String → Option Tag
  | "@api" => some .api
  | "@apiVersion" => some .version
  | "@apiGroup" => some .group
  | "@apiPermission" => some .permission
  | "@apiDescription" => some .description
  | "@apiParam" => some (.param .form)
  | "@apiQueryParam" => some (.param .query)
  | "@apiUrlParam" => some (.param .url)
  | "@apiHeadParam" => some (.param .header)
  | "@apiUse" => some .use
  | _ => none

/-- The tag that a text starts with, up to its first blank, and the text after it. -/
def split? (text : List Char) : Option (Tag × List Char) :=
  (ofName? (String.ofList (text.takeWhile (!isBlank ·)))).map
    fun tag => (tag, text.dropWhile (!isBlank ·))

end Tag

/-- A tag with the lines that go on with it, and the line it is reported at. -/
structure TagLine where
  text : List Char
  line : Nat
deriving DecidableEq, Repr

namespace TagLine

def startsTag : List Char → Bool
  | '@' :: _ => true
  | _ => false

/-- A line that goes on with a tag is set off by a space and a line feed. -/
def continuation (line : List Char) : List Char := [' ', '\n'] ++ line

/-- Groups lines, of which the first one has the given offset in its block. Lines before the first tag
are dropped. -/
def group (lineOf : Nat → Nat) (offset : Nat) : List (List Char) → List TagLine
  | [] => []
  | line :: rest =>
    if startsTag line then
      let text := line ++ (rest.takeWhile (!startsTag ·)).flatMap continuation
      ⟨text, lineOf offset⟩ :: group lineOf (offset + 1) rest
    else group lineOf (offset + 1) rest

/-- The tags of a text. The line of a tag is a function of its offset in the text. -/
def ofText (lineOf : Nat → Nat) (text : List Char) : List TagLine :=
  group lineOf 0 (lines text)

end TagLine

end ApiManual
