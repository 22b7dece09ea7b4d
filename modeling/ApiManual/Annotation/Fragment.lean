import ApiManual.Keyed
import ApiManual.Text.Blank

/-!
# Fragments

A block that starts with `@apiDefine` declares a named fragment: lines of annotation that any endpoint
can use. Fragments are known by their names; a later one takes the place of an earlier one.
-/

namespace ApiManual

structure Fragment where
  name : String
  title : Option String
  description : Option String
  /-- The lines to be spliced in, each ended by a line feed. -/
  content : List Char
deriving DecidableEq, Repr

namespace Fragment

open Text

/-- Lines that begin with a space or a tab belong to the description. -/
def continues (line : List Char) : Bool :=
  match line with
  | c :: _ => c = ' ' || c = '\t'
  | [] => false

/-- The description: the words after the title and the lines that go on with it. -/
def describe (firstWords : List (List Char)) (lines : List (List Char)) : Option String :=
  let first := List.intercalate [' '] firstWords
  (content? (unlines (first :: (lines.filter continues).map trim))).map String.ofList

/-- Reads a block as a fragment; nothing when it declares none or gives no name. -/
def ofBlock? (block : List Char) : Option Fragment :=
  match lines (trimStart block) with
  | [] => none
  | header :: rest =>
    match words header with
    | tag :: name :: others =>
      if tag = "@apiDefine".toList then
        some {
          name := String.ofList name
          title := others.head?.map String.ofList
          description := describe others.tail rest
          content := (rest.filter (!continues ·)).flatMap (· ++ ['\n']) }
      else none
    | _ => none

end Fragment

abbrev FragmentTable := Keyed Fragment.name

end ApiManual
