import ApiManual.Text.Blank
import ApiManual.Text.LetterCase
import ApiManual.Text.Table.Word

/-!
# Tokens of a tag

The parts of an `@api` tag are the method in braces, the path and the title. The parts of a parameter
tag are the type in braces, the group in parentheses, the name, with square brackets around it when
the parameter is optional and with its default after an equals sign, and the description. Tokens are
found by position: a bracketed token counts only if it stands before the path or name.
-/

namespace ApiManual

open Text

/-- A token of a line: the offsets of its first character and of the character after it, and the text
that counts. -/
structure Span where
  start : Nat
  stop : Nat
  text : List Char
deriving DecidableEq, Repr

namespace Span

def covers (span : Span) (offset : Nat) : Bool := span.start ≤ offset && offset < span.stop

/-- The first text between an opening and a closing bracket. -/
def bracketed? (opening closing : Char) (line : List Char) : Option Span :=
  match cut opening line with
  | (before, some rest) =>
    match cut closing rest with
    | (inner, some _) => some ⟨before.length, before.length + inner.length + 2, inner⟩
    | (_, none) => none
  | (_, none) => none

def isPathChar (c : Char) : Bool :=
  c = '-' || c = '.' || c = '~' || c = ':' || c = '{' || c = '}' || c = '/' || c = '%'
    || wordRanges.has c

/-- The first path: a slash after a blank and the path characters that follow it. `offset` is that of
the first character of the text. -/
def pathFrom? (offset : Nat) : List Char → Option Span
  | c :: '/' :: rest =>
    if isBlank c then
      let text := '/' :: rest.takeWhile isPathChar
      some ⟨offset + 1, offset + 1 + text.length, text⟩
    else pathFrom? (offset + 1) ('/' :: rest)
  | _ :: rest => pathFrom? (offset + 1) rest
  | [] => none

def path? (line : List Char) : Option Span := pathFrom? 0 line

def isNameChar (c : Char) : Bool :=
  !isBlank c && c ≠ '[' && c ≠ ']' && c ≠ '{' && c ≠ '}' && c ≠ '(' && c ≠ ')'

/-- The name a text starts with: up to the closing bracket when it opens a square bracket on the same
line, else a run of name characters. -/
def leadingName? (text : List Char) : Option (List Char) :=
  match text with
  | '[' :: rest =>
    let inner := rest.takeWhile fun c => c ≠ ']' && c ≠ '\n'
    match rest.drop inner.length with
    | ']' :: _ => some ('[' :: inner ++ [']'])
    | _ => none
  | _ =>
    let run := text.takeWhile isNameChar
    if run.isEmpty then none else some run

/-- Everything that could be a name: what follows a blank, found from left to right without overlap.
`offset` is that of the first character of the text. -/
def namesFrom (offset : Nat) : List Char → List Span
  | [] => []
  | c :: rest =>
    match isBlank c, leadingName? rest with
    | true, some name =>
      ⟨offset + 1, offset + 1 + name.length, name⟩ ::
        namesFrom (offset + 1 + name.length) (rest.drop name.length)
    | _, _ => namesFrom (offset + 1) rest
termination_by text => text.length
decreasing_by all_goals simp; try omega

end Span

def present? (text : List Char) : Option String :=
  (content? text).map String.ofList

structure ApiTokens where
  method : Option String
  path : Option String
  title : Option String
deriving DecidableEq, Repr

/-- The method counts when it ends before the path starts, so that a placeholder in the path is never
taken for it. The title is what follows the last token. -/
def ApiTokens.ofLine (line : List Char) : ApiTokens :=
  let path := Span.path? line
  let method := (Span.bracketed? '{' '}' line).filter fun braces =>
    match path with
    | some path => braces.stop ≤ path.start
    | none => true
  let titleStart := match method, path with
    | none, none => line.length
    | some method, none => method.stop
    | none, some path => path.stop
    | some method, some path => max method.stop path.stop
  { method := method.map fun braces => lowercase (String.ofList (trim braces.text))
    path := path.map fun path => String.ofList path.text
    title := present? (line.drop titleStart) }

structure ParamTokens where
  typeName : Option String
  group : Option String
  name : Option String
  optional : Bool
  default : Option String
  description : Option String
deriving DecidableEq, Repr

namespace ParamTokens

/-- What square brackets around a name contain. -/
def unwrap? : List Char → Option (List Char)
  | '[' :: rest => if rest.getLast? = some ']' then some rest.dropLast else none
  | _ => none

def trimQuotes (text : List Char) : List Char :=
  ((text.dropWhile (· == '"')).reverse.dropWhile (· == '"')).reverse

/-- The name, and the default after the first equals sign. -/
def nameAndDefault (text : List Char) : Option String × Option String :=
  let (name, default) := cut '=' text
  (present? name, default.bind fun value => present? (trimQuotes (trim value)))

/-- Type and group count when they start before the name. The description is what follows the last
token that counts, and there is none without a name. -/
def ofLine (line : List Char) : ParamTokens :=
  let braces := Span.bracketed? '{' '}' line
  let parentheses := Span.bracketed? '(' ')' line
  let outside (bracket : Option Span) (name : Span) : Bool :=
    !bracket.any fun span => span.covers name.start
  let name := (Span.namesFrom 0 line).find? fun name =>
    outside braces name && outside parentheses name
  let counts (span : Span) : Bool := name.all fun name => span.start < name.start
  let type := braces.filter counts
  let group := parentheses.filter counts
  let written := (name.map (·.text)).getD []
  let wrapped := unwrap? written
  let (given, default) := nameAndDefault (wrapped.getD written)
  let stop := max (max ((type.map (·.stop)).getD 0) ((group.map (·.stop)).getD 0))
    ((name.map (·.stop)).getD 0)
  { typeName := type.bind fun span => present? span.text
    group := group.bind fun span => present? span.text
    name := given
    optional := wrapped.isSome
    default
    description := given.bind fun _ => present? (line.drop stop) }

end ParamTokens

end ApiManual
