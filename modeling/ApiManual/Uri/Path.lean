import ApiManual.Uri.Host

/-!
# Paths of URIs

The path of an absolute URI in normal form: dot segments are resolved, and characters that a path may
not hold are escaped. A URI is read leniently, as browsers read it: blanks around it, tabs and line
breaks in it do not count, and under the schemes of the web a backslash is a slash and any number of
slashes may follow the scheme.
-/

namespace ApiManual.Uri

open Text

inductive UriFault where
  /-- It does not start with a scheme. -/
  | noScheme
  /-- Its host or its port is none. -/
  | badAuthority
deriving DecidableEq, Repr

inductive SchemeKind where
  | web
  | file
  | other
deriving DecidableEq, Repr

def SchemeKind.ofName (name : List Char) : SchemeKind :=
  match String.ofList (name.map Char.toLower) with
  | "http" | "https" | "ws" | "wss" | "ftp" => .web
  | "file" => .file
  | _ => .other

def isSchemeChar (c : Char) : Bool :=
  c.isAlphanum || c = '+' || c = '-' || c = '.'

/-- The scheme a URI starts with, and the text after its colon. -/
def takeScheme (text : List Char) : Option (List Char × List Char) :=
  let name := text.takeWhile isSchemeChar
  match name, text.drop name.length with
  | c :: _, ':' :: rest => if c.isAlpha then some (name, rest) else none
  | _, _ => none

/-- The text without controls and spaces at its ends and without tabs and line breaks. -/
def cleaned (text : List Char) : List Char :=
  let isOuter (c : Char) : Bool := c.toNat ≤ 0x20
  let trimmed := ((text.dropWhile isOuter).reverse.dropWhile isOuter).reverse
  trimmed.filter fun c => c ≠ '\t' && c ≠ '\n' && c ≠ '\r'

def isSlash (kind : SchemeKind) (c : Char) : Bool :=
  c = '/' || (c = '\\' && kind ≠ .other)

def endsPath (c : Char) : Bool := c = '?' || c = '#'

def isControl (c : Char) : Bool := c.toNat < 0x20 || c = '\x7f'

/-- Characters that are escaped in a path. -/
def isReservedInPath (c : Char) : Bool :=
  isControl c || " \"<>`#?{}".toList.contains c

/-- A segment in which escaped full stops are full stops again, as far as dot segments go. -/
def dots (segment : List Char) : List Char :=
  match segment with
  | '%' :: '2' :: e :: rest => if e = 'e' ∨ e = 'E' then '.' :: dots rest else segment
  | c :: rest => c :: dots rest
  | [] => []

/-- A letter and a colon or bar, the name of a drive. -/
def isDrive (segment : List Char) : Bool :=
  match segment with
  | [letter, mark] => letter.isAlpha && (mark = ':' || mark = '|')
  | _ => false

/-- The segments without the last one; a drive at the start of a file's path stays. -/
def shortened (kind : SchemeKind) (done : List (List Char)) : List (List Char) :=
  if kind = .file ∧ done.length = 1 ∧ done.any isDrive then done else done.dropLast

/-- Resolves dot segments. A dot segment at the end leaves an empty segment. -/
def resolve (kind : SchemeKind) (done : List (List Char)) : List (List Char) → List (List Char)
  | [] => done
  | segment :: rest =>
    let tail := if rest.isEmpty then [[]] else []
    if dots segment = ['.', '.'] then resolve kind (shortened kind done ++ tail) rest
    else if dots segment = ['.'] then resolve kind (done ++ tail) rest
    else
      let written :=
        if kind = .file ∧ isDrive segment ∧ done.all (·.isEmpty) then segment.take 1 ++ [':']
        else percentEncode isReservedInPath segment
      resolve kind (done ++ [written]) rest

/-- The path of segments after a slash. -/
def rooted (kind : SchemeKind) (text : List Char) : List Char :=
  let segments := resolve kind [] (text.splitOnP (isSlash kind))
  let segments :=
    if kind = .file then
      let kept := segments.dropWhile (·.isEmpty)
      if kept.isEmpty then [[]] else kept
    else segments
  '/' :: List.intercalate ['/'] segments

/-- The path that a text starts with, up to a question mark or a number sign. -/
def pathText (text : List Char) : List Char := text.takeWhile (!endsPath ·)

/-- The text after a user's name and password, and whether there was anything of these. -/
def withoutUser (authority : List Char) : Bool × List Char :=
  if authority.contains '@' then
    let reversed := authority.reverse
    let host := (reversed.takeWhile (· ≠ '@')).reverse
    let user := ((reversed.dropWhile (· ≠ '@')).drop 1).reverse
    (user ≠ [] && user ≠ [':'], host)
  else (false, authority)

/-- The host up to a colon that stands outside square brackets, and the port after it. -/
def hostAndPort (inBrackets : Bool) : List Char → List Char × Option (List Char)
  | [] => ([], none)
  | c :: rest =>
    if c = ':' ∧ !inBrackets then ([], some rest)
    else
      let inBrackets := if c = '[' then true else if c = ']' then false else inBrackets
      let (host, port) := hostAndPort inBrackets rest
      (c :: host, port)

def isPort (digits : List Char) : Bool :=
  digits.all isDecimal && decimalValue digits ≤ 65535

/-- An authority that a URI of this kind may have. -/
def isAuthority (domain? : DomainReading) (kind : SchemeKind) (authority : List Char) : Bool :=
  let (hasUser, rest) := withoutUser authority
  let (host, port) := hostAndPort false rest
  let hostFits :=
    match kind with
    | .web => isWebHost domain? host
    | _ => isOtherHost host && !(host.isEmpty && (hasUser || port.isSome))
  hostFits && isPort (port.getD [])

/-- The path after a double slash. An at sign alone is no authority that a path can follow. -/
def afterAuthority (domain? : DomainReading) (kind : SchemeKind) (text : List Char) :
    Except UriFault (List Char) :=
  let isEnd (c : Char) : Bool := isSlash kind c || endsPath c
  let authority := text.takeWhile (!isEnd ·)
  let rest := text.dropWhile (!isEnd ·)
  if isAuthority domain? kind authority ∧ (authority = ['@'] → rest = []) then
    match pathText rest with
    | [] => .ok (if kind = .other then [] else ['/'])
    | _ :: segments => .ok (rooted kind segments)
  else .error .badAuthority

/-- The path of a file. A host in front of it is checked and left out, a drive is part of the path. -/
def filePath (domain? : DomainReading) (text : List Char) : Except UriFault (List Char) :=
  match text with
  | a :: b :: rest =>
    if isSlash .file a && isSlash .file b then
      let host := rest.takeWhile fun c => !(isSlash .file c || endsPath c)
      if isDrive host then .ok (rooted .file (pathText rest))
      else if host.isEmpty || isWebHost domain? host then
        .ok (rooted .file (pathText (rest.drop host.length)))
      else .error .badAuthority
    else .ok (rooted .file (pathText text))
  | _ => .ok (rooted .file (pathText text))

/-- The path of a URI. A URI of another scheme without a slash has an opaque path, kept as it is except
for controls and characters beyond ASCII. -/
def path? (domain? : DomainReading) (uri : List Char) : Except UriFault (List Char) :=
  match takeScheme (cleaned uri) with
  | none => .error .noScheme
  | some (scheme, rest) =>
    match SchemeKind.ofName scheme with
    | .web => afterAuthority domain? .web (rest.dropWhile (isSlash .web))
    | .file => filePath domain? rest
    | .other =>
      match rest with
      | '/' :: '/' :: rest => afterAuthority domain? .other rest
      | '/' :: rest => .ok (rooted .other (pathText rest))
      | opaqueText => .ok (percentEncode isControl (pathText opaqueText))

end ApiManual.Uri
