import ApiManual.Text.Decimal
import ApiManual.Text.Percent
import ApiManual.Text.Split

/-!
# Network addresses

Numeric addresses of hosts, as four bytes or as eight groups of sixteen bits, and their text.
-/

namespace ApiManual.Uri

open Text

def hexDigit? (c : Char) : Option Nat := hexValue? c.toNat

def hexNumber (digits : List Char) : Nat :=
  digits.foldl (fun value digit => value * 16 + (hexDigit? digit).getD 0) 0

/-- A byte in decimal without leading zeros. -/
def byte? (digits : List Char) : Option Nat :=
  if digits.isEmpty || !digits.all isDecimal || digits.length > 3 then none
  else if digits.length > 1 && digits.head? == some '0' then none
  else if decimalValue digits > 255 then none
  else some (decimalValue digits)

/-- Four bytes between full stops. -/
def fourBytes? (text : List Char) : Option (List Nat) :=
  let parts := text.splitOn '.'
  if parts.length = 4 then parts.mapM byte? else none

/-- Sixteen bits as one to four hexadecimal digits. -/
def group? (digits : List Char) : Option Nat :=
  if digits.isEmpty || digits.length > 4 || !digits.all (fun c => (hexDigit? c).isSome) then none
  else some (hexNumber digits)

/-- Groups between colons, of which the last may be four bytes. -/
def groups? (bytesAllowed : Bool) : List (List Char) → Option (List Nat)
  | [] => some []
  | [last] =>
    match group? last, bytesAllowed, fourBytes? last with
    | some group, _, _ => some [group]
    | none, true, some [a, b, c, d] => some [a * 256 + b, c * 256 + d]
    | _, _, _ => none
  | part :: rest => do
    let group ← group? part
    let others ← groups? bytesAllowed rest
    some (group :: others)

/-- The groups on one side of a double colon, where no text is no group. -/
def side? (bytesAllowed : Bool) (text : List Char) : Option (List Nat) :=
  if text.isEmpty then some [] else groups? bytesAllowed (text.splitOn ':')

/-- Eight groups. A double colon stands for one or more groups of zeros. -/
def eightGroups? (text : List Char) : Option (List Nat) :=
  match breakOn [':', ':'] text with
  | none => (side? true text).filter (·.length = 8)
  | some (left, right) => do
    let head ← side? false left
    let tail ← side? true right
    if head.length + tail.length ≤ 7 then
      some (head ++ List.replicate (8 - head.length - tail.length) 0 ++ tail)
    else none

def leadingZeros (groups : List Nat) : Nat := (groups.takeWhile (· == 0)).length

/-- The place and the length of the longest run of zeros, the first of several. -/
def longestZeros (groups : List Nat) : Nat × Nat :=
  (List.range groups.length).foldl
    (fun (place, length) start =>
      let found := leadingZeros (groups.drop start)
      if found > length then (start, found) else (place, length))
    (0, 0)

def groupText (group : Nat) : String := String.ofList (Nat.toDigits 16 group)

def joinGroups (groups : List Nat) : String := String.intercalate ":" (groups.map groupText)

/-- Eight groups as text: the longest run of two or more zeros becomes a double colon, and an address
that embeds four bytes shows them. -/
def groupsText (groups : List Nat) : String :=
  match groups with
  | [0, 0, 0, 0, 0, 0xFFFF, high, low] =>
    "::ffff:" ++ String.intercalate "."
      ([high / 256, high % 256, low / 256, low % 256].map toString)
  | _ =>
    let (place, length) := longestZeros groups
    if length > 1 then
      joinGroups (groups.take place) ++ "::" ++ joinGroups (groups.drop (place + length))
    else joinGroups groups

/-- The number of the network that follows a percent sign. -/
def zone? : Option (List Char) → Option Nat
  | none => some 0
  | some digits =>
    if digits.isEmpty || !digits.all isDecimal || decimalValue digits ≥ 4294967296 then none
    else some (decimalValue digits)

/-- A machine in numbers. The zone tells apart networks that use the same groups. -/
inductive NumericHost where
  | fourBytes (bytes : List Nat)
  | eightGroups (groups : List Nat) (zone : Nat)
deriving DecidableEq, Repr

namespace NumericHost

/-- Four bytes, or eight groups between square brackets. -/
def read? (text : List Char) : Option NumericHost :=
  match fourBytes? text, stripStart? ['['] text with
  | some bytes, _ => some (.fourBytes bytes)
  | none, some inner =>
    if inner.getLast? = some ']' then do
      let (address, digits) := cut '%' inner.dropLast
      let groups ← eightGroups? address
      let zone ← zone? digits
      return .eightGroups groups zone
    else none
  | none, none => none

/-- The address alone, without brackets. -/
def bare : NumericHost → String
  | .fourBytes bytes => String.intercalate "." (bytes.map toString)
  | .eightGroups groups zone => groupsText groups ++ if zone = 0 then "" else "%" ++ toString zone

def text (host : NumericHost) : String :=
  match host with
  | .fourBytes _ => host.bare
  | .eightGroups _ _ => "[" ++ host.bare ++ "]"

end NumericHost

structure Address where
  host : NumericHost
  port : Nat
deriving DecidableEq, Repr

def Address.text (address : Address) : String := address.host.text ++ ":" ++ toString address.port

end ApiManual.Uri
