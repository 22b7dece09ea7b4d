import ApiManual.Text.LetterCase
import ApiManual.Text.Table.Printable
import ApiManual.Uri.Address

/-!
# Hosts

Which texts are hosts. A host in square brackets is an address of eight groups. For the schemes of the
web any other host is a domain, and a domain that ends in a number is an address of four bytes. For
other schemes a host is any text without the characters that separate the parts of a URI.

Domains in ASCII without encoded labels are read exactly. Of the rules for other scripts only the common
ones are here, so what reads domains is a parameter of all that depends on it, and what is proved about
paths holds for any.
-/

namespace ApiManual.Uri

open Text

def isForbiddenInHost (c : Char) : Bool :=
  "\x00\t\n\r #/:<>?@[\\]^|".toList.contains c

def isForbiddenInDomain (c : Char) : Bool :=
  isForbiddenInHost c || c.toNat < 0x20 || c = '%' || c = '\x7f' || c = replacement

/-- Characters that a domain is read without. -/
def isIgnoredInDomain (c : Char) : Bool :=
  Ranges.has
    [(0xad, 0xad), (0x34f, 0x34f), (0x180b, 0x180d), (0x180f, 0x180f), (0x200b, 0x200b),
      (0x2060, 0x2060), (0x2064, 0x2064), (0xfe00, 0xfe0f), (0xfeff, 0xfeff),
      (0xe0100, 0xe01ef)] c

/-- The character that another one is read as in a domain: full stops of other scripts as full stops,
wide forms as narrow ones. -/
def narrowed (c : Char) : Char :=
  if c.toNat = 0x3002 ∨ c.toNat = 0xFF61 then '.'
  else if 0xFF01 ≤ c.toNat ∧ c.toNat ≤ 0xFF5E then Char.ofNat (c.toNat - 0xFF01 + 0x21)
  else if c.toNat = 0xA0 ∨ c.toNat = 0x3000 then ' '
  else c

/-- A domain in the form in which it is compared: without the characters that are ignored, narrow and in
small letters. Other characters that stand for several, as signs and ligatures do, are left as they are,
and composed and decomposed letters stay apart. -/
def mappedDomain (domain : List Char) : List Char :=
  lower ((domain.filter (!isIgnoredInDomain ·)).map narrowed)

/-- The bias of the digits of the next code point of an encoded label. -/
def adaptBias (delta count : Nat) (first : Bool) : Nat :=
  let start := if first then delta / 700 else delta / 2
  let rec shrink (delta offset : Nat) : Nat :=
    if h : delta > 455 then shrink (delta / 35) (offset + 36)
    else offset + 36 * delta / (delta + 38)
  termination_by delta
  decreasing_by omega
  shrink (start + start / count) 0

def labelDigit? (c : Char) : Option Nat :=
  if c.isLower then some (c.toNat - 0x61)
  else if isDecimal c then some (c.toNat - 0x30 + 26)
  else none

/-- Digits from this value on are followed by another digit. -/
def labelThreshold (bias k : Nat) : Nat :=
  if k ≤ bias then 1 else if k ≥ bias + 26 then 26 else k - bias

/-- Reads one number of an encoded label: `value` so far, the `weight` of the next digit, and the
position `k` that sets its threshold. -/
def takeDelta (bias value weight k : Nat) : List Char → Option (Nat × List Char)
  | [] => none
  | c :: rest => do
    let digit ← labelDigit? c
    let value := value + digit * weight
    if value ≥ 4294967296 then none
    else if digit < labelThreshold bias k then some (value, rest)
    else takeDelta bias value (weight * (36 - labelThreshold bias k)) (k + 36) rest

theorem length_takeDelta {bias value weight k result : Nat} {text rest : List Char}
    (h : takeDelta bias value weight k text = some (result, rest)) : rest.length < text.length := by
  induction text generalizing value weight k with
  | nil => simp [takeDelta] at h
  | cons c tail ih =>
    simp only [takeDelta, Option.bind_eq_bind, Option.bind_eq_some_iff] at h
    obtain ⟨digit, _, h⟩ := h
    split at h
    · simp at h
    · split at h
      · simp only [Option.some.injEq, Prod.mk.injEq] at h
        simp [← h.2]
      · have := ih h
        simp only [List.length_cons]
        omega

/-- Puts the code points that are encoded behind the last hyphen of a label into its characters. -/
def insertDeltas (code position bias : Nat) (done : List Nat) (text : List Char) :
    Option (List Nat) :=
  if text.isEmpty then some done
  else
    match _taken : takeDelta bias position 1 36 text with
    | none => none
    | some (next, rest) =>
      let count := done.length + 1
      let code := code + next / count
      let place := next % count
      if code > 0x10FFFF then none
      else
        let bias := adaptBias (next - position) count (position == 0)
        insertDeltas code (place + 1) bias (done.insertIdx place code) rest
termination_by text.length
decreasing_by exact length_takeDelta _taken

def decodeLabel? (label : List Char) : Option (List Nat) :=
  let reversed := label.reverse
  let digits := (reversed.takeWhile (· ≠ '-')).reverse
  let basic := ((reversed.dropWhile (· ≠ '-')).drop 1).reverse
  insertDeltas 0x80 0 72 (basic.map Char.toNat) digits

/-- A label that may stand in a domain. One that claims to be encoded has to stand for a text that is
not ASCII. Characters that only join others are refused wherever they stand, and the direction of writing
is not looked at. -/
def isLabel (label : List Char) : Bool :=
  let marksFirst := match label with
    | c :: _ => extenderRanges.has c
    | [] => false
  let encodedWell := match stripStart? "xn--".toList label with
    | some encoded =>
      match decodeLabel? encoded with
      | some codes =>
        codes.any (· ≥ 0x80) && codes.all fun code =>
          (code < 0xD800 || code > 0xDFFF) && !unprintableRanges.has (Char.ofNat code)
      | none => false
    | none => true
  !marksFirst && encodedWell

/-- A text in the form in which domains are compared is a domain. Beyond ASCII this is as close as the
mapping and the test of labels are. -/
def isDomain (domain : List Char) : Bool :=
  !domain.isEmpty
    && !domain.any isForbiddenInDomain
    && !domain.any (fun c => c.toNat ≥ 0x80 && unprintableRanges.has c)
    && (domain.splitOn '.').all isLabel

/-- What a text is read as when it stands for a domain, or nothing if it is none. -/
abbrev DomainReading := List Char → Option (List Char)

def webDomain? : DomainReading := fun text =>
  let domain := mappedDomain text
  if isDomain domain then some domain else none

/-- A part of an address as a number: hexadecimal after `0x`, octal after `0`, else decimal. -/
def addressPart? (part : List Char) : Option Nat :=
  match part with
  | [] => none
  | '0' :: 'x' :: rest =>
    if rest.all fun c => (hexDigit? c).isSome then some (hexNumber rest) else none
  | '0' :: digit :: rest =>
    if (digit :: rest).all fun c => '0' ≤ c && c ≤ '7' then
      some ((digit :: rest).foldl (fun value c => value * 8 + (c.toNat - 0x30)) 0)
    else none
  | digits => if digits.all isDecimal then some (decimalValue digits) else none

/-- The parts of a domain, without an empty one at the end. -/
def domainParts (domain : List Char) : List (List Char) :=
  let parts := domain.splitOn '.'
  if parts.length > 1 && parts.getLast? == some [] then parts.dropLast else parts

/-- The last part of a domain is a number, so the domain has to be an address. -/
def endsInNumber (domain : List Char) : Bool :=
  match (domainParts domain).getLast? with
  | some last =>
    !last.isEmpty && (last.all isDecimal || (addressPart? last).isSome)
  | none => false

/-- An address of up to four parts, each but the last a byte, the last filling the rest. -/
def isByteAddress (domain : List Char) : Bool :=
  let parts := domainParts domain
  match parts.mapM addressPart? with
  | some numbers =>
    numbers.length ≤ 4 && numbers.dropLast.all (· ≤ 255)
      && numbers.getLast?.any fun last => last < Nat.pow 256 (5 - numbers.length)
  | none => false

def isBracketed (host : List Char) : Bool :=
  host.getLast? == some ']' && (eightGroups? (host.drop 1).dropLast).isSome

def isWebHost (domain? : DomainReading) (host : List Char) : Bool :=
  if host.head? == some '[' then isBracketed host
  else (domain? (decodeLossy (percentDecode (utf8Bytes host)))).any fun domain =>
    !endsInNumber domain || isByteAddress domain

def isOtherHost (host : List Char) : Bool :=
  if host.head? == some '[' then isBracketed host else !host.any isForbiddenInHost

end ApiManual.Uri
