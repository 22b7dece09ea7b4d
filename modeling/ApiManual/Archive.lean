import ApiManual.Exchange.Message
import ApiManual.Host.Basic
import ApiManual.Text.Decimal
import ApiManual.Text.Utf8
import ApiManual.Workspace.Path

/-!
# The archive

Recorded exchanges are kept in a folder, one file of JSON for each. The name of a file starts with the
number of records that were there before it, so that the order of names, numbers first, is the order in
which the exchanges were recorded. Files may also be put there by hand; a file that holds no exchange
is passed over.

A folder lists its files in an order of its own. They are sorted by the texts of their names, and names
are bytes, so files whose names are the same text stay in the order in which they are listed.
-/

namespace ApiManual

open Text

/-- The name of a file, which a file system keeps as bytes. -/
structure ByteName where
  bytes : List UInt8
deriving DecidableEq, Repr

namespace ByteName

def ofText (text : String) : ByteName := ⟨utf8Bytes text.toList⟩

instance : Coe String ByteName := ⟨ofText⟩

/-- The name as a text, with replacement characters for bytes that are no UTF-8. -/
def text (name : ByteName) : String := String.ofList (decodeLossy name.bytes)

end ByteName

/-- The files that stand directly in a folder, in the order in which it lists them. -/
abbrev Listing := Keyed (fun file : ByteName × ByteArray => file.1)

/-- The files of the folder, or nothing when there is no folder. -/
structure Archive where
  files : Option Listing

namespace Archive

def missing : Archive := ⟨none⟩

def recordExtension : String := ".json"

/-- The name of a record ends in the extension, with something before it. -/
def isRecordName (name : ByteName) : Bool :=
  let extension := utf8Bytes recordExtension.toList
  extension.isSuffixOf name.bytes && extension.length < name.bytes.length

/-- The number after every number that a name can have. -/
def noNumber : Nat := 18446744073709551615

/-- The number before the first hyphen of a name. Names without a number come last. -/
def numberOf (name : String) : Nat :=
  (decimal? noNumber (cut '-' name.toList).1).getD noNumber

/-- Texts of names are ordered by number, and those of the same number as texts. -/
def precedes (a b : String) : Bool :=
  numberOf a < numberOf b || (numberOf a == numberOf b && decide (a ≤ b))

def recordNames (names : List ByteName) : List ByteName :=
  (names.filter isRecordName).mergeSort fun a b => precedes a.text b.text

def fileNames (archive : Archive) : List ByteName :=
  (archive.files.map Keyed.keys).getD []

def content? (archive : Archive) (name : ByteName) : Option ByteArray :=
  archive.files.bind fun files => (files.find? name).map (·.2)

def exchangeOf? (content : ByteArray) : Option Exchange := do
  let text ← String.fromUTF8? content
  let json ← Json.read? text
  Exchange.ofJson? json

/-- The recorded exchanges in the order of their names. -/
def exchanges (archive : Archive) : List Exchange :=
  (recordNames archive.fileNames).filterMap fun name => (archive.content? name).bind exchangeOf?

def recordCount (archive : Archive) : Nat :=
  (archive.fileNames.filter isRecordName).length

def sixDigits (n : Nat) : String :=
  let digits := toString n
  String.ofList (List.replicate (6 - digits.length) '0') ++ digits

/-- The name of the record with a number and an identifier of its own. -/
def recordName (number : Nat) (identifier : String) : String :=
  sixDigits number ++ "-" ++ identifier ++ recordExtension

/-- Puts a file into the folder, which is made if it is missing. -/
def put (archive : Archive) (name : ByteName) (content : ByteArray) : Archive :=
  ⟨some ((archive.files.getD .empty).put (name, content))⟩

/-- Records an exchange under an identifier that no other record has. Gives the archive and the name of
the new file. -/
def save (archive : Archive) (identifier : String) (exchange : Exchange) : Archive × String :=
  let name := recordName archive.recordCount identifier
  (archive.put name exchange.toJson.indented.toUTF8, name)

/-- Removes the folder with everything in it. -/
def clean (_ : Archive) : Archive := missing

/-- The archive in a folder of a host, which names its files by texts. Files that cannot be read are
left out. -/
def ofFolder {m : Type → Type} [Monad m] [Host m] (folder : String) : m Archive := do
  if ← Host.isFolder folder then
    let names := (← Host.filesIn folder).filter fun name : String => isRecordName name
    let files ← names.filterMapM fun name => do
      match ← Host.read (joinPath folder name) with
      | .ok content => return some (ByteName.ofText name, content)
      | .error _ => return none
    return ⟨some (Keyed.ofList _ files)⟩
  else return missing

end Archive

end ApiManual
