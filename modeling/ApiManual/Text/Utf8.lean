/-!
# UTF-8 bytes

Reading bytes as text. The strict reading refuses bytes that are not well formed. The lenient one
replaces every maximal start of a sequence that cannot go on by one replacement character.
-/

namespace ApiManual.Text

/-- A sequence under way: how many bytes are missing, the range the next of them must be in, and the
code point read so far. -/
structure PartialCode where
  missing : Nat
  low : Nat
  high : Nat
  code : Nat

def replacement : Char := '\uFFFD'

/-- What a byte begins: a whole character or a sequence; nothing when no sequence begins with it. -/
def beginCode (byte : Nat) : Option (Char ⊕ PartialCode) :=
  if byte < 0x80 then some (.inl (Char.ofNat byte))
  else if 0xC2 ≤ byte ∧ byte ≤ 0xDF then some (.inr ⟨1, 0x80, 0xBF, byte - 0xC0⟩)
  else if byte = 0xE0 then some (.inr ⟨2, 0xA0, 0xBF, 0⟩)
  else if byte = 0xED then some (.inr ⟨2, 0x80, 0x9F, 0xD⟩)
  else if 0xE1 ≤ byte ∧ byte ≤ 0xEF then some (.inr ⟨2, 0x80, 0xBF, byte - 0xE0⟩)
  else if byte = 0xF0 then some (.inr ⟨3, 0x90, 0xBF, 0⟩)
  else if 0xF1 ≤ byte ∧ byte ≤ 0xF3 then some (.inr ⟨3, 0x80, 0xBF, byte - 0xF0⟩)
  else if byte = 0xF4 then some (.inr ⟨3, 0x80, 0x8F, 4⟩)
  else none

/-- Reads bytes of which some may not be UTF-8, in the middle of `pending` if there is one. -/
def decodeLossyFrom : Option PartialCode → List UInt8 → List Char
  | none, [] => []
  | some _, [] => [replacement]
  | pending, byte :: rest =>
    let fresh :=
      match beginCode byte.toNat with
      | some (.inl c) => c :: decodeLossyFrom none rest
      | some (.inr begun) => decodeLossyFrom (some begun) rest
      | none => replacement :: decodeLossyFrom none rest
    match pending with
    | none => fresh
    | some ⟨missing, low, high, code⟩ =>
      if low ≤ byte.toNat ∧ byte.toNat ≤ high then
        let code := code * 0x40 + (byte.toNat - 0x80)
        if missing ≤ 1 then Char.ofNat code :: decodeLossyFrom none rest
        else decodeLossyFrom (some ⟨missing - 1, 0x80, 0xBF, code⟩) rest
      else replacement :: fresh

def decodeLossy (bytes : List UInt8) : List Char :=
  decodeLossyFrom none bytes

def utf8Bytes (text : List Char) : List UInt8 :=
  text.flatMap String.utf8EncodeChar

end ApiManual.Text
