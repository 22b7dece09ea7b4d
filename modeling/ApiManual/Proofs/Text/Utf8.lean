import ApiManual.Text.Utf8
import Mathlib.Tactic.IntervalCases

/-!
# Texts in bytes that may not be UTF-8

A byte below 128 is read as its character wherever no sequence is under way. A sequence gives a code
point from 128 on, or breaks off and gives the replacement character. So a text of one ASCII
character repeated comes from the bytes of that character alone, whatever else the bytes may hold.

A text that was written as UTF-8 is read back. Bytes that are no UTF-8 may be read as the same text as
others, since the replacement character does not tell what it stands for.
-/

namespace ApiManual.Text

/-- Whatever bytes are still read, the code point is 128 or greater. With more than one byte missing
it is enough that the next step leaves two or more, because every step multiplies by 64. -/
def PartialCode.BeyondAscii (pending : PartialCode) : Prop :=
  if pending.missing ≤ 1 then 0x80 ≤ pending.code * 0x40 + (pending.low - 0x80)
  else 2 ≤ pending.code * 0x40 + (pending.low - 0x80)

theorem beginCode_of_lt {byte : Nat} (hascii : byte < 0x80) :
    beginCode byte = some (.inl (Char.ofNat byte)) := by
  rw [beginCode, if_pos hascii]

theorem beyondAscii_of_beginCode {byte : Nat} {begun : PartialCode}
    (hbegin : beginCode byte = some (.inr begun)) : begun.BeyondAscii := by
  unfold beginCode at hbegin
  unfold PartialCode.BeyondAscii
  repeat' split at hbegin
  all_goals cases hbegin
  all_goals simp
  all_goals omega

theorem lt_of_beginCode {byte : Nat} {c : Char} (hbegin : beginCode byte = some (.inl c)) :
    byte < 0x80 := by
  unfold beginCode at hbegin
  repeat' split at hbegin
  all_goals cases hbegin
  assumption

theorem toNat_ofNat {code : Nat} (hvalid : code.isValidChar) : (Char.ofNat code).toNat = code := by
  rw [Char.ofNat, dif_pos hvalid]
  rfl

variable {c : Char}

/-- What is no code point is read as the character zero, which no sequence stands for. -/
theorem ofNat_ne_of_le {code : Nat} (hcode : 0x80 ≤ code) (hascii : c.toNat < 0x80)
    (hzero : c ≠ '\x00') : Char.ofNat code ≠ c := by
  rintro rfl
  by_cases hvalid : code.isValidChar
  · rw [toNat_ofNat hvalid] at hascii
    omega
  · exact hzero (dif_neg hvalid)

theorem replacement_ne (hascii : c.toNat < 0x80) : replacement ≠ c := by
  rintro rfl
  exact absurd hascii (by decide)

/-- A sequence that is under way gives a character that is not ASCII before anything else. -/
theorem exists_ne_of_pending {pending : PartialCode} (hbeyond : pending.BeyondAscii)
    (hascii : c.toNat < 0x80) (hzero : c ≠ '\x00') (bytes : List UInt8) :
    ∃ d ∈ decodeLossyFrom (some pending) bytes, d ≠ c := by
  induction bytes generalizing pending with
  | nil => exact ⟨replacement, List.mem_singleton_self replacement, replacement_ne hascii⟩
  | cons byte rest ih =>
    obtain ⟨missing, low, high, code⟩ := pending
    unfold PartialCode.BeyondAscii at hbeyond
    dsimp only at hbeyond
    rw [decodeLossyFrom]
    dsimp only
    split
    · next hrange =>
      split
      · next hlast =>
        rw [if_pos hlast] at hbeyond
        exact ⟨_, List.mem_cons_self, ofNat_ne_of_le (by omega) hascii hzero⟩
      · next hmore =>
        rw [if_neg hmore] at hbeyond
        refine ih ?_
        unfold PartialCode.BeyondAscii
        dsimp only
        split <;> omega
    · exact ⟨replacement, List.mem_cons_self, replacement_ne hascii⟩

/-- **A text of one ASCII character comes from the byte of that character alone.** -/
theorem decodeLossy_forall_iff (hascii : c.toNat < 0x80) (hzero : c ≠ '\x00') (bytes : List UInt8) :
    (∀ d ∈ decodeLossy bytes, d = c) ↔ ∀ byte ∈ bytes, byte.toNat = c.toNat := by
  unfold decodeLossy
  induction bytes with
  | nil => simp [decodeLossyFrom]
  | cons byte rest ih =>
    rw [decodeLossyFrom, List.forall_mem_cons]
    by_cases hbyte : byte.toNat < 0x80
    · have hsame : Char.ofNat byte.toNat = c ↔ byte.toNat = c.toNat := by
        refine ⟨?_, fun hsame => by rw [hsame, Char.ofNat_toNat]⟩
        rintro rfl
        exact (toNat_ofNat (Or.inl (by omega))).symm
      rw [beginCode_of_lt hbyte]
      dsimp only
      rw [List.forall_mem_cons, hsame, ih]
    · refine iff_of_false (fun hall => ?_) (fun hall => hbyte (hall.1 ▸ hascii))
      cases hbegin : beginCode byte.toNat with
      | none =>
        rw [hbegin] at hall
        exact replacement_ne hascii (hall replacement List.mem_cons_self)
      | some first =>
        rw [hbegin] at hall
        cases first with
        | inl d => exact hbyte (lt_of_beginCode hbegin)
        | inr begun =>
          obtain ⟨d, hd, hne⟩ :=
            exists_ne_of_pending (beyondAscii_of_beginCode hbegin) hascii hzero rest
          exact hne (hall d hd)

/-! ### Reading what was written -/

/-- A byte in the range that is expected gives six bits more. -/
theorem decodeLossyFrom_pending {missing low high code : Nat} {byte : UInt8}
    (hlow : low ≤ byte.toNat) (hhigh : byte.toNat ≤ high) (rest : List UInt8) :
    decodeLossyFrom (some ⟨missing, low, high, code⟩) (byte :: rest) =
      if missing ≤ 1 then
        Char.ofNat (code * 0x40 + (byte.toNat - 0x80)) :: decodeLossyFrom none rest
      else
        decodeLossyFrom (some ⟨missing - 1, 0x80, 0xBF, code * 0x40 + (byte.toNat - 0x80)⟩) rest := by
  rw [decodeLossyFrom]
  dsimp only
  rw [if_pos ⟨hlow, hhigh⟩]

theorem decodeLossyFrom_begun {byte : UInt8} {begun : PartialCode}
    (hbegin : beginCode byte.toNat = some (.inr begun)) (rest : List UInt8) :
    decodeLossyFrom none (byte :: rest) = decodeLossyFrom (some begun) rest := by
  rw [decodeLossyFrom, hbegin]

/-- The bits of a code point in the byte that holds them, above a mark that tells what byte it is. -/
theorem toNat_marked {bits bound mark : Nat} (hbits : bits < bound) (hmark : bound + mark ≤ 256) :
    (UInt8.ofNat (bits + mark)).toNat = bits + mark := by
  rw [UInt8.toNat_ofNat']
  omega

theorem decodeLossyFrom_continued {missing low high code bits : Nat} (hbits : bits < 64)
    (hlow : low ≤ bits + 128) (hhigh : bits + 128 ≤ high) (rest : List UInt8) :
    decodeLossyFrom (some ⟨missing, low, high, code⟩) (UInt8.ofNat (bits + 128) :: rest) =
      if missing ≤ 1 then Char.ofNat (code * 64 + bits) :: decodeLossyFrom none rest
      else decodeLossyFrom (some ⟨missing - 1, 0x80, 0xBF, code * 64 + bits⟩) rest := by
  have hbyte : (UInt8.ofNat (bits + 128)).toNat = bits + 128 := toNat_marked hbits (by decide)
  rw [decodeLossyFrom_pending (by rwa [hbyte]) (by rwa [hbyte]), hbyte, Nat.add_sub_cancel]

section Sequences

variable {a b c d : Nat}

theorem decodeLossyFrom_two (hone : 2 ≤ a) (ha : a < 32) (hb : b < 64) (rest : List UInt8) :
    decodeLossyFrom none (UInt8.ofNat (a + 192) :: UInt8.ofNat (b + 128) :: rest) =
      Char.ofNat (a * 64 + b) :: decodeLossyFrom none rest := by
  have hbegin : beginCode (UInt8.ofNat (a + 192)).toNat = some (.inr ⟨1, 0x80, 0xBF, a⟩) := by
    rw [toNat_marked ha (by decide), beginCode, if_neg (by omega), if_pos (by omega),
      Nat.add_sub_cancel]
  rw [decodeLossyFrom_begun hbegin, decodeLossyFrom_continued hb (by omega) (by omega),
    if_pos (by decide)]

/-- Three bytes may not hold what two could, nor a surrogate. -/
theorem decodeLossyFrom_three (ha : a < 16) (hb : b < 64) (hc : c < 64) (htwo : a = 0 → 32 ≤ b)
    (hsurrogate : a = 13 → b < 32) (rest : List UInt8) :
    decodeLossyFrom none
        (UInt8.ofNat (a + 224) :: UInt8.ofNat (b + 128) :: UInt8.ofNat (c + 128) :: rest) =
      Char.ofNat ((a * 64 + b) * 64 + c) :: decodeLossyFrom none rest := by
  have hbegin : beginCode (UInt8.ofNat (a + 224)).toNat =
      some (.inr ⟨2, if a = 0 then 0xA0 else 0x80, if a = 13 then 0x9F else 0xBF, a⟩) := by
    rw [toNat_marked ha (by decide)]
    interval_cases a <;> rfl
  rw [decodeLossyFrom_begun hbegin,
    decodeLossyFrom_continued hb (by split <;> omega) (by split <;> omega), if_neg (by decide),
    decodeLossyFrom_continued hc (by omega) (by omega), if_pos (by decide)]

/-- Four bytes may not hold what three could, nor what is no code point. -/
theorem decodeLossyFrom_four (ha : a < 5) (hb : b < 64) (hc : c < 64) (hd : d < 64)
    (hthree : a = 0 → 16 ≤ b) (hlast : a = 4 → b < 16) (rest : List UInt8) :
    decodeLossyFrom none
        (UInt8.ofNat (a + 240) :: UInt8.ofNat (b + 128) :: UInt8.ofNat (c + 128) ::
          UInt8.ofNat (d + 128) :: rest) =
      Char.ofNat (((a * 64 + b) * 64 + c) * 64 + d) :: decodeLossyFrom none rest := by
  have hbegin : beginCode (UInt8.ofNat (a + 240)).toNat =
      some (.inr ⟨3, if a = 0 then 0x90 else 0x80, if a = 4 then 0x8F else 0xBF, a⟩) := by
    rw [toNat_marked ha (by decide)]
    interval_cases a <;> rfl
  rw [decodeLossyFrom_begun hbegin,
    decodeLossyFrom_continued hb (by split <;> omega) (by split <;> omega), if_neg (by decide),
    decodeLossyFrom_continued hc (by omega) (by omega), if_neg (by decide),
    decodeLossyFrom_continued hd (by omega) (by omega), if_pos (by decide)]

end Sequences

theorem decodeLossyFrom_utf8EncodeChar (c : Char) (rest : List UInt8) :
    decodeLossyFrom none (String.utf8EncodeChar c ++ rest) = c :: decodeLossyFrom none rest := by
  have hvalid : c.val.toNat.isValidChar := c.valid
  have hchar : Char.ofNat c.val.toNat = c := Char.ofNat_toNat c
  unfold Nat.isValidChar at hvalid
  unfold String.utf8EncodeChar
  dsimp only
  generalize c.val.toNat = code at hvalid hchar ⊢
  subst hchar
  split
  · next hone =>
    have hbyte : (UInt8.ofNat code).toNat = code := by
      rw [UInt8.toNat_ofNat']
      omega
    rw [List.singleton_append, decodeLossyFrom, hbyte, beginCode_of_lt (by omega)]
  split
  · next htwo =>
    refine (decodeLossyFrom_two (by omega) (by omega) (by omega) rest).trans ?_
    congr 2
    omega
  split
  · next hthree =>
    refine (decodeLossyFrom_three (by omega) (by omega) (by omega) (by omega) (by omega)
      rest).trans ?_
    congr 2
    omega
  · next hfour =>
    refine (decodeLossyFrom_four (by omega) (by omega) (by omega) (by omega) (by omega) (by omega)
      rest).trans ?_
    congr 2
    omega

/-- **A text is read back from its bytes.** -/
theorem decodeLossy_utf8Bytes (text : List Char) : decodeLossy (utf8Bytes text) = text := by
  unfold decodeLossy utf8Bytes
  induction text with
  | nil => rfl
  | cons c text ih => rw [List.flatMap_cons, decodeLossyFrom_utf8EncodeChar, ih]

end ApiManual.Text
