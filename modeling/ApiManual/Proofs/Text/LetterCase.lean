import ApiManual.Text.LetterCase
import Mathlib.Data.List.Basic

/-!
# Small letters stay small

Lowering a text a second time changes nothing: the small forms of the table are never themselves in
the domain of the table. Both are sets of code points, and that they have none in common is computed
on them as bit sets.
-/

namespace ApiManual.Text

/-- A row `(first, last, step, image)` of a case table. -/
abbrev CaseRow := Nat × Nat × Nat × Nat

/-- As many code points as a row has, with its step, from a given one on. -/
def spread (row : CaseRow) (start : Nat) : List Nat :=
  (List.range ((row.2.1 - row.1) / row.2.2.1 + 1)).map fun k => start + row.2.2.1 * k

def domainCodes (rows : List CaseRow) : List Nat := rows.flatMap fun row => spread row row.1

/-- The code points that the rows map to. -/
def imageCodes (rows : List CaseRow) : List Nat := rows.flatMap fun row => spread row row.2.2.2

/-- A set of code points, one bit for each. -/
def bitset (codes : List Nat) : Nat := codes.foldr (fun code bits => bits ||| 1 <<< code) 0

theorem testBit_bitset {codes : List Nat} {code : Nat} :
    (bitset codes).testBit code = true ↔ code ∈ codes := by
  induction codes with
  | nil => simp [bitset]
  | cons first rest ih =>
    have hfirst : (1 <<< first).testBit code = true ↔ code = first := by
      rw [Nat.one_shiftLeft, Nat.testBit_two_pow]
      simp [eq_comm]
    rw [show bitset (first :: rest) = bitset rest ||| 1 <<< first from rfl, Nat.testBit_or,
      Bool.or_eq_true, ih, hfirst, List.mem_cons, or_comm]

theorem loweringRows_disjoint :
    bitset (domainCodes loweringRows) &&& bitset (imageCodes loweringRows) = 0 := by
  decide +kernel

theorem not_mem_domainCodes_of_mem_imageCodes {code : Nat}
    (himage : code ∈ imageCodes loweringRows) : code ∉ domainCodes loweringRows := by
  intro hdomain
  have hbit :
      (bitset (domainCodes loweringRows) &&& bitset (imageCodes loweringRows)).testBit code =
      true := by
    rw [Nat.testBit_and, testBit_bitset.2 hdomain, testBit_bitset.2 himage, Bool.and_self]
  rw [loweringRows_disjoint, Nat.zero_testBit] at hbit
  exact Bool.false_ne_true hbit

/-- The image of a row consists of characters and does not hold the dotted capital I. -/
def isHarmless (row : CaseRow) : Bool :=
  (row.2.2.2 + (row.2.1 - row.1) < 0xd800 ||
      (0xdfff < row.2.2.2 && row.2.2.2 + (row.2.1 - row.1) < 0x110000))
    && (row.2.2.2 + (row.2.1 - row.1) < 0x130 || 0x130 < row.2.2.2)

theorem isHarmless_loweringRows : loweringRows.all isHarmless = true := by
  decide +kernel

theorem mem_spread {row : CaseRow} {code : Nat} (hlast : code ≤ row.2.1)
    (hstep : (code - row.1) % row.2.2.1 = 0) (start : Nat) :
    start + (code - row.1) ∈ spread row start := by
  refine List.mem_map.2 ⟨(code - row.1) / row.2.2.1, ?_, ?_⟩
  · rw [List.mem_range, Nat.lt_succ_iff]
    exact Nat.div_le_div_right (Nat.sub_le_sub_right hlast _)
  · rw [Nat.mul_div_cancel' (Nat.dvd_of_mod_eq_zero hstep)]

/-- A mapped code point goes to the image of its row, at the same distance. -/
theorem imageIn_eq_some {rows : List CaseRow} {code image : Nat}
    (himage : imageIn rows code = some image) :
    ∃ row ∈ rows, row.1 ≤ code ∧ code ≤ row.2.1 ∧ (code - row.1) % row.2.2.1 = 0 ∧
      image = row.2.2.2 + (code - row.1) := by
  obtain ⟨row, hrow, hsome⟩ := List.exists_of_findSome?_eq_some himage
  simp only [Option.ite_none_right_eq_some, Bool.and_eq_true, decide_eq_true_eq, beq_iff_eq,
    Option.some.injEq] at hsome
  obtain ⟨⟨⟨hfirst, hlast⟩, hstep⟩, hvalue⟩ := hsome
  exact ⟨row, hrow, hfirst, hlast, hstep, hvalue.symm⟩

theorem mem_domainCodes_of_imageIn {rows : List CaseRow} {code image : Nat}
    (himage : imageIn rows code = some image) : code ∈ domainCodes rows := by
  obtain ⟨row, hrow, hfirst, hlast, hstep, _⟩ := imageIn_eq_some himage
  have hmem := mem_spread hlast hstep row.1
  rw [Nat.add_sub_cancel' hfirst] at hmem
  exact List.mem_flatMap.2 ⟨row, hrow, hmem⟩

/-- A small form is a character, is not in the table again, and is not the dotted capital I. -/
theorem imageIn_image {code image : Nat} (himage : imageIn loweringRows code = some image) :
    imageIn loweringRows image = none ∧ image.isValidChar ∧ image ≠ 0x130 := by
  obtain ⟨row, hrow, hfirst, hlast, hstep, rfl⟩ := imageIn_eq_some himage
  constructor
  · have hmem : row.2.2.2 + (code - row.1) ∈ imageCodes loweringRows :=
      List.mem_flatMap.2 ⟨row, hrow, mem_spread hlast hstep _⟩
    rw [Option.eq_none_iff_forall_ne_some]
    intro again hagain
    exact not_mem_domainCodes_of_mem_imageCodes hmem (mem_domainCodes_of_imageIn hagain)
  · have hharmless := List.all_eq_true.1 isHarmless_loweringRows row hrow
    simp only [isHarmless, Bool.or_eq_true, Bool.and_eq_true, decide_eq_true_eq] at hharmless
    simp only [Nat.isValidChar]
    omega

/-! ### Settled characters -/

/-- A character that lowering leaves alone wherever it stands. -/
structure Settled (c : Char) : Prop where
  small : lowerChar c = [c]
  notSigma : c ≠ 'Σ'

theorem settled_toLower_ascii :
    ((List.range 0x80).all fun code =>
      lowerChar (Char.ofNat code).toLower == [(Char.ofNat code).toLower]
        && (Char.ofNat code).toLower != 'Σ') = true := by
  decide +kernel

theorem settled_toLower {c : Char} (hc : c.toNat < 0x80) : Settled c.toLower := by
  have hall := List.all_eq_true.1 settled_toLower_ascii c.toNat (List.mem_range.2 hc)
  rw [Char.ofNat_toNat, Bool.and_eq_true, beq_iff_eq, bne_iff_ne] at hall
  exact ⟨hall.1, hall.2⟩

theorem isSome_imageIn_capital :
    ((List.range 26).all fun k => (imageIn loweringRows (0x41 + k)).isSome) = true := by
  decide +kernel

theorem toLower_of_imageIn {c : Char} (hnone : imageIn loweringRows c.toNat = none) :
    c.toLower = c := by
  unfold Char.toLower
  refine dif_neg fun hupper => ?_
  have hlow : 0x41 ≤ c.toNat := hupper.1
  have hhigh : c.toNat ≤ 0x5a := hupper.2
  have hsome := List.all_eq_true.1 isSome_imageIn_capital (c.toNat - 0x41)
    (List.mem_range.2 (by omega))
  rw [Nat.add_sub_cancel' hlow, hnone] at hsome
  cases hsome

theorem settled_of_imageIn {c : Char} (hnone : imageIn loweringRows c.toNat = none)
    (hdotted : c ≠ 'İ') : Settled c := by
  constructor
  · by_cases hc : c.toNat < 0x80
    · rw [lowerChar, if_pos hc, toLower_of_imageIn hnone]
    · rw [lowerChar, if_neg hc, if_neg hdotted, hnone]
  · rintro rfl
    exact absurd hnone (by decide)

theorem settled_of_mem_lowerChar {c small : Char} (hsmall : small ∈ lowerChar c) :
    Settled small := by
  unfold lowerChar at hsmall
  split at hsmall
  · next hascii =>
    rw [List.mem_singleton] at hsmall
    exact hsmall ▸ settled_toLower hascii
  · split at hsmall
    · rcases List.mem_cons.1 hsmall with rfl | hsmall
      · exact ⟨by decide, by decide⟩
      · rw [List.mem_singleton] at hsmall
        exact hsmall ▸ ⟨by decide, by decide⟩
    · next hdotted =>
      split at hsmall
      · next image himage =>
        obtain ⟨hnone, hvalid, hne⟩ := imageIn_image himage
        rw [List.mem_singleton] at hsmall
        have htoNat : small.toNat = image := by
          rw [hsmall, Char.ofNat, dif_pos hvalid]
          rfl
        refine settled_of_imageIn (by rwa [htoNat]) ?_
        rintro rfl
        exact hne htoNat.symm
      · next hnone =>
        rw [List.mem_singleton] at hsmall
        exact hsmall ▸ settled_of_imageIn hnone hdotted

/-! ### Whole texts -/

theorem settled_of_mem_lowerAfter {before text : List Char} {small : Char}
    (hsmall : small ∈ lowerAfter before text) : Settled small := by
  induction text generalizing before with
  | nil => cases hsmall
  | cons c rest ih =>
    rw [lowerAfter, List.mem_append] at hsmall
    rcases hsmall with hsmall | hsmall
    · split at hsmall
      · rw [List.mem_singleton] at hsmall
        split at hsmall <;> exact hsmall ▸ ⟨by decide, by decide⟩
      · exact settled_of_mem_lowerChar hsmall
    · exact ih hsmall

theorem lowerAfter_of_settled {before text : List Char} (hsettled : ∀ c ∈ text, Settled c) :
    lowerAfter before text = text := by
  induction text generalizing before with
  | nil => rfl
  | cons c rest ih =>
    have hc := hsettled c (List.mem_cons_self ..)
    rw [lowerAfter, if_neg hc.notSigma, hc.small,
      ih fun other hother => hsettled other (List.mem_cons_of_mem _ hother)]
    rfl

theorem lowerChar_ne_nil (c : Char) : lowerChar c ≠ [] := by
  unfold lowerChar
  split
  · exact List.cons_ne_nil _ _
  · split
    · exact List.cons_ne_nil _ _
    · split <;> exact List.cons_ne_nil _ _

theorem lower_eq_nil_iff {text : List Char} : lower text = [] ↔ text = [] := by
  cases text with
  | nil => exact iff_of_true rfl rfl
  | cons c rest =>
    refine iff_of_false ?_ (List.cons_ne_nil c rest)
    rw [lower, lowerAfter, List.append_eq_nil_iff]
    rintro ⟨hsmall, -⟩
    split at hsmall
    · cases hsmall
    · exact lowerChar_ne_nil c hsmall

theorem lower_lower (text : List Char) : lower (lower text) = lower text :=
  lowerAfter_of_settled fun _ => settled_of_mem_lowerAfter

end ApiManual.Text

namespace ApiManual

@[simp]
theorem lowercase_lowercase (text : String) : lowercase (lowercase text) = lowercase text := by
  rw [lowercase, lowercase, String.toList_ofList, Text.lower_lower]

end ApiManual
