import ApiManual.Archive
import ApiManual.Proofs.Text.Decimal
import ApiManual.Proofs.Text.Marker
import ApiManual.Proofs.Text.Utf8
import Mathlib.Data.String.Basic

/-!
# The names of records

The number that a record was named with is read off its name, however many digits it has. The texts of
names are in a total order, so the texts of sorted names do not depend on the order in which the names
are given. Names of the same text differ only in bytes that were replaced, and sorting leaves them as
they are given.
-/

namespace ApiManual

open Text

namespace ByteName

@[simp]
theorem text_ofText (text : String) : (ofText text).text = text := by
  rw [ByteName.text, ofText, decodeLossy_utf8Bytes, String.ofList_toList]

end ByteName

namespace Archive

theorem toList_sixDigits (n : ℕ) :
    (sixDigits n).toList =
      List.replicate (6 - (toString n).length) '0' ++ Nat.toDigits 10 n := by
  rw [sixDigits, String.toList_append, String.toList_ofList, Nat.toString_eq_repr, Nat.toList_repr]

theorem hyphen_not_mem_sixDigits (n : ℕ) : '-' ∉ (sixDigits n).toList := by
  intro hmem
  rw [toList_sixDigits] at hmem
  rcases List.mem_append.1 hmem with hzero | hdigit
  · exact absurd (List.eq_of_mem_replicate hzero) (by decide)
  · exact absurd (isDigit_of_mem_toDigits hdigit) (by decide)

theorem toList_recordName (number : ℕ) (identifier : String) :
    (recordName number identifier).toList =
      (sixDigits number).toList ++ '-' :: (identifier.toList ++ recordExtension.toList) := by
  have hhyphen : "-".toList = ['-'] := by decide
  simp only [recordName, String.toList_append, hhyphen, List.append_assoc, List.cons_append,
    List.nil_append]

/-- The number of a record is read off its name. -/
theorem numberOf_recordName {number : ℕ} (hnumber : number ≤ noNumber) (identifier : String) :
    numberOf (recordName number identifier) = number := by
  rw [numberOf, toList_recordName, cut_append_cons (hyphen_not_mem_sixDigits number),
    toList_sixDigits, decimal?_padded hnumber, Option.getD_some]

theorem isRecordName_recordName (number : ℕ) (identifier : String) :
    isRecordName (recordName number identifier) = true := by
  have hbytes : (ByteName.ofText (recordName number identifier)).bytes =
      utf8Bytes ((sixDigits number).toList ++ '-' :: identifier.toList) ++
        utf8Bytes recordExtension.toList := by
    rw [ByteName.ofText, toList_recordName, ← List.cons_append, ← List.append_assoc, utf8Bytes,
      List.flatMap_append, utf8Bytes, utf8Bytes]
  have hhyphen : 0 < (utf8Bytes ((sixDigits number).toList ++ '-' :: identifier.toList)).length := by
    rw [List.length_pos_iff, utf8Bytes, Ne, List.flatMap_eq_nil_iff]
    intro hnil
    exact absurd (hnil '-' (List.mem_append_right _ List.mem_cons_self)) (by decide)
  simp only [isRecordName, hbytes, Bool.and_eq_true, decide_eq_true_eq]
  refine ⟨List.isSuffixOf_iff_suffix.2 (List.suffix_append ..), ?_⟩
  rw [List.length_append]
  omega

/-! ### The order of names -/

theorem precedes_iff {a b : String} :
    precedes a b = true ↔ numberOf a < numberOf b ∨ numberOf a = numberOf b ∧ a ≤ b := by
  simp [precedes]

theorem precedes_trans {a b c : String} (hab : precedes a b = true) (hbc : precedes b c = true) :
    precedes a c = true := by
  rw [precedes_iff] at hab hbc ⊢
  rcases hab with hab | ⟨hab, hle⟩ <;> rcases hbc with hbc | ⟨hbc, hle'⟩
  · exact Or.inl (hab.trans hbc)
  · exact Or.inl (hbc ▸ hab)
  · exact Or.inl (hab ▸ hbc)
  · exact Or.inr ⟨hab.trans hbc, hle.trans hle'⟩

theorem precedes_total (a b : String) : (precedes a b || precedes b a) = true := by
  rw [Bool.or_eq_true, precedes_iff, precedes_iff]
  rcases Nat.lt_trichotomy (numberOf a) (numberOf b) with hless | heq | hgreater
  · exact Or.inl (Or.inl hless)
  · rcases le_total a b with hle | hle
    · exact Or.inl (Or.inr ⟨heq, hle⟩)
    · exact Or.inr (Or.inr ⟨heq.symm, hle⟩)
  · exact Or.inr (Or.inl hgreater)

theorem eq_of_precedes {a b : String} (hab : precedes a b = true) (hba : precedes b a = true) :
    a = b := by
  rw [precedes_iff] at hab hba
  rcases hab with hab | ⟨_, hle⟩
  · omega
  · rcases hba with hba | ⟨_, hle'⟩
    · omega
    · exact le_antisymm hle hle'

theorem pairwise_recordNames (names : List ByteName) :
    (recordNames names).Pairwise fun a b => precedes a.text b.text = true := by
  have htrans : ∀ a b c : ByteName, precedes a.text b.text = true →
      precedes b.text c.text = true → precedes a.text c.text = true :=
    fun _ _ _ => precedes_trans
  exact List.pairwise_mergeSort htrans (fun _ _ => precedes_total _ _) (names.filter isRecordName)

/-- Names that are in order stay as they are. -/
theorem recordNames_of_pairwise {names : List ByteName}
    (hrecord : ∀ name ∈ names, isRecordName name = true)
    (hsorted : names.Pairwise fun a b => precedes a.text b.text = true) :
    recordNames names = names := by
  rw [recordNames, List.filter_eq_self.2 hrecord]
  exact List.mergeSort_of_pairwise hsorted

theorem recordNames_perm {names others : List ByteName} (hperm : names.Perm others) :
    (recordNames names).Perm (recordNames others) :=
  calc
    (recordNames names).Perm (names.filter isRecordName) := List.mergeSort_perm ..
    List.Perm _ (others.filter isRecordName) := hperm.filter _
    List.Perm _ (recordNames others) := (List.mergeSort_perm ..).symm

/-- Names with the same texts are in the same places, and stay there when some of them change places. -/
theorem recordNames_map {names : List ByteName} {change : ByteName → ByteName}
    (htext : ∀ name, (change name).text = name.text)
    (hrecord : ∀ name, isRecordName (change name) = isRecordName name) :
    recordNames (names.map change) = (recordNames names).map change := by
  rw [recordNames, recordNames, List.filter_map, List.map_mergeSort]
  · congr 2
    exact List.filter_congr fun name _ => hrecord name
  · intro a _ b _
    rw [htext, htext]

theorem mem_recordNames {names : List ByteName} {name : ByteName} :
    name ∈ recordNames names ↔ name ∈ names ∧ isRecordName name = true := by
  rw [recordNames, List.mem_mergeSort, List.mem_filter]

end Archive

end ApiManual
