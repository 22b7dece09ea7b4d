import ApiManual.Proofs.Text.Marker
import ApiManual.Text.Decimal
import Mathlib.Data.Nat.Notation

/-!
# Numbers and their digits

The decimal digits of a number stand for that number, with zeros before them or without, and the
first of them is a zero only for the number zero.
-/

namespace ApiManual.Text

theorem decimalValue_eq_ofDigitChars (digits : List Char) :
    decimalValue digits = Nat.ofDigitChars 10 digits 0 := by
  have hstep : (fun (value : ℕ) (digit : Char) => value * 10 + (digit.toNat - 0x30)) =
      fun value digit => 10 * value + (digit.toNat - '0'.toNat) := by
    funext value digit
    rw [Nat.mul_comm]
    rfl
  rw [decimalValue, hstep, Nat.ofDigitChars]

theorem decimalValue_padded (zeros n : ℕ) :
    decimalValue (List.replicate zeros '0' ++ Nat.toDigits 10 n) = n := by
  rw [decimalValue_eq_ofDigitChars, Nat.ofDigitChars_append, Nat.ofDigitChars_replicate_zero,
    Nat.mul_zero, Nat.ofDigitChars_ten_toDigits]

theorem isDecimal_of_isDigit {c : Char} (hdigit : c.isDigit = true) : isDecimal c = true := by
  simp only [Char.isDigit, Bool.and_eq_true, decide_eq_true_eq] at hdigit
  rw [isDecimal, Bool.and_eq_true, decide_eq_true_eq, decide_eq_true_eq]
  exact hdigit

theorem isDigit_of_mem_toDigits {n : ℕ} {c : Char} (hmem : c ∈ Nat.toDigits 10 n) :
    c.isDigit = true :=
  Nat.isDigit_of_mem_toDigits (by omega) (by omega) hmem

theorem toDigits_head_ne_zero {n : ℕ} (hpos : 0 < n) :
    ∃ c rest, Nat.toDigits 10 n = c :: rest ∧ c ≠ '0' := by
  induction n using Nat.strongRecOn with
  | ind n ih =>
    by_cases hone : n < 10
    · refine ⟨n.digitChar, [], Nat.toDigits_of_lt_base hone, ?_⟩
      rw [Ne, Nat.digitChar_eq_zero]
      omega
    · obtain ⟨c, rest, hdigits, hc⟩ := ih (n / 10) (by omega) (by omega)
      refine ⟨c, rest ++ [(n % 10).digitChar], ?_, hc⟩
      rw [Nat.toDigits_of_base_le (by omega) (by omega), hdigits, List.cons_append]

/-- Digits with zeros before them are read as the number. -/
theorem decimal?_padded {zeros n greatest : ℕ} (hle : n ≤ greatest) :
    decimal? greatest (List.replicate zeros '0' ++ Nat.toDigits 10 n) = some n := by
  have hvalue := decimalValue_padded zeros n
  have hnonempty : List.replicate zeros '0' ++ Nat.toDigits 10 n ≠ [] :=
    List.append_ne_nil_of_right_ne_nil _ Nat.toDigits_ne_nil
  have hall : ∀ c ∈ List.replicate zeros '0' ++ Nat.toDigits 10 n, isDecimal c = true := by
    intro c hmem
    rcases List.mem_append.1 hmem with hzero | hdigit
    · rw [List.eq_of_mem_replicate hzero]
      decide
    · exact isDecimal_of_isDigit (isDigit_of_mem_toDigits hdigit)
  generalize List.replicate zeros '0' ++ Nat.toDigits 10 n = digits at hvalue hnonempty hall ⊢
  have hplus : stripStart? ['+'] digits = none := by
    rw [stripStart?_eq_none_iff]
    intro hsigned
    exact absurd (hall '+' (hsigned.mem (by simp))) (by decide)
  rw [decimal?, hplus, Option.getD_none, hvalue, List.all_eq_true.2 hall]
  simp [hnonempty, hle]

end ApiManual.Text
