import ApiManual.Text.Split

/-!
# Separators and the pieces between them

A text has one piece more than separators, and none of the pieces holds a separator. Of pieces put
together with a text between them, every character is in a piece or in one of the texts between.
-/

namespace ApiManual.Text

variable {c : Char}

theorem length_splitOn (c : Char) (text : List Char) :
    (text.splitOn c).length = text.count c + 1 := by
  induction text with
  | nil => rfl
  | cons d rest ih =>
    rw [List.splitOn_cons_eq_if_modifyHead, List.count_cons]
    split
    · rw [List.length_cons, ih]
    · rw [List.length_modifyHead, ih, Nat.add_zero]

theorem not_mem_of_mem_splitOn {text piece : List Char} (hpiece : piece ∈ text.splitOn c) :
    c ∉ piece := by
  induction text generalizing piece with
  | nil =>
    obtain rfl := List.mem_singleton.1 hpiece
    exact List.not_mem_nil
  | cons d rest ih =>
    rw [List.splitOn_cons_eq_if_modifyHead] at hpiece
    split at hpiece
    · rcases List.mem_cons.1 hpiece with rfl | hrest
      · exact List.not_mem_nil
      · exact ih hrest
    · next hd =>
      obtain ⟨first, pieces, hpieces⟩ := List.exists_cons_of_ne_nil (List.splitOn_ne_nil c rest)
      rw [hpieces] at hpiece ih
      rcases List.mem_cons.1 hpiece with rfl | hlater
      · have hfirst : c ∉ first := ih List.mem_cons_self
        have hne : c ≠ d := fun heq => hd (beq_iff_eq.2 heq.symm)
        exact List.not_mem_cons_of_ne_of_not_mem hne hfirst
      · exact ih (List.mem_cons_of_mem _ hlater)

theorem count_intercalate (c : Char) (between : List Char) (pieces : List (List Char)) :
    (List.intercalate between pieces).count c =
      pieces.flatten.count c + (pieces.length - 1) * between.count c := by
  induction pieces with
  | nil => simp
  | cons piece rest ih =>
    cases rest with
    | nil => simp
    | cons next others =>
      have hlength : (piece :: next :: others).length - 1 = (next :: others).length - 1 + 1 := rfl
      have hflatten : (piece :: next :: others).flatten = piece ++ (next :: others).flatten := rfl
      rw [List.intercalate_cons_cons, List.count_append, List.count_append, ih, hflatten,
        List.count_append, hlength, Nat.succ_mul]
      omega

theorem not_mem_flatten_iff {pieces : List (List Char)} :
    c ∉ pieces.flatten ↔ ∀ piece ∈ pieces, c ∉ piece := by
  simp only [List.mem_flatten, not_exists, not_and]

theorem not_mem_intercalate_iff {between : List Char} (hbetween : c ∉ between)
    {pieces : List (List Char)} :
    c ∉ List.intercalate between pieces ↔ ∀ piece ∈ pieces, c ∉ piece := by
  rw [← List.count_eq_zero, count_intercalate, List.count_eq_zero.2 hbetween, Nat.mul_zero,
    Nat.add_zero, List.count_eq_zero, not_mem_flatten_iff]

end ApiManual.Text
