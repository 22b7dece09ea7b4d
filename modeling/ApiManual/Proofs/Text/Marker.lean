import ApiManual.Text.Split
import Mathlib.Data.List.Infix

/-!
# Markers in longer texts

A marker that is found in a text is found at the same place when the text goes on. When it is not
found, it may still be found across the end of the text, with its first characters in the text and
its last ones behind it. That cannot be when the text ends with a character that the marker does not
have, and then the search goes on with what follows as if there had been nothing before. A separator is
a single character, so it is never found across an end.
-/

namespace ApiManual.Text

variable {marker text before after : List Char} {c : Char}

theorem stripStart?_eq_some_iff : stripStart? marker text = some after ↔ text = marker ++ after := by
  refine ⟨stripStart?_eq_some, ?_⟩
  rintro rfl
  simp [stripStart?]

theorem stripStart?_eq_none_iff : stripStart? marker text = none ↔ ¬ marker <+: text := by
  simp [stripStart?]

theorem stripStart?_cons_cons (d c : Char) (marker text : List Char) :
    stripStart? (d :: marker) (c :: text) = if d = c then stripStart? marker text else none := by
  by_cases hdc : d = c <;> simp [stripStart?, hdc]

theorem breakOn_of_stripStart? (hstrip : stripStart? marker text = some after) :
    breakOn marker text = some ([], after) := by
  cases text with
  | nil =>
    obtain ⟨rfl, rfl⟩ := List.append_eq_nil_iff.1 (stripStart?_eq_some hstrip).symm
    rfl
  | cons c rest => rw [breakOn, hstrip]

theorem breakOn_cons_of_stripStart? (hstrip : stripStart? marker (c :: text) = none) :
    breakOn marker (c :: text) = (breakOn marker text).map fun found => (c :: found.1, found.2) := by
  rw [breakOn, hstrip]

/-- A character that the marker does not have is gone past. -/
theorem breakOn_cons_of_not_mem (hc : c ∉ marker) (hne : marker ≠ []) :
    breakOn marker (c :: text) = (breakOn marker text).map fun found => (c :: found.1, found.2) := by
  refine breakOn_cons_of_stripStart? (stripStart?_eq_none_iff.2 ?_)
  obtain ⟨d, rest, rfl⟩ := List.exists_cons_of_ne_nil hne
  rw [List.cons_prefix_cons]
  rintro ⟨rfl, -⟩
  exact hc List.mem_cons_self

theorem breakOn_eq_none_iff : breakOn marker text = none ↔ ¬ marker <:+: text := by
  induction text with
  | nil => cases marker <;> simp [breakOn]
  | cons c rest ih =>
    rw [List.infix_cons_iff, not_or]
    cases hstrip : stripStart? marker (c :: rest) with
    | none =>
      rw [breakOn_cons_of_stripStart? hstrip, Option.map_eq_none_iff, ih]
      exact (and_iff_right (stripStart?_eq_none_iff.1 hstrip)).symm
    | some after =>
      have hprefix : marker <+: c :: rest := ⟨after, (stripStart?_eq_some hstrip).symm⟩
      simp [breakOn_of_stripStart? hstrip, hprefix]

/-! ### The leftmost occurrence -/

/-- In the text with the marker behind it, the marker is at the end and nowhere else. -/
def OnlyAtEnd (marker text : List Char) : Prop :=
  ∀ before after, text ++ marker = before ++ marker ++ after → after = []

theorem onlyAtEnd_nil (marker : List Char) : OnlyAtEnd marker [] := by
  intro before after heq
  have hlength := congrArg List.length heq
  simp only [List.nil_append, List.length_append] at hlength
  exact List.length_eq_zero_iff.1 (by omega)

theorem onlyAtEnd_cons_iff :
    OnlyAtEnd marker (c :: text) ↔ ¬ marker <+: c :: (text ++ marker) ∧ OnlyAtEnd marker text := by
  constructor
  · intro honly
    refine ⟨fun hstarts => ?_, fun before after heq => ?_⟩
    · obtain ⟨after, hafter⟩ := hstarts
      have hnone := honly [] after hafter.symm
      have hlength := congrArg List.length hafter
      rw [hnone] at hlength
      simp at hlength
      omega
    · exact honly (c :: before) after (congrArg (c :: ·) heq)
  · rintro ⟨hnot, honly⟩ before after heq
    cases before with
    | nil => exact absurd ⟨after, heq.symm⟩ hnot
    | cons d before => exact honly before after (List.cons.inj heq).2

/-- A marker is found where it occurs for the first time. -/
theorem breakOn_eq_some_iff :
    breakOn marker text = some (before, after) ↔
      text = before ++ marker ++ after ∧ OnlyAtEnd marker before := by
  constructor
  · intro hfound
    refine ⟨breakOn_eq_some hfound, ?_⟩
    induction text generalizing before with
    | nil =>
      have hbefore : before = [] := by
        have hnil := breakOn_eq_some hfound
        simp_all
      rw [hbefore]
      exact onlyAtEnd_nil marker
    | cons c rest ih =>
      cases hstrip : stripStart? marker (c :: rest) with
      | some tail =>
        rw [breakOn_of_stripStart? hstrip] at hfound
        cases hfound
        exact onlyAtEnd_nil marker
      | none =>
        rw [breakOn_cons_of_stripStart? hstrip] at hfound
        obtain ⟨⟨gap, tail⟩, hrest, heq⟩ := Option.map_eq_some_iff.1 hfound
        cases heq
        refine onlyAtEnd_cons_iff.2 ⟨fun hstarts => ?_, ih hrest⟩
        refine stripStart?_eq_none_iff.1 hstrip (hstarts.trans ?_)
        rw [breakOn_eq_some hrest]
        exact List.prefix_append (c :: (gap ++ marker)) _
  · rintro ⟨rfl, honly⟩
    induction before with
    | nil => exact breakOn_of_stripStart? (stripStart?_eq_some_iff.2 rfl)
    | cons c before ih =>
      obtain ⟨hnot, honly⟩ := onlyAtEnd_cons_iff.1 honly
      -- What is behind the marker does not let it start any earlier.
      have hstrip : stripStart? marker (c :: (before ++ marker ++ after)) = none := by
        refine stripStart?_eq_none_iff.2 fun hstarts => hnot ?_
        refine List.prefix_of_prefix_length_le hstarts
          (List.prefix_append (c :: (before ++ marker)) after) ?_
        simp
        omega
      rw [List.cons_append, List.cons_append, breakOn_cons_of_stripStart? hstrip, ih honly,
        Option.map_some]
/-! ### The text goes on -/

theorem breakOn_append_of_some (hfound : breakOn marker text = some (before, after))
    (more : List Char) : breakOn marker (text ++ more) = some (before, after ++ more) := by
  induction text generalizing before after with
  | nil =>
    cases marker with
    | nil =>
      cases hfound
      exact breakOn_of_stripStart? (stripStart?_eq_some_iff.2 rfl)
    | cons d marker => cases hfound
  | cons c rest ih =>
    cases hstrip : stripStart? marker (c :: rest) with
    | some tail =>
      rw [breakOn_of_stripStart? hstrip] at hfound
      cases hfound
      refine breakOn_of_stripStart? (stripStart?_eq_some_iff.2 ?_)
      rw [stripStart?_eq_some hstrip, List.append_assoc]
    | none =>
      rw [breakOn_cons_of_stripStart? hstrip] at hfound
      obtain ⟨⟨gap, tail⟩, hrest, heq⟩ := Option.map_eq_some_iff.1 hfound
      cases heq
      -- The marker is no longer than the rest, where it is found, so it cannot start at `c` and go
      -- on behind the text.
      have hlength : marker.length ≤ (c :: rest).length := by
        simp [breakOn_eq_some hrest]
        omega
      have hmore : stripStart? marker (c :: (rest ++ more)) = none := by
        refine stripStart?_eq_none_iff.2 fun hprefix => stripStart?_eq_none_iff.1 hstrip ?_
        exact List.prefix_of_prefix_length_le hprefix (List.prefix_append (c :: rest) more) hlength
      rw [List.cons_append, breakOn_cons_of_stripStart? hmore, ih hrest, Option.map_some]

/-- A marker does not start in a text and end behind a character that it does not have. -/
theorem prefix_of_prefix_append_cons {more : List Char} (hc : c ∉ marker)
    (hstarts : marker <+: text ++ c :: more) : marker <+: text := by
  obtain ⟨tail, htail⟩ := hstarts
  rcases List.append_eq_append_iff.1 htail with ⟨rest, rfl, -⟩ | ⟨rest, rfl, hrest⟩
  · exact List.prefix_append marker rest
  · cases rest with
    | nil => simp
    | cons d rest =>
      obtain rfl : c = d := by simpa using congrArg List.head? hrest
      exact absurd (by simp) hc

/-- A text without the marker that ends with a character of another kind is gone past. -/
theorem breakOn_append_of_not_infix (hnone : ¬ marker <:+: text) (hc : c ∉ marker)
    (more : List Char) :
    breakOn marker (text ++ c :: more) =
      (breakOn marker more).map fun found => (text ++ c :: found.1, found.2) := by
  have hne : marker ≠ [] := by
    rintro rfl
    exact hnone List.nil_infix
  induction text with
  | nil => exact breakOn_cons_of_not_mem hc hne
  | cons d rest ih =>
    rw [List.infix_cons_iff, not_or] at hnone
    have hstart : stripStart? marker (d :: (rest ++ c :: more)) = none := by
      rw [stripStart?_eq_none_iff, ← List.cons_append]
      exact fun hstarts => hnone.1 (prefix_of_prefix_append_cons hc hstarts)
    rw [List.cons_append, breakOn_cons_of_stripStart? hstart, ih hnone.2, Option.map_map]
    rfl

/-! ### Separators -/

theorem cut_append {separator : Char} (hnot : separator ∉ before) (rest : List Char) :
    cut separator (before ++ rest) = (before ++ (cut separator rest).1, (cut separator rest).2) := by
  induction before with
  | nil => rfl
  | cons c before ih =>
    rw [List.mem_cons, not_or] at hnot
    rw [List.cons_append, cut, if_neg (Ne.symm hnot.1), ih hnot.2, List.cons_append]

theorem cut_append_cons {separator : Char} (hnot : separator ∉ before) (after : List Char) :
    cut separator (before ++ separator :: after) = (before, some after) := by
  rw [cut_append hnot, cut, if_pos rfl, List.append_nil]

theorem cut_of_not_mem {separator : Char} (hnot : separator ∉ text) :
    cut separator text = (text, none) := by
  have hcut := cut_append hnot []
  rwa [List.append_nil, cut, List.append_nil] at hcut

theorem eq_append_of_cut {separator : Char} (hcut : cut separator text = (before, some after)) :
    text = before ++ separator :: after := by
  induction text generalizing before with
  | nil => cases hcut
  | cons c rest ih =>
    rw [cut] at hcut
    split at hcut
    · next hc =>
      cases hcut
      rw [hc, List.nil_append]
    · obtain ⟨rfl, hafter⟩ := Prod.mk.inj hcut
      conv_lhs => rw [ih (Prod.ext rfl hafter)]
      rfl

end ApiManual.Text
