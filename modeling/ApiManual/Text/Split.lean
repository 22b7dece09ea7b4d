/-!
# Cutting text into pieces

Texts are lists of characters here, so that every cut is a recursion on the list. `lines` cuts at
every line feed, `cut` at the first separator, `breakOn` at the first occurrence of a marker.
-/

namespace ApiManual.Text

/-- Lines of a text: the pieces between line feeds. -/
def lines (text : List Char) : List (List Char) :=
  text.splitOn '\n'

def unlines (pieces : List (List Char)) : List Char :=
  List.intercalate ['\n'] pieces

/-- The text before the first separator and, when there is one, the text after it. -/
def cut (separator : Char) : List Char → List Char × Option (List Char)
  | [] => ([], none)
  | c :: rest =>
    if c = separator then ([], some rest)
    else
      let (before, after) := cut separator rest
      (c :: before, after)

/-- The text without the marker it starts with. -/
def stripStart? (marker text : List Char) : Option (List Char) :=
  if marker.isPrefixOf text then some (text.drop marker.length) else none

/-- The text without one final `c`, if it has one. -/
def stripEnd (c : Char) (text : List Char) : List Char :=
  if text.getLast? = some c then text.dropLast else text

/-- The texts before and after the leftmost occurrence of a marker. -/
def breakOn (marker : List Char) : List Char → Option (List Char × List Char)
  | [] => if marker.isEmpty then some ([], []) else none
  | c :: rest =>
    match stripStart? marker (c :: rest) with
    | some after => some ([], after)
    | none => (breakOn marker rest).map fun (before, after) => (c :: before, after)

theorem stripStart?_eq_some {marker text after : List Char}
    (h : stripStart? marker text = some after) : text = marker ++ after := by
  unfold stripStart? at h
  split at h
  · next found =>
    obtain ⟨tail, rfl⟩ := List.isPrefixOf_iff_prefix.1 found
    simp at h
    simp [h]
  · simp at h

/-- A marker that is found splits the text around one of its occurrences. -/
theorem breakOn_eq_some {marker text before after : List Char}
    (h : breakOn marker text = some (before, after)) : text = before ++ marker ++ after := by
  induction text generalizing before after with
  | nil =>
    cases marker with
    | nil => simp [breakOn] at h; simp [h]
    | cons m ms => simp [breakOn] at h
  | cons c rest ih =>
    rw [breakOn] at h
    split at h
    · next tail found =>
      simp only [Option.some.injEq, Prod.mk.injEq] at h
      obtain ⟨rfl, rfl⟩ := h
      simpa using stripStart?_eq_some found
    · simp only [Option.map_eq_some_iff, Prod.mk.injEq, Prod.exists] at h
      obtain ⟨b, a, found, rfl, rfl⟩ := h
      simp [ih found]

theorem length_le_of_breakOn {marker text before after : List Char}
    (h : breakOn marker text = some (before, after)) : after.length ≤ text.length := by
  rw [breakOn_eq_some h]
  simp only [List.length_append]
  omega

/-- What follows a marker that is not empty is shorter than the text. -/
theorem length_of_breakOn {marker text before after : List Char} (nonempty : marker ≠ [])
    (h : breakOn marker text = some (before, after)) : after.length < text.length := by
  have := breakOn_eq_some h
  have := List.length_pos_iff.2 nonempty
  simp_all
  omega

end ApiManual.Text
