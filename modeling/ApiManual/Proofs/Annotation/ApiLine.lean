import ApiManual.Proofs.Annotation.TokenSearch

/-!
# Lines of `@api` tags

A line is written from a method in braces, which may be left out, a path and whatever follows them. The
parts are found again although braces are also written around placeholders: the path that counts is the
first one, so as long as the method holds no slash behind a blank it is the one that was written, and
braces that come later than its slash are never a method.
-/

namespace ApiManual

open Text ApiManual.Span

/-- What an `@api` line is written from. `path` goes without the slash it starts with. -/
structure ApiLine where
  method : Option (List Char)
  path : List Char
  rest : List Char
  method_closed : ∀ braces ∈ method, '}' ∉ braces
  method_quiet : ∀ braces ∈ method, StartsNoPath braces
  path_chars : ∀ c ∈ path, isPathChar c = true
  rest_apart : EndsWord rest

namespace ApiLine

/-- What stands before the blank and the path. -/
def heading (line : ApiLine) : List Char :=
  match line.method with
  | some braces => "@api \x7b".toList ++ braces ++ ['}']
  | none => "@api".toList

def text (line : ApiLine) : List Char :=
  line.heading ++ ' ' :: '/' :: (line.path ++ line.rest)

/-- What was written: the method trimmed and in small letters, the path, and the rest trimmed, if it is
more than blanks. -/
def tokens (line : ApiLine) : ApiTokens where
  method := line.method.map fun braces => lowercase (String.ofList (trim braces))
  path := some (String.ofList ('/' :: line.path))
  title := present? line.rest

theorem startsNoPath_heading (line : ApiLine) : StartsNoPath (line.heading ++ [' ']) := by
  unfold heading
  split
  · next braces hmethod =>
    have hclosed : StartsNoPath (braces ++ ['}', ' ']) := by
      refine List.isChain_append.2 ⟨line.method_quiet braces hmethod, by decide, ?_⟩
      rintro c - next hnext -
      cases hnext
      decide
    have hopened : StartsNoPath ("@api \x7b".toList ++ (braces ++ ['}', ' '])) := by
      refine List.isChain_append.2 ⟨by decide, hclosed, ?_⟩
      rintro c hc next - hblank
      cases hc
      cases hblank
    simpa using hopened
  · decide

theorem path?_text (line : ApiLine) :
    path? line.text = some ⟨line.heading.length + 1,
      line.heading.length + 1 + (line.path.length + 1), '/' :: line.path⟩ :=
  path?_append line.startsNoPath_heading (by decide) line.path_chars line.rest_apart

theorem braces_of_method {line : ApiLine} {braces : List Char} (hmethod : line.method = some braces) :
    bracketed? '{' '}' line.text = some ⟨5, line.heading.length, braces⟩ := by
  have htext : line.text = "@api ".toList ++
      '{' :: (braces ++ '}' :: ' ' :: '/' :: (line.path ++ line.rest)) := by
    simp [text, heading, hmethod]
  have hheading : line.heading.length = 5 + (braces.length + 2) := by
    simp [heading, hmethod]
    omega
  rw [htext, bracketed?_enclosed (by decide) (line.method_closed braces hmethod), hheading]
  rfl

/-- Without a method the first braces come after the slash of the path. -/
theorem start_braces_of_no_method {line : ApiLine} (hmethod : line.method = none) {braces : Span}
    (hbraces : bracketed? '{' '}' line.text = some braces) : line.heading.length + 2 ≤ braces.start := by
  have htext : line.text = "@api /".toList ++ (line.path ++ line.rest) := by
    simp [text, heading, hmethod]
  rw [htext] at hbraces
  have hstart := length_le_start (by decide) hbraces
  simpa [heading, hmethod] using hstart

theorem drop_text (line : ApiLine) :
    line.text.drop (line.heading.length + 1 + (line.path.length + 1)) = line.rest := by
  have htext : line.text = (line.heading ++ ' ' :: '/' :: line.path) ++ line.rest := by simp [text]
  rw [htext, List.drop_left' (by simp; omega)]

/-- Braces are a method if they stand before the path. -/
theorem filter_braces (line : ApiLine) :
    ((bracketed? '{' '}' line.text).filter fun braces =>
        decide (braces.stop ≤ line.heading.length + 1)) =
      line.method.map fun braces => ⟨5, line.heading.length, braces⟩ := by
  cases hmethod : line.method with
  | some braces =>
    rw [braces_of_method hmethod]
    exact Option.filter_some_pos (decide_eq_true (Nat.le_succ _))
  | none =>
    rw [Option.map_none, Option.filter_eq_none_iff]
    intro braces hbraces
    have hstart := start_braces_of_no_method hmethod hbraces
    have hstop := start_lt_stop hbraces
    simp only [decide_eq_true_eq]
    omega

/-- **What is written in an `@api` line is read from it.** The method is what stands in the braces,
trimmed and in small letters, the path is exactly the one that was written, and the title is the trimmed
rest. Without braces before the path there is no method, whatever braces the path and the rest have. -/
theorem ofLine_text (line : ApiLine) : ApiTokens.ofLine line.text = line.tokens := by
  simp only [ApiTokens.ofLine, path?_text, filter_braces]
  cases hmethod : line.method with
  | some braces =>
    have hstop : max line.heading.length (line.heading.length + 1 + (line.path.length + 1)) =
        line.heading.length + 1 + (line.path.length + 1) := by omega
    simp only [Option.map_some, hstop, drop_text, tokens, hmethod]
  | none => simp only [Option.map_none, Option.map_some, drop_text, tokens, hmethod]

/-- Braces around the method, in the path and behind it. -/
def photoLine : ApiLine where
  method := some " Get".toList
  path := "photo/\x7bid\x7d".toList
  rest := " Show \x7bit\x7d /now".toList
  method_closed := by decide
  method_quiet := by decide
  path_chars := List.all_iff_forall_prop.1 (by decide)
  rest_apart := by
    intro c hc
    cases hc
    decide

/-- The same line without a method. -/
def bareLine : ApiLine where
  method := none
  path := photoLine.path
  rest := photoLine.rest
  method_closed := by decide
  method_quiet := by decide
  path_chars := photoLine.path_chars
  rest_apart := photoLine.rest_apart

theorem tokens_of_photoLine :
    (String.ofList photoLine.text = "@api \x7b Get\x7d /photo/\x7bid\x7d Show \x7bit\x7d /now" ∧
      ApiTokens.ofLine photoLine.text =
        { method := some "get", path := some "/photo/\x7bid\x7d",
          title := some "Show \x7bit\x7d /now" }) ∧
    (String.ofList bareLine.text = "@api /photo/\x7bid\x7d Show \x7bit\x7d /now" ∧
      ApiTokens.ofLine bareLine.text =
        { method := none, path := some "/photo/\x7bid\x7d",
          title := some "Show \x7bit\x7d /now" }) := by
  rw [ofLine_text photoLine, ofLine_text bareLine]
  refine ⟨⟨by decide, by decide⟩, ⟨by decide, by decide⟩⟩

end ApiLine

end ApiManual
