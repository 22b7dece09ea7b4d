import ApiManual.Json.Reader
import ApiManual.Json.Writer
import ApiManual.Proofs.Text.Decimal
import Mathlib.Tactic.SplitIfs

/-!
# The tokens of written text

A written tree is cut into the tokens of the tree: brackets with commas between, a key and a colon
before every member, and one token for every other value. Spaces and line breaks leave no token, a
string ends at its quote, and a numeral ends where a comma, a line break or a closing bracket follows.
-/

namespace ApiManual.Json

/-! ### Strings -/

theorem foldlM_hexValue?_hexPair {code : Nat} (hcode : code < 0x20) :
    (['0', '0'] ++ hexPair code).foldlM
      (fun value digit => (Text.hexValue? digit.toNat).map (value * 16 + ·)) 0 = some code := by
  have hall : ∀ code < 0x20, (['0', '0'] ++ hexPair code).foldlM
      (fun value digit => (Text.hexValue? digit.toNat).map (value * 16 + ·)) 0 = some code := by
    decide
  exact hall code hcode

theorem takeUnits_simpleEscape {c : Char} {unit : Nat} (hescape : simpleEscape? c = some unit)
    (hc : c ≠ 'u') (text : List Char) :
    takeUnits ('\\' :: c :: text) =
      (takeUnits text).map fun (units, after) => (unit :: units, after) := by
  rw [takeUnits]
  · rw [hescape]
    cases takeUnits text <;> rfl
  · rintro _ _ _ _ _ rfl
    exact fun _ => hc rfl

theorem takeUnits_escapedChar (c : Char) (text : List Char) :
    takeUnits (escapedChar c ++ text) =
      (takeUnits text).map fun (units, after) => (c.toNat :: units, after) := by
  unfold escapedChar
  split_ifs with hquoted hfeed hreturn htab hback hform hcontrol
  · rcases hquoted with rfl | rfl
    · exact takeUnits_simpleEscape rfl (by decide) text
    · exact takeUnits_simpleEscape rfl (by decide) text
  · exact hfeed ▸ takeUnits_simpleEscape rfl (by decide) text
  · exact hreturn ▸ takeUnits_simpleEscape rfl (by decide) text
  · exact htab ▸ takeUnits_simpleEscape rfl (by decide) text
  · exact hback ▸ takeUnits_simpleEscape rfl (by decide) text
  · exact hform ▸ takeUnits_simpleEscape rfl (by decide) text
  · have hunit := foldlM_hexValue?_hexPair hcontrol
    rw [hexPair, List.cons_append, List.cons_append, List.nil_append] at hunit
    simp only [hexPair, List.cons_append, List.nil_append]
    rw [takeUnits, hunit]
    cases takeUnits text <;> rfl
  · rw [not_or] at hquoted
    rw [List.singleton_append, takeUnits, if_neg hcontrol]
    · cases takeUnits text <;> rfl
    · exact hquoted.1
    · rintro _ _ _ _ _ rfl
      exact absurd rfl hquoted.2
    · rintro _ _ rfl
      exact absurd rfl hquoted.2

theorem takeUnits_flatMap_escapedChar (characters after : List Char) :
    takeUnits (characters.flatMap escapedChar ++ '"' :: after) =
      some (characters.map Char.toNat, after) := by
  induction characters with
  | nil => rfl
  | cons c rest ih =>
    rw [List.flatMap_cons, List.append_assoc, takeUnits_escapedChar, ih]
    rfl

theorem not_surrogate (c : Char) : isLeading c.toNat = false ∧ isTrailing c.toNat = false := by
  have hvalid : c.toNat < 0xD800 ∨ 0xDFFF < c.toNat ∧ c.toNat < 0x110000 := c.valid
  simp only [isLeading, isTrailing, Bool.and_eq_false_iff, decide_eq_false_iff_not]
  omega

theorem ofUnits_map_toNat (characters : List Char) :
    ofUnits (characters.map Char.toNat) = some characters := by
  induction characters with
  | nil => rfl
  | cons c rest ih =>
    obtain ⟨hleading, htrailing⟩ := not_surrogate c
    cases rest with
    | nil => simp [ofUnits, hleading, htrailing]
    | cons second rest =>
      rw [List.map_cons, List.map_cons, ofUnits, hleading, htrailing, ← List.map_cons, ih]
      simp

theorem takeToken_stringText (value : String) (rest : List Char) :
    takeToken ((stringText value).toList ++ rest) = some (.string (some value), rest) := by
  have hquote : "\"".toList = ['"'] := by decide
  have htext : (stringText value).toList ++ rest =
      '"' :: (value.toList.flatMap escapedChar ++ '"' :: rest) := by
    simp [stringText, hquote]
  rw [htext, takeToken, takeUnits_flatMap_escapedChar]
  simp only [Option.map_some, ofUnits_map_toNat, String.ofList_toList]

/-! ### Numerals -/

/-- A text that is empty or starts with what can stand after a value. -/
def EndsValue (text : List Char) : Prop :=
  ∀ c ∈ text.head?, c = ',' ∨ c = '\n' ∨ c = ']' ∨ c = '}'

theorem digit?_of_isDigit {c : Char} (hdigit : c.isDigit = true) :
    digit? c = some (c.toNat - '0'.toNat) := by
  simp only [Char.isDigit, Bool.and_eq_true, decide_eq_true_eq] at hdigit
  exact if_pos hdigit

theorem takeDigits_of_endsValue {rest : List Char} (hrest : EndsValue rest) :
    takeDigits rest = ([], rest) := by
  cases rest with
  | nil => rfl
  | cons c rest =>
    rcases hrest c rfl with rfl | rfl | rfl | rfl <;> rfl

theorem takeDigits_append {digits rest : List Char} (hdigits : ∀ c ∈ digits, c.isDigit = true)
    (hrest : EndsValue rest) :
    takeDigits (digits ++ rest) = (digits.map (·.toNat - '0'.toNat), rest) := by
  induction digits with
  | nil => exact takeDigits_of_endsValue hrest
  | cons c digits ih =>
    rw [List.forall_mem_cons] at hdigits
    rw [List.cons_append, takeDigits, digit?_of_isDigit hdigits.1, ih hdigits.2]
    rfl

theorem absorb_map_toNat {digits : List Char} {significand : Nat}
    (hle : Nat.ofDigitChars 10 digits significand ≤ greatestSignificand) :
    absorb significand (digits.map (·.toNat - '0'.toNat)) =
      (Nat.ofDigitChars 10 digits significand, []) := by
  induction digits generalizing significand with
  | nil => rfl
  | cons c digits ih =>
    rw [Nat.ofDigitChars_cons, Nat.mul_comm] at hle ⊢
    have hgrows : significand * 10 + (c.toNat - '0'.toNat) ≤ greatestSignificand := by
      rw [Nat.ofDigitChars_eq_ofDigitChars_zero] at hle
      have hpow : 1 ≤ 10 ^ digits.length := Nat.one_le_pow _ _ (by omega)
      have hmul := Nat.le_mul_of_pos_left (significand * 10 + (c.toNat - '0'.toNat)) hpow
      omega
    rw [List.map_cons, absorb, if_pos hgrows, ih hle]

theorem takeDecimals_of_endsValue {rest : List Char} (hrest : EndsValue rest) :
    takeDecimals rest = some (none, rest) := by
  cases rest with
  | nil => rfl
  | cons c rest =>
    rcases hrest c rfl with rfl | rfl | rfl | rfl <;> rfl

theorem takeExponent_of_endsValue {rest : List Char} (hrest : EndsValue rest) :
    takeExponent rest = some (none, rest) := by
  cases rest with
  | nil => rfl
  | cons c rest =>
    rcases hrest c rfl with rfl | rfl | rfl | rfl <;> rfl

theorem takeNumeral_of_endsValue {text rest : List Char} {whole : List Nat}
    (hdigits : takeDigits text = (whole, rest)) (hrest : EndsValue rest) (hsome : whole ≠ [])
    (hzero : ∀ second more, whole ≠ 0 :: second :: more) :
    takeNumeral false text = some (⟨false, whole, none, none⟩, rest) := by
  rw [takeNumeral, hdigits]
  dsimp only
  split
  · exact absurd rfl hsome
  · exact absurd rfl (hzero _ _)
  · rw [takeDecimals_of_endsValue hrest, Option.bind_eq_bind, Option.bind_some]
    dsimp only
    rw [takeExponent_of_endsValue hrest]
    rfl

theorem takeNumeral_toDigits (n : Nat) {rest : List Char} (hrest : EndsValue rest) :
    takeNumeral false (Nat.toDigits 10 n ++ rest) =
      some (⟨false, (Nat.toDigits 10 n).map (·.toNat - '0'.toNat), none, none⟩, rest) := by
  have hdigits := takeDigits_append (fun _ => Text.isDigit_of_mem_toDigits (n := n)) hrest
  refine takeNumeral_of_endsValue hdigits hrest (by simp) ?_
  intro second more heq
  rcases Nat.eq_zero_or_pos n with rfl | hpos
  · rw [Nat.toDigits_zero] at heq
    cases heq
  · obtain ⟨c, others, hcons, hc⟩ := Text.toDigits_head_ne_zero hpos
    have hdigit : c.isDigit = true := Text.isDigit_of_mem_toDigits (hcons ▸ List.mem_cons_self ..)
    rw [hcons, List.map_cons] at heq
    have hvalue : c.toNat - '0'.toNat = 0 := (List.cons.inj heq).1
    have hrange := Char.isDigit_iff_toNat.1 hdigit
    refine hc (Char.toNat_inj.1 ?_)
    omega

theorem value?_toDigits {n : Nat} (hle : n ≤ greatestSignificand) :
    (Numeral.mk false ((Nat.toDigits 10 n).map (·.toNat - '0'.toNat)) none none).value? =
      some (.int n) := by
  have habsorb := @absorb_map_toNat (Nat.toDigits 10 n) 0
    (by rwa [Nat.ofDigitChars_ten_toDigits])
  rw [Numeral.value?, habsorb, Nat.ofDigitChars_ten_toDigits]
  rfl

theorem takeToken_of_isDigit {c : Char} (hdigit : c.isDigit = true) (rest : List Char) :
    takeToken (c :: rest) = (takeNumeral false (c :: rest)).map fun (numeral, after) =>
      (.number numeral.value?, after) := by
  unfold takeToken
  split
  case h_12 => rfl
  all_goals
    next heq =>
    cases heq
    exact absurd hdigit (by decide)

theorem takeToken_nat {n : Nat} (hle : n ≤ greatestSignificand) {rest : List Char}
    (hrest : EndsValue rest) :
    takeToken ((Number.text (.int n)).toList ++ rest) = some (.number (some (.int n)), rest) := by
  have htext : (Number.text (.int n)).toList = Nat.toDigits 10 n := Nat.toList_repr
  obtain ⟨c, more, hcons⟩ := List.exists_cons_of_ne_nil (Nat.toDigits_ne_nil (n := n) (b := 10))
  have hdigit : c.isDigit = true := Text.isDigit_of_mem_toDigits (hcons ▸ List.mem_cons_self ..)
  have hnumeral := takeNumeral_toDigits n hrest
  have hvalue := value?_toDigits hle
  rw [htext]
  rw [hcons] at hnumeral hvalue ⊢
  rw [List.cons_append] at hnumeral ⊢
  rw [takeToken_of_isDigit hdigit, hnumeral]
  simp only [Option.map_some, hvalue]

/-! ### Tokens in a row -/

theorem takeToken_of_isSpace {c : Char} (hspace : isSpace c = true) (rest : List Char) :
    takeToken (c :: rest) = none := by
  simp only [isSpace, Bool.or_eq_true, decide_eq_true_eq] at hspace
  rcases hspace with ((rfl | rfl) | rfl) | rfl <;> rfl

theorem tokens?_of_isSpace {c : Char} (hspace : isSpace c = true) (rest : List Char) :
    tokens? (c :: rest) = tokens? rest := by
  rw [tokens?, if_pos hspace]

theorem tokens?_of_takeToken {text after : List Char} {token : Token}
    (htoken : takeToken text = some (token, after)) :
    tokens? text = (tokens? after).map (token :: ·) := by
  cases text with
  | nil => cases htoken
  | cons c rest =>
    have hspace : ¬ isSpace c = true := by
      intro hspace
      rw [takeToken_of_isSpace hspace] at htoken
      cases htoken
    rw [tokens?, if_neg hspace]
    split
    · next hnone =>
      rw [htoken] at hnone
      cases hnone
    · next found rest' hsome =>
      rw [htoken] at hsome
      cases hsome
      rfl

theorem toList_indentation (level : Nat) :
    (indentation level).toList = '\n' :: List.replicate (2 * level) ' ' := by
  rw [indentation, String.toList_append, String.toList_ofList, String.toList_ofList,
    List.singleton_append]

theorem tokens?_indentation (level : Nat) (rest : List Char) :
    tokens? ((indentation level).toList ++ rest) = tokens? rest := by
  have hspaces : ∀ count, tokens? (List.replicate count ' ' ++ rest) = tokens? rest := by
    intro count
    induction count with
    | zero => rfl
    | succ count ih =>
      rw [List.replicate_succ, List.cons_append, tokens?_of_isSpace rfl, ih]
  rw [toList_indentation, List.cons_append, tokens?_of_isSpace rfl, hspaces]

/-- The text is cut into the tokens wherever it can stand as a value. -/
def CutsInto (text : String) (tokens : List Token) : Prop :=
  ∀ rest, EndsValue rest → tokens? (text.toList ++ rest) = (tokens? rest).map (tokens ++ ·)

theorem cutsInto_of_takeToken {text : String} {token : Token}
    (htoken : ∀ rest, EndsValue rest → takeToken (text.toList ++ rest) = some (token, rest)) :
    CutsInto text [token] :=
  fun rest hrest => tokens?_of_takeToken (htoken rest hrest)

theorem endsValue_indentation (level : Nat) (rest : List Char) :
    EndsValue ((indentation level).toList ++ rest) := by
  intro c hc
  rw [toList_indentation] at hc
  exact Or.inr (Or.inl (Option.some.inj hc).symm)

theorem endsValue_comma (rest : List Char) : EndsValue (',' :: rest) :=
  fun _ hc => Or.inl (Option.some.inj hc).symm

/-- A text of spaces and line breaks, which leaves no token. -/
def Passes (text : String) : Prop := ∀ rest, tokens? (text.toList ++ rest) = tokens? rest

theorem passes_empty : Passes "" := fun _ => rfl

theorem passes_indentation (level : Nat) : Passes (indentation level) :=
  tokens?_indentation level

section Bracketed

variable {α : Type} {text : α → String} {tokens : α → List Token} {items : List α}

theorem intercalate_comma_cons_cons (tokens : α → List Token) (first second : α) (rest : List α) :
    List.intercalate [.comma] ((first :: second :: rest).map tokens) =
      tokens first ++ .comma :: List.intercalate [.comma] ((second :: rest).map tokens) := by
  simp [List.intercalate_cons_cons]

/-- Entries with commas and spaces between them. -/
theorem cutsInto_intercalate (hitems : ∀ item ∈ items, CutsInto (text item) (tokens item))
    (hsome : items ≠ []) {space : String} (hspace : Passes space) :
    CutsInto (String.intercalate ("," ++ space) (items.map text))
      (List.intercalate [.comma] (items.map tokens)) := by
  have hcomma : ",".toList = [','] := by decide
  induction items with
  | nil => exact absurd rfl hsome
  | cons item items ih =>
    rw [List.forall_mem_cons] at hitems
    cases items with
    | nil => simpa using hitems.1
    | cons second items =>
      have hrest := ih hitems.2 (List.cons_ne_nil _ _)
      intro rest hends
      rw [List.map_cons, List.map_cons, String.intercalate_cons_cons, ← List.map_cons]
      simp only [String.toList_append, List.append_assoc, hcomma, List.cons_append, List.nil_append]
      rw [hitems.1 _ (endsValue_comma _), tokens?_of_takeToken rfl, hspace,
        hrest rest hends, Option.map_map, Option.map_map,
        intercalate_comma_cons_cons]
      simp [Function.comp_def]

/-- Brackets around a text, with space on both sides of it. -/
theorem cutsInto_enclosed {opening closing before inner after : String} {first last : Token}
    {middle : List Token} (hopening : ∀ rest, takeToken (opening.toList ++ rest) = some (first, rest))
    (hclosing : ∀ rest, takeToken (closing.toList ++ rest) = some (last, rest))
    (hbefore : Passes before) (hinner : CutsInto inner middle) (hafter : Passes after)
    (hends : ∀ rest, EndsValue (after.toList ++ (closing.toList ++ rest))) :
    CutsInto (opening ++ before ++ inner ++ after ++ closing) (first :: middle ++ [last]) := by
  intro rest _
  simp only [String.toList_append, List.append_assoc]
  rw [tokens?_of_takeToken (hopening _), hbefore, hinner _ (hends _), hafter,
    tokens?_of_takeToken (hclosing _), Option.map_map, Option.map_map]
  simp [Function.comp_def]

/-- Brackets around nothing. -/
theorem cutsInto_brackets {opening closing : String} {first last : Token}
    (hopening : ∀ rest, takeToken (opening.toList ++ rest) = some (first, rest))
    (hclosing : ∀ rest, takeToken (closing.toList ++ rest) = some (last, rest)) :
    CutsInto (opening ++ closing) [first, last] := by
  intro rest _
  simp only [String.toList_append, List.append_assoc]
  rw [tokens?_of_takeToken (hopening _), tokens?_of_takeToken (hclosing _), Option.map_map]
  simp [Function.comp_def]

/-- Entries between brackets, each on a line of its own. -/
theorem cutsInto_bracketed {opening closing : String} {first last : Token}
    (hopening : ∀ rest, takeToken (opening.toList ++ rest) = some (first, rest))
    (hclosing : ∀ rest, takeToken (closing.toList ++ rest) = some (last, rest))
    (hitems : ∀ item ∈ items, CutsInto (text item) (tokens item)) (level : Nat) :
    CutsInto (bracketed opening closing level (items.map text))
      (first :: List.intercalate [.comma] (items.map tokens) ++ [last]) := by
  unfold bracketed
  split
  · next hempty =>
    obtain rfl : items = [] := by simpa using hempty
    exact cutsInto_brackets hopening hclosing
  · next hempty =>
    have hsome : items ≠ [] := by simpa using hempty
    exact cutsInto_enclosed hopening hclosing (passes_indentation _)
      (cutsInto_intercalate hitems hsome (passes_indentation _)) (passes_indentation _)
      fun _ => endsValue_indentation _ _

/-- Entries between brackets on one line, without any space. -/
theorem cutsInto_packed {opening closing : String} {first last : Token}
    (hopening : ∀ rest, takeToken (opening.toList ++ rest) = some (first, rest))
    (hclosing : ∀ rest, takeToken (closing.toList ++ rest) = some (last, rest))
    (hends : ∀ rest, EndsValue (closing.toList ++ rest))
    (hitems : ∀ item ∈ items, CutsInto (text item) (tokens item)) :
    CutsInto (opening ++ String.intercalate "," (items.map text) ++ closing)
      (first :: List.intercalate [.comma] (items.map tokens) ++ [last]) := by
  by_cases hsome : items = []
  · subst hsome
    simpa using cutsInto_brackets hopening hclosing
  · have hinner := cutsInto_intercalate hitems hsome passes_empty
    simpa using cutsInto_enclosed hopening hclosing passes_empty hinner passes_empty hends

end Bracketed

end ApiManual.Json
