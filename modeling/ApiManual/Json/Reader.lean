import ApiManual.Json.Token

/-!
# Reading JSON

The text is cut into tokens, then a machine with a stack of open arrays and objects takes the tokens
one after the other. Every token either fits what the machine expects or makes the text no JSON. An
array or object inside 127 others is read over: it stands in the tree as unreadable.
-/

namespace ApiManual.Json

theorem length_takeDigits (text : List Char) :
    (takeDigits text).2.length + (takeDigits text).1.length = text.length := by
  induction text with
  | nil => rfl
  | cons c rest ih =>
    unfold takeDigits
    split
    · simp only [List.length_cons]; omega
    · simp

theorem length_takeDecimals {text after : List Char} {decimals : Option (List Nat)}
    (h : takeDecimals text = some (decimals, after)) : after.length ≤ text.length := by
  unfold takeDecimals at h
  split at h
  · next rest =>
    have := length_takeDigits rest
    split at h
    · simp at h
    · next digits tail _ found =>
      rw [found] at this
      simp only [Option.some.injEq, Prod.mk.injEq] at h
      rw [← h.2]
      simp only [List.length_cons] at this ⊢
      omega
  · simp only [Option.some.injEq, Prod.mk.injEq] at h
    exact Nat.le_of_eq (congrArg List.length h.2.symm)

theorem length_takeSign (text : List Char) : (takeSign text).2.length ≤ text.length := by
  unfold takeSign
  split <;> simp

theorem length_takeExponent {text after : List Char} {exponent : Option (Bool × List Nat)}
    (h : takeExponent text = some (exponent, after)) : after.length ≤ text.length := by
  unfold takeExponent at h
  split at h
  · simp only [Option.some.injEq, Prod.mk.injEq] at h
    exact Nat.le_of_eq (congrArg List.length h.2.symm)
  · next c rest =>
    split at h
    · simp only at h
      split at h
      · simp at h
      · next digits tail _ found =>
        have taken := length_takeDigits (takeSign rest).2
        rw [found] at taken
        have := length_takeSign rest
        simp only [Option.some.injEq, Prod.mk.injEq] at h
        rw [← h.2]
        simp only [List.length_cons] at taken ⊢
        omega
    · simp only [Option.some.injEq, Prod.mk.injEq] at h
      exact Nat.le_of_eq (congrArg List.length h.2.symm)

theorem length_takeNumeral {negative : Bool} {text after : List Char} {numeral : Numeral}
    (h : takeNumeral negative text = some (numeral, after)) : after.length < text.length := by
  have digits := length_takeDigits text
  simp only [takeNumeral] at h
  split at h
  · simp at h
  · simp at h
  · next whole nonempty _ =>
    simp only [Option.bind_eq_bind, Option.bind_eq_some_iff, Prod.exists, Option.some.injEq,
      Prod.mk.injEq] at h
    obtain ⟨decimals, rest, first, exponent, rest', second, _, rfl⟩ := h
    have := length_takeDecimals first
    have := length_takeExponent second
    have : (takeDigits text).1.length ≠ 0 := by
      intro zero
      exact nonempty (List.length_eq_zero_iff.1 zero)
    omega

theorem length_takeUnits {text after : List Char} {units : List Nat}
    (h : takeUnits text = some (units, after)) : after.length < text.length := by
  fun_induction takeUnits text generalizing units with
  | case1 => simp at h
  | case2 rest => simp_all
  | case3 a b c d rest ih =>
    simp only [Option.bind_eq_bind, Option.bind_eq_some_iff, Prod.exists, Option.some.injEq,
      Prod.mk.injEq] at h
    obtain ⟨unit, _, units', after', taken, _, rfl⟩ := h
    have := ih taken
    simp only [List.length_cons]
    omega
  | case4 c rest _ ih =>
    simp only [Option.bind_eq_bind, Option.bind_eq_some_iff, Prod.exists, Option.some.injEq,
      Prod.mk.injEq] at h
    obtain ⟨unit, _, units', after', taken, _, rfl⟩ := h
    have := ih taken
    simp only [List.length_cons]
    omega
  | case5 => simp at h
  | case6 c rest _ _ _ _ ih =>
    simp only [Option.bind_eq_bind, Option.bind_eq_some_iff, Prod.exists, Option.some.injEq,
      Prod.mk.injEq] at h
    obtain ⟨units', after', taken, _, rfl⟩ := h
    have := ih taken
    simp only [List.length_cons]
    omega

theorem length_takeToken {text after : List Char} {token : Token}
    (h : takeToken text = some (token, after)) : after.length < text.length := by
  unfold takeToken at h
  split at h
  case h_10 rest =>
    simp only [Option.map_eq_some_iff, Prod.exists, Prod.mk.injEq] at h
    obtain ⟨units, after', taken, _, rfl⟩ := h
    have := length_takeUnits taken
    simp only [List.length_cons]
    omega
  case h_11 rest =>
    simp only [Option.map_eq_some_iff, Prod.exists, Prod.mk.injEq] at h
    obtain ⟨numeral, after', taken, _, rfl⟩ := h
    have := length_takeNumeral taken
    simp only [List.length_cons]
    omega
  case h_12 =>
    simp only [Option.map_eq_some_iff, Prod.exists, Prod.mk.injEq] at h
    obtain ⟨numeral, after', taken, _, rfl⟩ := h
    exact length_takeNumeral taken
  all_goals
    simp only [Option.some.injEq, Prod.mk.injEq] at h
    rw [← h.2]
    simp only [List.length_cons]
    omega

/-- All tokens of a text; nothing when some part of it is no token. -/
def tokens? : List Char → Option (List Token)
  | [] => some []
  | c :: rest =>
    if isSpace c then tokens? rest
    else
      match _taken : takeToken (c :: rest) with
      | none => none
      | some (token, after) => (tokens? after).map (token :: ·)
termination_by text => text.length
decreasing_by
  · simp
  · exact length_takeToken _taken

/-- An array or object that is still open. Its items and members stand in reverse, and an object knows
the key whose value comes next. A key that denotes nothing makes its whole object unreadable. -/
inductive Frame where
  | array (items : List Json)
  | object (members : List (String × Json)) (readable : Bool) (key : String)

/-- What may come next. -/
inductive Expectation where
  | value
  | valueOrEnd
  | key
  | keyOrEnd
  | colon
  | separator
  | nothing (result : Json)

structure Machine where
  stack : List Frame
  expects : Expectation

/-- Containers may stand inside each other up to this number. -/
def greatestDepth : Nat := 127

/-- Takes a value that has ended. -/
def accept (json : Json) : List Frame → Machine
  | [] => ⟨[], .nothing json⟩
  | .array items :: outer => ⟨.array (json :: items) :: outer, .separator⟩
  | .object members readable key :: outer =>
    ⟨.object ((key, json) :: members) readable key :: outer, .separator⟩

def Frame.close : Frame → Json
  | .array items => .array items.reverse
  | .object members readable _ => if readable then .object members.reverse else .unreadable

/-- Closes the innermost container if it is of the right sort. -/
def close (isArray : Bool) : List Frame → Option Machine
  | [] => none
  | frame :: outer =>
    let fits := match frame with
      | .array _ => isArray
      | .object _ _ _ => !isArray
    if fits then
      some (accept (if outer.length < greatestDepth then frame.close else .unreadable) outer)
    else none

/-- Begins a value with a token, if a value can begin with it. -/
def beginValue (stack : List Frame) : Token → Option Machine
  | .null => some (accept .null stack)
  | .bool value => some (accept (.bool value) stack)
  | .number value => some (accept ((value.map .number).getD .unreadable) stack)
  | .string value => some (accept ((value.map .string).getD .unreadable) stack)
  | .openArray => some ⟨.array [] :: stack, .valueOrEnd⟩
  | .openObject => some ⟨.object [] true "" :: stack, .keyOrEnd⟩
  | _ => none

/-- Takes a key of the innermost object. -/
def takeKey (stack : List Frame) (key : Option String) : Option Machine :=
  match stack with
  | .object members readable _ :: outer =>
    some ⟨.object members (readable && key.isSome) (key.getD "") :: outer, .colon⟩
  | _ => none

def Machine.step (machine : Machine) (token : Token) : Option Machine :=
  let stack := machine.stack
  match machine.expects, token with
  | .value, token => beginValue stack token
  | .valueOrEnd, .closeArray => close true stack
  | .valueOrEnd, token => beginValue stack token
  | .key, .string key => takeKey stack key
  | .keyOrEnd, .string key => takeKey stack key
  | .keyOrEnd, .closeObject => close false stack
  | .colon, .colon => some ⟨stack, .value⟩
  | .separator, .closeArray => close true stack
  | .separator, .closeObject => close false stack
  | .separator, .comma =>
    match stack with
    | .array _ :: _ => some ⟨stack, .value⟩
    | .object _ _ _ :: _ => some ⟨stack, .key⟩
    | [] => none
  | _, _ => none

/-- The tree of a JSON text; nothing when the text does not follow the grammar. -/
def read? (text : String) : Option Json := do
  let tokens ← tokens? text.toList
  let machine ← tokens.foldlM Machine.step ⟨[], .value⟩
  match machine.expects with
  | .nothing json => some json
  | _ => none

/-- The canonical value of a text. -/
def readValue? (text : String) : Option Json :=
  (read? text).bind canonical?

end ApiManual.Json
