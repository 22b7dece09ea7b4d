import ApiManual.Failure

/-!
# File patterns

A pattern describes paths. A question mark stands for any character, a star for any text, two stars as
a whole component for any number of components, and square brackets for one of the characters in
them, or none of them after an exclamation mark. A star also reaches over slashes.
-/

namespace ApiManual

/-- One character or a range of them. -/
inductive CharChoice where
  | one (c : Char)
  | range (first last : Char)
deriving DecidableEq, Repr

namespace CharChoice

def holds (c : Char) : CharChoice → Bool
  | .one other => c == other
  | .range first last => first ≤ c && c ≤ last

/-- The choices between square brackets. A hyphen between two characters makes a range. -/
def ofList : List Char → List CharChoice
  | first :: '-' :: last :: rest => .range first last :: ofList rest
  | c :: rest => .one c :: ofList rest
  | [] => []

end CharChoice

inductive PatternToken where
  | char (c : Char)
  | anyChar
  | anyText
  | anyComponents
  | within (choices : List CharChoice)
  | except (choices : List CharChoice)
deriving DecidableEq, Repr

abbrev Pattern := List PatternToken

namespace Pattern

/-- What a group in square brackets contains and what follows it. The first character is taken as it
is, so that a closing bracket can be one of the choices. -/
def takeGroup : List Char → Option (List Char × List Char)
  | first :: rest =>
    let more := rest.takeWhile (· ≠ ']')
    match rest.drop more.length with
    | ']' :: after => some (first :: more, after)
    | _ => none
  | [] => none

theorem length_takeGroup {text group after : List Char}
    (h : takeGroup text = some (group, after)) : after.length < text.length := by
  unfold takeGroup at h
  split at h
  · next first rest =>
    simp only at h
    split at h
    · next tail found =>
      simp only [Option.some.injEq, Prod.mk.injEq] at h
      rw [← h.2]
      have := congrArg List.length found
      simp only [List.length_drop, List.length_cons] at this ⊢
      omega
    · simp at h
  · simp at h

/-- Two stars come to one token after another of its kind, but not at the very start. -/
def pushComponents (done : List PatternToken) : List PatternToken :=
  if done.length > 1 ∧ done.head? = some .anyComponents then done else .anyComponents :: done

/-- Reads a pattern. `done` holds the tokens so far in reverse, `previous` the character before. -/
def readFrom (done : List PatternToken) (previous : Option Char) (text : List Char) :
    Except PatternFault Pattern :=
  match text with
  | [] => .ok done.reverse
  | '?' :: rest => readFrom (.anyChar :: done) (some '?') rest
  | '*' :: '*' :: '*' :: _ => .error .tooManyStars
  | '*' :: '*' :: rest =>
    if previous.all (· == '/') then
      match rest with
      | [] => .ok (pushComponents done).reverse
      | '/' :: rest => readFrom (pushComponents done) (some '/') rest
      | _ => .error .starsInComponent
    else .error .starsInComponent
  | '*' :: rest => readFrom (.anyText :: done) (some '*') rest
  | '[' :: '!' :: rest =>
    match _taken : takeGroup rest with
    | some (group, after) => readFrom (.except (CharChoice.ofList group) :: done) (some ']') after
    | none => .error .badRange
  | '[' :: rest =>
    match _taken : takeGroup rest with
    | some (group, after) => readFrom (.within (CharChoice.ofList group) :: done) (some ']') after
    | none => .error .badRange
  | c :: rest => readFrom (.char c :: done) (some c) rest
termination_by text.length
decreasing_by
  all_goals simp only [List.length_cons]
  all_goals first
    | omega
    | exact Nat.lt_add_right 2 (length_takeGroup _taken)
    | exact Nat.lt_succ_of_lt (length_takeGroup _taken)

def read (text : String) : Except Failure Pattern :=
  match readFrom [] none text.toList with
  | .ok pattern => .ok pattern
  | .error fault => .error (.pattern text fault)

def PatternToken.holds (c : Char) : PatternToken → Bool
  | .char other => c == other
  | .anyChar => true
  | .within choices => choices.any (·.holds c)
  | .except choices => !choices.any (·.holds c)
  | .anyText => false
  | .anyComponents => false

/-- The texts that follow a slash in a text. -/
def afterSlashes : List Char → List (List Char)
  | [] => []
  | c :: rest => if c = '/' then rest :: afterSlashes rest else afterSlashes rest

/-- All ends of a text, itself and the empty one included. -/
def ends : List Char → List (List Char)
  | [] => [[]]
  | c :: rest => (c :: rest) :: ends rest

/-- The pattern describes the whole of a text. Two stars go on at the text itself, after one of its
slashes, or at its end. -/
def fits : Pattern → List Char → Bool
  | [], text => text.isEmpty
  | .anyText :: pattern, text => (ends text).any (fits pattern)
  | .anyComponents :: pattern, text => (text :: afterSlashes text ++ [[]]).any (fits pattern)
  | token :: pattern, c :: rest => PatternToken.holds c token && fits pattern rest
  | _ :: _, [] => false

end Pattern

end ApiManual
