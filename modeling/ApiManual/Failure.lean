/-!
# Failures

What can go wrong outside the annotations, each with its cause. The wording is in one place.
-/

namespace ApiManual

inductive IoFault where
  | notFound
  | fileExists
  | notADirectory
  | isADirectory
  | invalidArgument
  | nameTooLong
  | addressNotAvailable
  | nulInName
  | invalidText
  /-- Any other, in the words of the machine. -/
  | other (text : String)
deriving DecidableEq, Repr

def IoFault.message : IoFault → String
  | .notFound => "No such file or directory (os error 2)"
  | .fileExists => "File exists (os error 17)"
  | .notADirectory => "Not a directory (os error 20)"
  | .isADirectory => "Is a directory (os error 21)"
  | .invalidArgument => "Invalid argument (os error 22)"
  | .nameTooLong => "File name too long (os error 36)"
  | .addressNotAvailable => "Cannot assign requested address (os error 99)"
  | .nulInName => "file name contained an unexpected NUL byte"
  | .invalidText => "stream did not contain valid UTF-8"
  | .other text => text

inductive PatternFault where
  | tooManyStars
  | starsInComponent
  | badRange
deriving DecidableEq, Repr

def PatternFault.message : PatternFault → String
  | .tooManyStars => "wildcards are either regular `*` or recursive `**`"
  | .starsInComponent => "recursive wildcards must form a single path component"
  | .badRange => "invalid range pattern"

inductive Failure where
  | io (fault : IoFault)
  /-- A text is no JSON, or not of the shape that is asked for. -/
  | json
  | pattern (text : String) (fault : PatternFault)
  | invalidBaseUri (uri : String)
  | unknownFormat (name : String)
  /-- An item of a collection is of the wrong kind. -/
  | mismatch (expected found : String)
  /-- A failure that is reported by what was attempted. -/
  | attempt (description : String)
deriving DecidableEq, Repr

def Failure.message : Failure → String
  | .io fault => "I/O error: " ++ fault.message
  | .json => "JSON error"
  | .pattern text fault => "Invalid glob pattern `" ++ text ++ "`: " ++ fault.message
  | .invalidBaseUri uri => "Invalid base URI `" ++ uri ++ "`"
  | .unknownFormat name => "Unknown generator type: " ++ name
  | .mismatch expected found => "item is not of type " ++ expected ++ " (found " ++ found ++ ")"
  | .attempt description => description

/-- The value, or a failure to read it. -/
def orJson {α : Type} : Option α → Except Failure α
  | some x => .ok x
  | none => .error .json

/-- What gives a value in two steps gave one in the first. -/
theorem exists_of_bind_eq_ok {ε α β : Type} {first : Except ε α} {next : α → Except ε β}
    {result : β} (hresult : first >>= next = .ok result) :
    ∃ value, first = .ok value ∧ next value = .ok result := by
  cases first with
  | error failure => cases hresult
  | ok value => exact ⟨value, rfl, hresult⟩

end ApiManual
