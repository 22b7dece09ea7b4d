import ApiManual.Exchange.Message

/-!
# Likeness of requests

How much a recorded request is like another one: the number of features, out of seven, that the two
share. Requests to different paths or with different methods are not compared at all.
-/

namespace ApiManual.Replay

/-- Two forms with fields under the same names. -/
def sameFormNames : Option FieldMap → Option FieldMap → Bool
  | some a, some b => !a.isEmpty && !b.isEmpty && a.sameNames b
  | _, _ => false

/-- Two objects with members under the same keys. -/
def sameBodyKeys : Option Json → Option Json → Bool
  | some (.object a), some (.object b) =>
    a.length == b.length && (a.map (·.1)).all ((b.map (·.1)).contains ·)
  | _, _ => false

def sameBody : Option Json → Option Json → Bool
  | none, none => true
  | some a, some b => a.same b
  | _, _ => false

/-- The seven features, each of which two requests share or not: names and values of the query, names
and values of the form, keys and value of a JSON body, headers. -/
def sharedFeatures (a b : Request) : List Bool :=
  [a.query.sameNames b.query,
    a.query.same b.query,
    sameFormNames a.form b.form,
    Request.sameForm a.form b.form,
    sameBodyKeys a.bodyValue? b.bodyValue?,
    sameBody a.bodyValue? b.bodyValue?,
    a.headers.same b.headers]

def score? (recorded candidate : Request) : Option Nat :=
  if recorded.path = candidate.path ∧ recorded.method = candidate.method then
    some ((sharedFeatures recorded candidate).count true)
  else none

end ApiManual.Replay
