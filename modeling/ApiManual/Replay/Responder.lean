import ApiManual.Manual
import ApiManual.Replay.Score

/-!
# Answering from recordings

A responder answers a request with the response of a recorded exchange. The request is routed to an
endpoint, and of the exchanges of that endpoint the one whose request is most like it is chosen, the
earliest of several.
-/

namespace ApiManual

structure Responder where
  manual : Manual
  base : Option String

namespace Responder

def ofManual (manual : Manual) : Except Failure Responder :=
  manual.basePath.map fun base => ⟨manual, base⟩

def relativeRequest (responder : Responder) (request : Request) : Request :=
  { request with path := BasePath.relative responder.base request.path }

/-- The score of a recorded exchange for a request whose path is relative already. -/
def scoreOf? (responder : Responder) (candidate : Request) (exchange : Exchange) : Option Nat :=
  Replay.score? (responder.relativeRequest exchange.request) candidate

/-- The exchange with the highest score, the earliest of several; `best` is that of the exchanges
before, with its score. -/
def bestOf (responder : Responder) (candidate : Request) (best : Option (Nat × Exchange)) :
    List Exchange → Option (Nat × Exchange)
  | [] => best
  | exchange :: rest =>
    match responder.scoreOf? candidate exchange with
    | none => responder.bestOf candidate best rest
    | some points =>
      if best.all fun (top, _) => points > top then
        responder.bestOf candidate (some (points, exchange)) rest
      else responder.bestOf candidate best rest

def choose? (responder : Responder) (request : Request) : Option Exchange := do
  let relative := responder.relativeRequest request
  let endpoint ← Registry.route? responder.manual.registry relative.path request.method
  let candidate := { relative with method := lowercase request.method }
  let best ← responder.bestOf candidate none endpoint.exchanges
  return best.2

/-- The response to a request that no recording fits. -/
def notFound : Response where
  status := 404
  reason := some "Example Not Found"
  headers := .empty
  body := some ""

def respond (responder : Responder) (request : Request) : Response :=
  match responder.choose? request with
  | some exchange => exchange.response
  | none => notFound

end Responder

end ApiManual
