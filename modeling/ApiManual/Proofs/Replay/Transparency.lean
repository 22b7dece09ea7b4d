import ApiManual.Proofs.BasePath.Usable
import ApiManual.Proofs.Replay.ExactReplay

/-!
# Paths that get the same answer

A request is routed, and compared with recordings, by its path relative to the base. The base is taken
off the front and one slash off the end, so a path of the API may be asked for with or without the
base, and with or without a slash at its end. For the slash it matters that a base never ends in one:
else the slash that is added could complete the base.
-/

namespace ApiManual

namespace Responder

open BasePath

variable {responder : Responder} {manual : Manual}

/-- Of the path of a request only the relative path counts. -/
theorem choose?_congr (request : Request) {path other : String}
    (hsame : relative responder.base path = relative responder.base other) :
    responder.choose? { request with path } = responder.choose? { request with path := other } := by
  have hrelative : responder.relativeRequest { request with path } =
      responder.relativeRequest { request with path := other } := by
    rw [relativeRequest, relativeRequest, hsame]
  rw [choose?, choose?, hrelative]

/-- **Base and final slash do not matter.** A responder of a manual gives the same answer for a path of
the API with the base before it, and for a path with a slash behind it. The path to which the base is
added must not have it already, and that to which the slash is added must not end in one. -/
theorem choose?_relative (hresponder : ofManual manual = .ok responder) (request : Request) :
    (∀ base path, responder.base = some base → Rooted path.toList →
        ¬ Below base.toList path.toList →
        responder.choose? { request with path := base ++ path } =
          responder.choose? { request with path }) ∧
      ∀ path, path.toList.getLast? ≠ some '/' →
        responder.choose? { request with path := path ++ "/" } =
          responder.choose? { request with path } := by
  constructor
  · intro base path hbase hrooted hbelow
    refine choose?_congr request ?_
    rw [hbase]
    exact relative_append hrooted hbelow
  · intro path hpath
    refine choose?_congr request (relative_append_slash ?_ hpath)
    intro base hbase
    have hmanual := basePath_of_ofManual hresponder
    rw [Option.mem_def.1 hbase] at hmanual
    exact getLast?_of_ofUri hmanual

def based : Responder := ⟨basedManual, some "/api/v1"⟩

theorem choose?_based :
    ofManual basedManual = .ok based ∧
      based.choose? (Request.bare "get" ("/api/v1" ++ "/photo")) = some photoExchange ∧
      based.choose? (Request.bare "get" ("/api/v1/photo" ++ "/")) = some photoExchange := by
  have hresponder : ofManual basedManual = .ok based := rfl
  have hplain : based.choose? (Request.bare "get" "/photo") = some photoExchange := rfl
  obtain ⟨hbase, hslash⟩ := choose?_relative hresponder (Request.bare "get" "/photo")
  have hbelow : ¬ Below "/api/v1".toList "/photo".toList := by
    rintro ⟨rest, -, heq⟩
    exact absurd (List.prefix_append "/api/v1".toList rest) (heq ▸ by decide)
  have hbased := (hbase "/api/v1" "/photo" rfl (by decide) hbelow).trans hplain
  exact ⟨hresponder, hbased, (hslash "/api/v1/photo" (by decide)).trans hbased⟩

end Responder

end ApiManual
