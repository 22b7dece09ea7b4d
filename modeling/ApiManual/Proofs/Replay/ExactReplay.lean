import ApiManual.Proofs.Archive.Recording
import ApiManual.Proofs.Manual.Recording
import ApiManual.Proofs.Replay.Choice
import ApiManual.Proofs.Replay.Likeness

/-!
# Replaying what was recorded

Recording does not disturb routing, and both recording and answering look at paths relative to the
same base. So a recorded request is routed to the endpoint that holds the recording. There nothing
scores more than the recording itself, and what scores as much agrees with it.
-/

namespace ApiManual

open Replay

namespace Responder

variable {responder : Responder} {exchange : Exchange}

theorem ofManual_eq {manual : Manual} {base : Option String} (hbase : manual.basePath = .ok base) :
    ofManual manual = .ok ⟨manual, base⟩ := by
  rw [ofManual, hbase]
  rfl

theorem basePath_of_ofManual {manual : Manual} (hresponder : ofManual manual = .ok responder) :
    manual.basePath = .ok responder.base := by
  rw [ofManual] at hresponder
  cases hbase : manual.basePath with
  | error failure =>
    rw [hbase] at hresponder
    cases hresponder
  | ok base =>
    rw [hbase] at hresponder
    obtain rfl := Except.ok.inj hresponder
    rfl

/-- Another exchange records the same request: path relative to the base, method, query, form, value
of a JSON body and headers agree. -/
def repeats (responder : Responder) (exchange other : Exchange) : Bool :=
  (responder.relativeRequest other.request).agrees (responder.relativeRequest exchange.request)

def ownScore (responder : Responder) (exchange : Exchange) : Nat :=
  selfScore (responder.relativeRequest exchange.request)

theorem scoreOf?_le_ownScore {other : Exchange} {points : Nat}
    (hscore : responder.scoreOf? (responder.relativeRequest exchange.request) other = some points) :
    points ≤ responder.ownScore exchange :=
  score?_le_selfScore hscore

theorem scoreOf?_eq_ownScore_iff {other : Exchange} :
    responder.scoreOf? (responder.relativeRequest exchange.request) other =
      some (responder.ownScore exchange) ↔ responder.repeats exchange other = true :=
  score?_eq_selfScore_iff

/-- A request that is routed to an endpoint with its recording is answered by the earliest recording
of the same request. -/
theorem choose?_eq_find? (responder : Responder) {holder : Endpoint}
    (hroute : responder.manual.registry.route?
      (BasePath.relative responder.base exchange.request.path) exchange.request.method =
        some holder)
    (hmem : exchange ∈ holder.exchanges)
    (hmethod : lowercase exchange.request.method = exchange.request.method) :
    ∃ answer, holder.exchanges.find? (responder.repeats exchange) = some answer ∧
      responder.choose? exchange.request = some answer := by
  have hown : responder.scoreOf? (responder.relativeRequest exchange.request) exchange =
      some (responder.ownScore exchange) :=
    scoreOf?_eq_ownScore_iff.2 (agrees_self _)
  obtain ⟨answer, hbest, hfind⟩ := bestOf_eq_find? hmem hown fun other _ points hpoints =>
    scoreOf?_le_ownScore hpoints
  refine ⟨answer, ?_, ?_⟩
  · rw [← hfind]
    congr 1
    funext other
    rw [Bool.eq_iff_iff, beq_iff_eq]
    exact scoreOf?_eq_ownScore_iff.symm
  · have hrouted : responder.manual.registry.route?
        (responder.relativeRequest exchange.request).path exchange.request.method = some holder :=
      hroute
    have hcandidate : { responder.relativeRequest exchange.request with
        method := lowercase exchange.request.method } =
          responder.relativeRequest exchange.request := by
      rw [hmethod]
      rfl
    simp only [choose?, Option.bind_eq_bind, hrouted, Option.bind_some, hcandidate, hbest]
    rfl

/-- **Exact replay.** When the exchanges of an archive were recorded in a manual, every one of them
that was recorded at all can be replayed: its request is answered by the earliest exchange of its
endpoint, older ones included, that agrees with it in relative path, method, query, form, value of a
JSON body and headers. -/
theorem respond_recorded {manual recorded : Manual} {archive : Archive} {count : Nat}
    (hattach : manual.attach archive.exchanges = .ok (recorded, count)) :
    ∃ responder, ofManual recorded = .ok responder ∧
      ∀ exchange ∈ archive.exchanges, ∀ endpoint,
        manual.registry.route? (BasePath.relative responder.base exchange.request.path)
            exchange.request.method = some endpoint →
          ∃ holder answer,
            holder = endpoint.extended
              (manual.recordedAt responder.base archive.exchanges endpoint.key) ∧
            holder ∈ recorded.registry.items ∧ exchange ∈ holder.exchanges ∧
            holder.exchanges.find? (responder.repeats exchange) = some answer ∧
            responder.choose? exchange.request = some answer ∧
            responder.respond exchange.request = answer.response := by
  obtain ⟨base, _, hbase, hrecords⟩ := Manual.records_of_attach hattach
  refine ⟨⟨recorded, base⟩, ofManual_eq hbase, ?_⟩
  intro exchange hmem endpoint hroute
  let holder := endpoint.extended (manual.recordedAt base archive.exchanges endpoint.key)
  have hholder : recorded.registry.route? (BasePath.relative base exchange.request.path)
      exchange.request.method = some holder := by
    rw [hrecords.route?_eq, hroute, Option.map_some]
  have hrecorded : exchange ∈ manual.recordedAt base archive.exchanges endpoint.key := by
    refine List.mem_filter.2 ⟨hmem, ?_⟩
    rw [decide_eq_true_eq, Manual.homeOf, hroute, Option.map_some]
  have hheld : exchange ∈ holder.exchanges := List.mem_append_right _ hrecorded
  obtain ⟨answer, hfind, hchoose⟩ := choose?_eq_find? ⟨recorded, base⟩ hholder hheld
    (Archive.written_of_mem hmem).request.method
  refine ⟨holder, answer, rfl, (Registry.of_route?_eq_some hholder).1, hheld, hfind, hchoose, ?_⟩
  rw [respond_eq, hchoose, Option.elim_some]

def photoManual : Manual where
  title := "Photos"
  version := none
  baseUri := none
  mediaType := none
  protocols := []
  articles := []
  registry := Registry.insertAll .empty [Endpoint.bare "/photo" "get"]

/-- A search for photos by tags. -/
def photoSearch (path : String) (tags : List String) (status : Nat) : Exchange where
  request := { Request.bare "get" path with query := .ofPairs (tags.map ("tag", ·)) }
  response := ⟨status, none, .empty, none⟩
  visible := false

abbrev photoExchange : Exchange := photoSearch "/photo" [] 200

/-- The photos below a base, with their recording. -/
def basedManual : Manual :=
  { photoManual with
    baseUri := some "/api/v1"
    registry := .insertAll .empty [(Endpoint.bare "/photo" "get").addExchange photoExchange] }

/-- The first one repeats what the manual has already, the second and the third differ in a header,
and the fourth repeats the third. The last one belongs to no endpoint. -/
def photoRecords : List Exchange := [
  photoSearch "/api/v1/photo" [] 203,
  { photoSearch "/api/v1/photo" ["moon", "sea"] 406 with
    request.headers := .ofList _ [("Accept", "text/html")] },
  photoSearch "/api/v1/photo/" ["moon", "sea"] 206,
  photoSearch "/api/v1/photo" ["moon", "sea"] 304,
  { photoExchange with request := Request.bare "delete" "/api/v1/photo" }]

theorem exchanges_photoRecords : (Archive.holding photoRecords).exchanges = photoRecords := by
  refine Archive.exchanges_holding (fun exchange hmem => ?_) (by decide)
  simp only [photoRecords, List.mem_cons, List.not_mem_nil, or_false] at hmem
  rcases hmem with rfl | rfl | rfl | rfl | rfl
  all_goals exact ⟨Request.written_of_form_eq_none (by decide) rfl, by decide⟩

theorem route?_photoSearch (tags : List String) (status : Nat) :
    basedManual.registry.route?
        (BasePath.relative (some "/api/v1") (photoSearch "/api/v1/photo" tags status).request.path)
        (photoSearch "/api/v1/photo" tags status).request.method =
      some ((Endpoint.bare "/photo" "get").addExchange photoExchange) := by
  have hpath : BasePath.relative (some "/api/v1") "/api/v1/photo" = "/photo" := by decide
  have hmethod : lowercase "get" = "get" := by decide
  have hroute : basedManual.registry.route? "/photo" "get" =
      some ((Endpoint.bare "/photo" "get").addExchange photoExchange) := rfl
  rw [photoSearch, Request.bare, hpath, hmethod, hroute]

/-- A search is answered by the earliest one of the same tags and headers, the one without tags by
what was there before the archive was attached. -/
theorem respond_photoRecords :
    ∃ recorded count responder holder,
      basedManual.attach (Archive.holding photoRecords).exchanges = .ok (recorded, count) ∧
        ofManual recorded = .ok responder ∧ holder ∈ recorded.registry.items ∧
        holder.exchanges = photoExchange :: photoRecords.take 4 ∧
        responder.choose? (photoSearch "/api/v1/photo" [] 203).request = some photoExchange ∧
        responder.respond (photoSearch "/api/v1/photo" [] 203).request = photoExchange.response ∧
        responder.choose? (photoSearch "/api/v1/photo" ["moon", "sea"] 304).request =
          some (photoSearch "/api/v1/photo/" ["moon", "sea"] 206) ∧
        (responder.respond (photoSearch "/api/v1/photo" ["moon", "sea"] 304).request).status =
          206 := by
  obtain ⟨recorded, count, hattach⟩ : ∃ recorded count,
      basedManual.attach (Archive.holding photoRecords).exchanges = .ok (recorded, count) :=
    ⟨_, _, rfl⟩
  obtain ⟨responder, hresponder, hreplay⟩ := respond_recorded hattach
  have hbase : responder.base = some "/api/v1" := by
    obtain ⟨base, hmanual, hrecorded, _⟩ := Manual.records_of_attach hattach
    obtain rfl := Except.ok.inj (hresponder.symm.trans (ofManual_eq hrecorded))
    exact (Except.ok.inj hmanual).symm
  have hroute := route?_photoSearch
  rw [← hbase] at hroute
  rw [exchanges_photoRecords] at hreplay
  obtain ⟨holder, answer, hholder, hitem, _, hfind, hchoose, hrespond⟩ :=
    hreplay (photoSearch "/api/v1/photo" [] 203) (by simp [photoRecords]) _ (hroute [] 203)
  obtain ⟨_, moon, rfl, _, _, hfindMoon, hchooseMoon, hrespondMoon⟩ :=
    hreplay (photoSearch "/api/v1/photo" ["moon", "sea"] 304) (by simp [photoRecords]) _
      (hroute _ _)
  have hexchanges : holder.exchanges = photoExchange :: photoRecords.take 4 := by
    rw [hholder, hbase]
    rfl
  have hrepeats : responder.repeats = (Responder.mk basedManual (some "/api/v1")).repeats := by
    funext exchange other
    rw [repeats, repeats, relativeRequest, relativeRequest, hbase]
    rfl
  rw [← hholder, hexchanges, hrepeats] at hfindMoon
  rw [hexchanges, hrepeats] at hfind
  have hplain : (photoExchange :: photoRecords.take 4).find?
      ((Responder.mk basedManual (some "/api/v1")).repeats (photoSearch "/api/v1/photo" [] 203)) =
        some photoExchange := by
    rfl
  have hmoon : (photoExchange :: photoRecords.take 4).find?
      ((Responder.mk basedManual (some "/api/v1")).repeats
        (photoSearch "/api/v1/photo" ["moon", "sea"] 304)) =
        some (photoSearch "/api/v1/photo/" ["moon", "sea"] 206) := by
    rfl
  obtain rfl := Option.some.inj (hfind.symm.trans hplain)
  obtain rfl := Option.some.inj (hfindMoon.symm.trans hmoon)
  refine ⟨recorded, count, responder, holder, hattach, hresponder, hitem, hexchanges, hchoose,
    hrespond, hchooseMoon, ?_⟩
  rw [hrespondMoon]
  rfl

end Responder

end ApiManual
