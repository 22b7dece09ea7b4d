import ApiManual.Proofs.Annotation.Unrolling
import ApiManual.Proofs.Manual.Built
import ApiManual.Proofs.Manual.Restoring
import ApiManual.Proofs.Replay.ExactReplay
import ApiManual.Proofs.Replay.Reordering

/-!
# Answering from a document

A manual can be served right after it was built, or it can be written, read again and served then.
The documented endpoints come back with their exchanges, but companions come back empty. So the two
responders differ where an exchange was recorded with a companion. They may differ too where methods
have hyphens, since endpoints may then take each other's places while they are registered again.
-/

namespace ApiManual

open Replay

theorem Registry.route?_lowercase (registry : Registry) (path method : String) :
    registry.route? path (lowercase method) = registry.route? path method := by
  rw [route?, route?, position?, position?, lowercase_lowercase]

namespace Responder

/-- The chosen exchange was recorded for the path and method of the request. -/
theorem mem_of_choose?_eq_some {responder : Responder} {request : Request} {exchange : Exchange}
    (hchoose : responder.choose? request = some exchange) :
    ∃ endpoint, responder.home? request = some endpoint ∧ exchange ∈ endpoint.exchanges ∧
      BasePath.relative responder.base exchange.request.path =
        BasePath.relative responder.base request.path ∧
      exchange.request.method = lowercase request.method := by
  rw [choose?_eq] at hchoose
  obtain ⟨endpoint, hhome, hbest⟩ := Option.bind_eq_some_iff.1 hchoose
  obtain ⟨⟨top, best⟩, hleader, rfl⟩ := Option.map_eq_some_iff.1 hbest
  have hleads := leads_bestOf responder (responder.candidate request) endpoint.exchanges
    (leads_nil _)
  rw [List.nil_append, hleader] at hleads
  obtain ⟨before, after, hsplit, hscore, _, _⟩ := hleads
  refine ⟨endpoint, hhome, by simp [hsplit], ?_⟩
  unfold scoreOf? score? at hscore
  split at hscore
  · next hplace => exact hplace
  · cases hscore

variable {base : Option String} {manual : Manual}

theorem reordered_mem_restored {endpoint : Endpoint}
    (hmem : endpoint ∈ Registry.documented manual.registry) :
    endpoint.reordered ∈ manual.restored.registry.items := by
  refine Registry.mem_insertAll .empty ?_ (List.mem_map_of_mem hmem)
  have hkeys : ((Registry.documented manual.registry).map Endpoint.reordered).map Endpoint.key =
      (Registry.documented manual.registry).map Endpoint.key :=
    Keyed.map_map_key_eq fun _ _ => rfl
  rw [hkeys]
  exact manual.registry.distinct.sublist (List.filter_sublist.map Endpoint.key)

theorem documented_of_mem_restored {item : Endpoint} {exchange : Exchange}
    (hitem : item ∈ manual.restored.registry.items) (hmem : exchange ∈ item.exchanges) :
    ∃ endpoint ∈ Registry.documented manual.registry, item = endpoint.reordered := by
  rcases Registry.mem_or_companion_of_mem_insertAll hitem with hempty | hmap | ⟨path, rfl⟩
  · cases hempty
  · obtain ⟨endpoint, hendpoint, rfl⟩ := List.mem_map.1 hmap
    exact ⟨endpoint, hendpoint, rfl⟩
  · cases hmem

/-- Both responders route a request to the same documented endpoint. -/
def RouteKept (fresh served : Responder) (request : Request) : Prop :=
  ∃ endpoint, fresh.home? request = some endpoint ∧ endpoint.companion = false ∧
    (served.home? request).map Endpoint.key = some endpoint.key

theorem choose?_of_routeKept {request : Request}
    (hkept : RouteKept ⟨manual, base⟩ ⟨manual.restored, base⟩ request) :
    choose? ⟨manual.restored, base⟩ request =
      (choose? ⟨manual, base⟩ request).map Exchange.reordered := by
  obtain ⟨endpoint, hfresh, hdocumented, hserved⟩ := hkept
  obtain ⟨item, hitem, hkey⟩ := Option.map_eq_some_iff.1 hserved
  have hmem : endpoint ∈ Registry.documented manual.registry :=
    List.mem_filter.2 ⟨(Registry.of_route?_eq_some hfresh).1, by simp [hdocumented]⟩
  have hsame : item = endpoint.reordered :=
    Keyed.eq_of_key_eq (Registry.of_route?_eq_some hitem).1 (reordered_mem_restored hmem) hkey
  have hbest := bestOf_reordered ⟨manual, base⟩ ⟨manual.restored, base⟩ rfl
    (candidate ⟨manual, base⟩ request) none endpoint.exchanges
  rw [Option.map_none] at hbest
  calc
    choose? ⟨manual.restored, base⟩ request =
        (bestOf ⟨manual.restored, base⟩ (candidate ⟨manual, base⟩ request) none
          (endpoint.exchanges.map Exchange.reordered)).map (·.2) := by
      rw [choose?_eq, hitem, Option.bind_some, hsame]
      rfl
    _ = ((bestOf ⟨manual, base⟩ (candidate ⟨manual, base⟩ request) none
          endpoint.exchanges).map (·.2)).map Exchange.reordered := by
      rw [hbest, Option.map_map, Option.map_map]
      rfl
    _ = (choose? ⟨manual, base⟩ request).map Exchange.reordered := by
      rw [choose?_eq, hfresh, Option.bind_some]

/-- What a restored manual answers, it answers from the documented endpoint that the manual had for
the request. -/
theorem routeKept_of_choose? (hsettled : manual.Settled base) {request : Request}
    {exchange : Exchange} (hchoose : choose? ⟨manual.restored, base⟩ request = some exchange) :
    RouteKept ⟨manual, base⟩ ⟨manual.restored, base⟩ request := by
  obtain ⟨item, hhome, hmem, hpath, hmethod⟩ := mem_of_choose?_eq_some hchoose
  obtain ⟨endpoint, hendpoint, rfl⟩ :=
    documented_of_mem_restored (Registry.of_route?_eq_some hhome).1 hmem
  obtain ⟨recorded, hrecorded, rfl⟩ := List.mem_map.1 hmem
  -- Path and method of the recording are those of the request, so both are routed to its holder.
  have hroute := hsettled.home endpoint hendpoint recorded hrecorded
  have hplace : home? ⟨manual, base⟩ recorded.request = home? ⟨manual, base⟩ request := by
    have hsamePath : BasePath.relative base recorded.request.path =
        BasePath.relative base request.path := hpath
    have hsameMethod : recorded.request.method = lowercase request.method := hmethod
    rw [home?, home?, hsamePath, hsameMethod, Registry.route?_lowercase]
  obtain ⟨found, hfound, hkey⟩ := Option.map_eq_some_iff.1 hroute
  obtain ⟨hitem, hdocumented⟩ := List.mem_filter.1 hendpoint
  obtain rfl : found = endpoint := Keyed.eq_of_key_eq (Registry.of_route?_eq_some hfound).1 hitem hkey
  refine ⟨found, hplace.symm.trans hfound, by simpa using hdocumented, ?_⟩
  rw [hhome]
  rfl

/-- The two answers to a request are the same exactly if no exchange is lost for it that was
recorded for something else than not finding anything. -/
theorem same_respond_iff (hsettled : manual.Settled base) (request : Request) :
    (respond ⟨manual.restored, base⟩ request).same (respond ⟨manual, base⟩ request) = true ↔
      ∀ exchange, choose? ⟨manual, base⟩ request = some exchange →
        notFound.same exchange.response = true ∨
          RouteKept ⟨manual, base⟩ ⟨manual.restored, base⟩ request := by
  by_cases hkept : RouteKept ⟨manual, base⟩ ⟨manual.restored, base⟩ request
  · have hchoose := choose?_of_routeKept hkept
    refine iff_of_true ?_ fun _ _ => Or.inr hkept
    rw [respond_eq, hchoose, respond_eq]
    cases choose? ⟨manual, base⟩ request with
    | none => exact Response.same_self notFound
    | some exchange => exact exchange.response.same_reordered
  · have hnone : choose? ⟨manual.restored, base⟩ request = none := by
      by_contra hsome
      obtain ⟨exchange, hexchange⟩ := Option.ne_none_iff_exists'.1 hsome
      exact hkept (routeKept_of_choose? hsettled hexchange)
    rw [respond_eq, hnone, respond_eq]
    cases choose? ⟨manual, base⟩ request with
    | none => simp [Response.same_self]
    | some exchange => simp [hkept]

theorem routeKept_iff (harranged : Registry.Arranged manual.registry.items) (request : Request) :
    RouteKept ⟨manual, base⟩ ⟨manual.restored, base⟩ request ↔
      ∃ endpoint, home? ⟨manual, base⟩ request = some endpoint ∧ endpoint.companion = false := by
  constructor
  · rintro ⟨endpoint, hhome, hdocumented, _⟩
    exact ⟨endpoint, hhome, hdocumented⟩
  · rintro ⟨endpoint, hhome, hdocumented⟩
    refine ⟨endpoint, hhome, hdocumented, ?_⟩
    have hkey := Registry.map_key_route?_restored harranged (BasePath.relative base request.path)
      request.method
    exact hkey.trans (congrArg (Option.map Endpoint.key) hhome)

/-- A built manual can be written and read, and both can be served. -/
theorem document_of_attach {settings : Settings} {sources : List SourceFile} {archive : Archive}
    {count : Nat}
    (hattach : (Report.ofSources settings sources).manual.attach archive.exchanges =
      .ok (manual, count)) :
    ∃ base,
      Manual.Records base archive.exchanges (Report.ofSources settings sources).manual manual ∧
      manual.Settled base ∧ Manual.ofJson manual.toJson = .ok manual.restored ∧
      ofManual manual = .ok ⟨manual, base⟩ ∧
      ofManual manual.restored = .ok ⟨manual.restored, base⟩ := by
  obtain ⟨base, _, hbase, hrecords⟩ := Manual.records_of_attach hattach
  have hsettled : manual.Settled base :=
    hrecords.settled (fun _ hmem => Report.drafted_of_documented hmem)
      (fun _ hmem => Archive.written_of_mem hmem)
  have hrestored : manual.restored.basePath = .ok base := hbase
  exact ⟨base, hrecords, hsettled, Manual.ofJson_toJson hsettled.written, ofManual_eq hbase,
    ofManual_eq hrestored⟩

/-- **When a document answers like the build.** A built manual can be written and read again. Served
then, it gives the same answer to a request exactly if the build answers with nothing else than not
finding anything, or from a documented endpoint to which both route the request. Where no method has
a hyphen, both route to the same endpoints, so only the exchanges of companions are lost. -/
theorem respond_restored_iff (settings : Settings) (sources : List SourceFile) (archive : Archive)
    {manual : Manual} {count : Nat}
    (hattach : (Report.ofSources settings sources).manual.attach archive.exchanges =
      .ok (manual, count)) :
    ∃ restored fresh served, Manual.ofJson manual.toJson = .ok restored ∧
      ofManual manual = .ok fresh ∧ ofManual restored = .ok served ∧
      (∀ request, (served.respond request).same (fresh.respond request) = true ↔
        ∀ exchange, fresh.choose? request = some exchange →
          notFound.same exchange.response = true ∨ RouteKept fresh served request) ∧
      ((∀ draft ∈ (SourceFile.readAll settings.delimiters sources).drafts,
          ∀ endpoint ∈ draft.toEndpoint?, endpoint.Plain) →
        ∀ request, RouteKept fresh served request ↔
          ∃ endpoint, fresh.home? request = some endpoint ∧ endpoint.companion = false) := by
  obtain ⟨base, hrecords, hsettled, hread, hfresh, hserved⟩ := document_of_attach hattach
  refine ⟨manual.restored, ⟨manual, base⟩, ⟨manual.restored, base⟩, hread, hfresh, hserved,
    same_respond_iff hsettled, fun hplain => routeKept_iff (hrecords.arranged ?_)⟩
  refine Registry.arranged_insertAll (fun endpoint hmem => ?_) (fun endpoint hmem => ?_)
  · obtain ⟨draft, hdraft, hendpoint⟩ := List.mem_filterMap.1 hmem
    exact hplain draft hdraft endpoint hendpoint
  · obtain ⟨draft, _, hendpoint⟩ := List.mem_filterMap.1 hmem
    exact (Draft.drafted_toEndpoint? hendpoint).documented

def photoSource : SourceFile := ⟨"photo.py", "\"\"\"\n@api {get} /photo Photos\n\"\"\"\n"⟩

def photoDraft : Draft :=
  { Draft.blank "photo.py" 2 with method := some "get", path := "/photo", title := some "Photos" }

set_option maxRecDepth 4000 in
theorem drafts_photoSource :
    (SourceFile.readAll Settings.standardDelimiters [photoSource]).drafts = [photoDraft] := by
  have hscan : Block.scan Settings.standardDelimiters photoSource.content =
      [⟨"\n@api {get} /photo Photos\n".toList, 1⟩] := by
    decide +kernel
  have hfragments : SourceFile.collectFragments Settings.standardDelimiters [photoSource] =
      .empty := by
    simp only [SourceFile.collectFragments, SourceFile.fragmentsIn, hscan, List.flatMap_cons,
      List.flatMap_nil]
    rfl
  have hread : (Block.read ⟨"\n@api {get} /photo Photos\n".toList, 1⟩ "photo.py" .empty).draft =
      some photoDraft := by
    rw [Unrolling.read_eq_foldTags (by decide)]
    decide
  simp only [SourceFile.readAll, SourceFile.read, hfragments, hscan, List.map_cons, List.map_nil,
    List.flatMap_cons, List.flatMap_nil, List.append_nil]
  rw [List.filterMap_cons, photoSource, hread]
  rfl

/-- A record of asking which methods the path allows. -/
def preflightRecord : String :=
  "\x7b\"request\": \x7b\"path\": \"/photo\", \"method\": \"options\"\x7d, "
    ++ "\"response\": \x7b\"status\": 204\x7d\x7d"

def preflightExchange : Exchange where
  request := Request.bare "options" "/photo"
  response := ⟨204, none, .empty, none⟩
  visible := false

theorem exchanges_preflightRecord :
    (Archive.single preflightRecord).exchanges = [preflightExchange] := by
  have htree : Json.read? preflightRecord = some (.object [
      ("request", .object [("path", .string "/photo"), ("method", .string "options")]),
      ("response", .object [("status", .nat 204)])]) := by
    with_unfolding_all rfl
  exact Archive.exchanges_single_of_read? htree (by decide)

abbrev photoReport : Report :=
  Report.ofSources (Settings.standard "/tmp") [photoSource]

def photoEndpoint : Endpoint :=
  { Endpoint.bare "/photo" "get" with displayName := some "Photos" }

theorem registry_photoReport :
    photoReport.manual.registry = Registry.insertAll .empty [photoEndpoint] := by
  have hregistry : photoReport.manual.registry = Registry.insertAll .empty
      ((SourceFile.readAll Settings.standardDelimiters [photoSource]).drafts.filterMap
        Draft.toEndpoint?) := rfl
  rw [hregistry, drafts_photoSource]
  rfl

theorem route?_preflight : photoReport.manual.registry.route?
    (BasePath.relative none preflightExchange.request.path) preflightExchange.request.method =
      some (Endpoint.companionAt "/photo") := by
  rw [registry_photoReport]
  rfl

theorem route?_photo : photoReport.manual.registry.route?
    (BasePath.relative none photoExchange.request.path) photoExchange.request.method =
      some photoEndpoint := by
  rw [registry_photoReport]
  rfl

/-- A record for the companion, and one for the documented endpoint. -/
def reportRecords : List Exchange := [preflightExchange, photoExchange]

theorem exchanges_reportRecords : (Archive.holding reportRecords).exchanges = reportRecords := by
  refine Archive.exchanges_holding (fun exchange hmem => ?_) (by decide)
  simp only [reportRecords, List.mem_cons, List.not_mem_nil, or_false] at hmem
  rcases hmem with rfl | rfl
  all_goals exact ⟨Request.written_of_form_eq_none (by decide) rfl, by decide⟩

theorem recordedAt_photoEndpoint :
    photoReport.manual.recordedAt none reportRecords photoEndpoint.key = [photoExchange] := by
  have hpreflight : photoReport.manual.homeOf none preflightExchange ≠ some photoEndpoint.key := by
    rw [Manual.homeOf, route?_preflight, Option.map_some]
    decide
  have hphoto : photoReport.manual.homeOf none photoExchange = some photoEndpoint.key := by
    rw [Manual.homeOf, route?_photo, Option.map_some]
  rw [Manual.recordedAt, reportRecords, List.filter_cons_of_neg (by simpa using hpreflight),
    List.filter_cons_of_pos (by simpa using hphoto), List.filter_nil]

theorem respond_document_photoReport :
    ∃ manual count restored fresh served,
      photoReport.manual.attach (Archive.holding reportRecords).exchanges = .ok (manual, count) ∧
        Manual.ofJson manual.toJson = .ok restored ∧ ofManual manual = .ok fresh ∧
        ofManual restored = .ok served ∧
        (∀ request endpoint, fresh.home? request = some endpoint → endpoint.companion = false →
          (served.respond request).same (fresh.respond request) = true) ∧
        fresh.choose? photoExchange.request = some photoExchange ∧
        (served.respond photoExchange.request).status = 200 := by
  obtain ⟨manual, count, hattach⟩ : ∃ manual count,
      photoReport.manual.attach (Archive.holding reportRecords).exchanges = .ok (manual, count) :=
    ⟨_, _, rfl⟩
  obtain ⟨restored, fresh, served, hread, hfresh, hserved, hsame, hroutes⟩ :=
    respond_restored_iff (Settings.standard "/tmp") [photoSource] (Archive.holding reportRecords)
      hattach
  have hplain : ∀ draft ∈ (SourceFile.readAll Settings.standardDelimiters [photoSource]).drafts,
      ∀ endpoint ∈ draft.toEndpoint?, endpoint.Plain := by
    rw [drafts_photoSource]
    intro draft hdraft endpoint hendpoint
    obtain rfl := List.mem_singleton.1 hdraft
    obtain rfl := Option.some.inj hendpoint
    have hmethod : '-' ∉ (lowercase "get").toList := by decide
    exact hmethod
  have hdocumented : ∀ request endpoint, fresh.home? request = some endpoint →
      endpoint.companion = false →
        (served.respond request).same (fresh.respond request) = true := by
    intro request endpoint hhome hdocumented
    exact (hsame request).2 fun _ _ =>
      Or.inr ((hroutes hplain request).2 ⟨endpoint, hhome, hdocumented⟩)
  obtain ⟨base, hreport, hbase, hrecords⟩ := Manual.records_of_attach hattach
  obtain rfl : none = base := Except.ok.inj hreport
  obtain rfl : fresh = ⟨manual, none⟩ := Except.ok.inj (hfresh.symm.trans (ofManual_eq hbase))
  have hhome := hrecords.route?_eq (BasePath.relative none photoExchange.request.path)
    photoExchange.request.method
  rw [route?_photo, Option.map_some, exchanges_reportRecords, recordedAt_photoEndpoint] at hhome
  obtain ⟨answer, hfind, hchoose⟩ := choose?_eq_find? ⟨manual, none⟩ hhome
    (List.mem_singleton_self photoExchange) (by decide)
  obtain rfl := List.mem_singleton.1 (List.mem_of_find?_eq_some hfind)
  refine ⟨manual, count, restored, _, served, hattach, hread, hfresh, hserved, hdocumented, hchoose,
    ?_⟩
  have hrespond : respond ⟨manual, none⟩ photoExchange.request = photoExchange.response := by
    rw [respond_eq, hchoose, Option.elim_some]
  have hanswer := hdocumented photoExchange.request _ hhome rfl
  simp only [hrespond, Response.same, Bool.and_eq_true, beq_iff_eq] at hanswer
  exact hanswer.1.1.1

/-- The answer to a preflight request is recorded with the companion of the documented endpoint, and
is lost in the document. -/
theorem preflight_lost_in_document :
    ∃ manual count restored fresh served,
      photoReport.manual.attach (Archive.single preflightRecord).exchanges = .ok (manual, count) ∧
        Manual.ofJson manual.toJson = .ok restored ∧ ofManual manual = .ok fresh ∧
        ofManual restored = .ok served ∧
        (served.respond preflightExchange.request).same
          (fresh.respond preflightExchange.request) = false := by
  obtain ⟨manual, count, hattach⟩ : ∃ manual count,
      photoReport.manual.attach (Archive.single preflightRecord).exchanges = .ok (manual, count) :=
    ⟨_, _, rfl⟩
  obtain ⟨base, hrecords, hsettled, hread, hfresh, hserved⟩ := document_of_attach hattach
  refine ⟨manual, count, _, _, _, hattach, hread, hfresh, hserved, ?_⟩
  obtain rfl : none = base := by
    have hbase : manual.basePath = .ok none := by
      rw [Manual.basePath, hrecords.rest]
      rfl
    exact congrArg Responder.base (Except.ok.inj ((ofManual_eq hbase).symm.trans hfresh))
  have hhome := hrecords.route?_eq (BasePath.relative none preflightExchange.request.path)
    preflightExchange.request.method
  rw [route?_preflight, Option.map_some, exchanges_preflightRecord] at hhome
  have hheld : preflightExchange ∈ photoReport.manual.recordedAt none [preflightExchange]
      (Endpoint.companionAt "/photo").key := by
    refine List.mem_filter.2 ⟨List.mem_singleton_self _, ?_⟩
    rw [decide_eq_true_eq, Manual.homeOf, route?_preflight, Option.map_some]
  obtain ⟨answer, hfind, hchoose⟩ := choose?_eq_find? ⟨manual, none⟩ hhome hheld (by decide)
  have hanswer : answer ∈ photoReport.manual.recordedAt none [preflightExchange]
      (Endpoint.companionAt "/photo").key := List.mem_of_find?_eq_some hfind
  obtain rfl := List.mem_singleton.1 (List.mem_of_mem_filter hanswer)
  rw [Bool.eq_false_iff]
  intro hsame
  rcases (same_respond_iff hsettled _).1 hsame _ hchoose with hnothing | hkept
  · simp [Response.same, notFound, preflightExchange] at hnothing
  · obtain ⟨endpoint, hroute, hdocumented, _⟩ := hkept
    obtain rfl := Option.some.inj (hroute.symm.trans hhome)
    cases hdocumented

end Responder

end ApiManual
