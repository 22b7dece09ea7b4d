import ApiManual.Proofs.Manual.Recording
import ApiManual.Proofs.Manual.Rereading
import ApiManual.Proofs.Registry.Arrangement
import ApiManual.Proofs.Registry.Reading

/-!
# Manuals that were read

Whatever is read from JSON can be written, and is read again as it was: absent and null fields have
been filled in, methods are in small letters, and a parameter has the carrier of its list. Only the
order of headers and fields may change, which equality does not see. Companions are not written, but
where methods have no hyphens the documented endpoints tell where every companion stood, so the keys
of the registry come back in their order and every request is routed as before.
-/

namespace ApiManual

open Json

/-! ### What was read can be written -/

theorem Param.written_of_ofJson? {carrier : Carrier} {json : Json} {param : Param}
    (hread : ofJson? carrier json = some param) : param.Written ∧ param.carrier = carrier := by
  -- The members are read in their order, the two bounds of the length after six others.
  obtain ⟨fields, _, hread⟩ := Option.bind_eq_some_iff.1 hread
  iterate 6 obtain ⟨_, _, hread⟩ := Option.bind_eq_some_iff.1 hread
  obtain ⟨minLength, hminLength, hread⟩ := Option.bind_eq_some_iff.1 hread
  obtain ⟨maxLength, hmaxLength, hread⟩ := Option.bind_eq_some_iff.1 hread
  iterate 6 obtain ⟨_, _, hread⟩ := Option.bind_eq_some_iff.1 hread
  obtain rfl := Option.some.inj hread
  refine ⟨⟨fun length hlength => ?_, fun length hlength => ?_⟩, rfl⟩
  · obtain ⟨_, hnumber⟩ := Fields.exists_of_optional hminLength hlength
    exact le_of_nat? hnumber
  · obtain ⟨_, hnumber⟩ := Fields.exists_of_optional hmaxLength hlength
    exact le_of_nat? hnumber

theorem Param.written_of_paramsOfJson? {carrier : Carrier} {fields : Fields} {name : String}
    {params : List Param}
    (hread : fields.withDefault name [] (Endpoint.paramsOfJson? carrier) = some params) :
    ∀ param ∈ params, param.Written ∧ param.carrier = carrier := by
  intro param hmem
  rcases Fields.eq_or_exists_of_withDefault hread with rfl | ⟨json, hjson⟩
  · cases hmem
  · obtain ⟨list, hlist, rfl⟩ := Option.map_eq_some_iff.1 hjson
    cases list with
    | none => cases hmem
    | some listed =>
      obtain ⟨items, hitems⟩ := exists_of_nullable? hlist rfl
      obtain ⟨item, hitem⟩ := exists_of_mem_list? hitems hmem
      exact written_of_ofJson? hitem

theorem Endpoint.written_of_ofJson? {json : Json} {endpoint : Endpoint}
    (hread : ofJson? json = some endpoint) : endpoint.Written ∧ endpoint.companion = false := by
  obtain ⟨fields, _, hread⟩ := Option.bind_eq_some_iff.1 hread
  obtain ⟨_, _, hread⟩ := Option.bind_eq_some_iff.1 hread
  obtain ⟨method, _, hread⟩ := Option.bind_eq_some_iff.1 hread
  iterate 4 obtain ⟨_, _, hread⟩ := Option.bind_eq_some_iff.1 hread
  obtain ⟨headers, hheaders, hread⟩ := Option.bind_eq_some_iff.1 hread
  obtain ⟨urls, hurls, hread⟩ := Option.bind_eq_some_iff.1 hread
  obtain ⟨queries, hqueries, hread⟩ := Option.bind_eq_some_iff.1 hread
  obtain ⟨forms, hforms, hread⟩ := Option.bind_eq_some_iff.1 hread
  obtain ⟨exchanges, hexchanges, hread⟩ := Option.bind_eq_some_iff.1 hread
  obtain rfl := Option.some.inj hread
  refine ⟨⟨lowercase_lowercase method, fun carrier => ?_, fun exchange hmem => ?_⟩, rfl⟩
  · cases carrier with
    | url => exact Param.written_of_paramsOfJson? hurls
    | query => exact Param.written_of_paramsOfJson? hqueries
    | form => exact Param.written_of_paramsOfJson? hforms
    | header => exact Param.written_of_paramsOfJson? hheaders
  · rcases Fields.eq_or_exists_of_withDefault hexchanges with hnone | ⟨list, hlist⟩
    · rw [hnone] at hmem
      cases hmem
    · obtain ⟨item, hitem⟩ := exists_of_mem_list? hlist hmem
      exact Exchange.written_of_ofJson? hitem

/-! ### Equality up to the order of headers and fields -/

theorem Request.same_reordered (request : Request) : request.reordered.same request = true := by
  have hheaders := HeaderMap.same_of_perm request.headers.reordered_perm
  have hquery : request.query.reordered.same request.query = true := by
    rw [FieldMap.same_congr (FieldMap.reordered_perm request.query) (List.Perm.refl _)]
    exact FieldMap.same_self request.query
  have hform := (sameForm_reordered request.form request.form).trans (sameForm_self request.form)
  simp [same, reordered, hheaders, hquery, hform]

theorem Exchange.same_reordered (exchange : Exchange) :
    exchange.reordered.same exchange = true := by
  simp [same, reordered, Request.same_reordered, Response.same_reordered]

theorem Param.same_self (param : Param) : param.same param = true := by
  have hbound : ∀ bound : Option Binary64, sameBound bound bound = true := by
    intro bound
    cases bound with
    | none => rfl
    | some x => simp [sameBound, Binary64.same]
  simp [same, hbound]

theorem Endpoint.sameList_map {α : Type} {same : α → α → Bool} {change : α → α}
    {items : List α} (hsame : ∀ item ∈ items, same (change item) item = true) :
    sameList same (items.map change) items = true := by
  induction items with
  | nil => rfl
  | cons item rest ih =>
    rw [List.forall_mem_cons] at hsame
    rw [List.map_cons, sameList, hsame.1, ih hsame.2]
    rfl

theorem Endpoint.same_reordered {endpoint : Endpoint} (hdocumented : endpoint.companion = false) :
    endpoint.reordered.same endpoint = true := by
  have hparams : ∀ params : List Param, sameList Param.same params params = true := by
    intro params
    have hself : ∀ param ∈ params, (id param : Param).same param = true :=
      fun param _ => Param.same_self param
    have hlist := sameList_map hself
    rwa [List.map_id] at hlist
  have hexchanges := sameList_map fun exchange (_ : exchange ∈ endpoint.exchanges) =>
    Exchange.same_reordered exchange
  simp [same, reordered, hparams, hexchanges, hdocumented]

theorem Endpoint.same_companionAt (path : String) :
    (companionAt path).same (companionAt path) = true := by
  simp [same, companionAt, bare, sameList]

/-! ### The registry that is built again -/

theorem Endpoint.path_reordered (endpoint : Endpoint) :
    endpoint.reordered.path = endpoint.path := rfl

theorem Endpoint.method_reordered (endpoint : Endpoint) :
    endpoint.reordered.method = endpoint.method := rfl

namespace Registry

open Endpoint

variable {registry : Registry}

theorem items_restored (harranged : Arranged registry.items) :
    registry.restored.items = registry.items.map (renewed Endpoint.reordered) :=
  harranged.items_insertAll path_reordered method_reordered

theorem key_renewed_reordered (harranged : Arranged registry.items) {endpoint : Endpoint}
    (hmem : endpoint ∈ registry.items) :
    (renewed Endpoint.reordered endpoint).key = endpoint.key := by
  rw [key, key, path_renewed path_reordered, harranged.method_renewed method_reordered hmem]

/-- The keys stand in their order, and companions stand where they stood. -/
theorem places_restored (harranged : Arranged registry.items) :
    registry.restored.items.map (fun endpoint => (endpoint.key, endpoint.companion)) =
      registry.items.map fun endpoint => (endpoint.key, endpoint.companion) := by
  rw [items_restored harranged, List.map_map]
  refine List.map_congr_left fun endpoint hmem => ?_
  have hflag : (renewed Endpoint.reordered endpoint).companion = endpoint.companion := by
    cases hcompanion : endpoint.companion with
    | true =>
      rw [renewed, hcompanion]
      rfl
    | false => rw [renewed_of_documented hcompanion, Endpoint.reordered]
  rw [Function.comp, key_renewed_reordered harranged hmem, hflag]

/-- Requests are routed to the same keys. -/
theorem map_key_route?_restored (harranged : Arranged registry.items) (path method : String) :
    (registry.restored.route? path method).map key = (registry.route? path method).map key := by
  rw [route?_eq_map (items_restored harranged)
    (fun endpoint _ => path_renewed path_reordered endpoint)
    (fun endpoint hmem => harranged.method_renewed method_reordered hmem), Option.map_map]
  cases hfound : registry.route? path method with
  | none => rfl
  | some endpoint =>
    exact congrArg some (key_renewed_reordered harranged (of_route?_eq_some hfound).1)

theorem same_restored (harranged : Arranged registry.items)
    (hcompanion : ∀ endpoint ∈ registry.items, endpoint.companion = true →
      endpoint = companionAt endpoint.path) :
    Registry.same registry.restored registry = true := by
  have hitems := items_restored harranged
  have hsize : registry.restored.size = registry.size := by
    rw [Keyed.size, hitems, List.length_map, Keyed.size]
  rw [same, hsize, beq_self_eq_true, Bool.true_and, hitems, List.all_map, List.all_eq_true]
  intro endpoint hmem
  have hfound : registry.find? (renewed Endpoint.reordered endpoint).key = some endpoint :=
    Keyed.find?_eq_some_iff.2 ⟨hmem, (key_renewed_reordered harranged hmem).symm⟩
  rw [Function.comp, hfound, Option.any_some]
  cases hflag : endpoint.companion with
  | true =>
    have hsame := hcompanion endpoint hmem hflag
    rw [renewed, hflag, if_pos rfl]
    exact hsame ▸ Endpoint.same_companionAt endpoint.path
  | false =>
    rw [renewed_of_documented hflag]
    exact Endpoint.same_reordered hflag

/-- What is read is documented and can be written, and companions are as they were made. -/
theorem written_of_ofJson {json : Json} (hread : ofJson json = .ok registry) :
    (∀ endpoint ∈ registry.documented, endpoint.Written) ∧
      ∀ endpoint ∈ registry.items, endpoint.companion = true →
        endpoint = companionAt endpoint.path := by
  obtain ⟨endpoints, rfl, hitems⟩ := exists_of_ofJson hread
  have hgiven : ∀ endpoint ∈ endpoints, endpoint.Written ∧ endpoint.companion = false := by
    intro endpoint hmem
    obtain ⟨item, _, hitem⟩ := hitems endpoint hmem
    exact Endpoint.written_of_ofJson? (ofJson?_of_endpointOfJson hitem)
  constructor
  · intro endpoint hmem
    obtain ⟨hmem, hdocumented⟩ := List.mem_filter.1 hmem
    rcases mem_or_companion_of_mem_insertAll hmem with hempty | hmem | ⟨path, rfl⟩
    · cases hempty
    · exact (hgiven endpoint hmem).1
    · cases hdocumented
  · intro endpoint hmem hflag
    rcases mem_or_companion_of_mem_insertAll hmem with hempty | hmem | ⟨path, rfl⟩
    · cases hempty
    · rw [(hgiven endpoint hmem).2] at hflag
      cases hflag
    · rfl

theorem arranged_of_ofJson {json : Json} (hread : ofJson json = .ok registry)
    (hplain : ∀ item ∈ endpointItems json, ∀ endpoint, endpointOfJson item = .ok endpoint →
      endpoint.Plain) : Arranged registry.items := by
  obtain ⟨endpoints, rfl, hitems⟩ := exists_of_ofJson hread
  refine arranged_insertAll (fun endpoint hmem => ?_) (fun endpoint hmem => ?_)
  · obtain ⟨item, hitem, hendpoint⟩ := hitems endpoint hmem
    exact hplain item hitem endpoint hendpoint
  · obtain ⟨item, _, hendpoint⟩ := hitems endpoint hmem
    exact (Endpoint.written_of_ofJson? (ofJson?_of_endpointOfJson hendpoint)).2

end Registry

namespace Manual

/-- What the JSON of a manual has for its registry. -/
def registryJson (json : Json) : Json :=
  ((json.members?.getD []).lookup "resources").getD .null

theorem registry_of_ofJson {json : Json} {manual : Manual} (hread : ofJson json = .ok manual) :
    Registry.ofJson (registryJson json) = .ok manual.registry := by
  cases json with
  | object members =>
    obtain ⟨_, _, hread⟩ := exists_of_bind_eq_ok hread
    obtain ⟨_, _, hread⟩ := exists_of_bind_eq_ok hread
    obtain ⟨_, _, hread⟩ := exists_of_bind_eq_ok hread
    obtain ⟨_, _, hread⟩ := exists_of_bind_eq_ok hread
    obtain ⟨_, _, hread⟩ := exists_of_bind_eq_ok hread
    obtain ⟨_, _, hread⟩ := exists_of_bind_eq_ok hread
    obtain ⟨registry, hregistry, hread⟩ := exists_of_bind_eq_ok hread
    cases hread
    exact hregistry
  | _ => cases hread

/-- **A manual that was read is read again as it is.** What is read from JSON can be written and read
again, and the two manuals are equal up to the order of headers and fields. Where no method has a
hyphen, the registries have the same keys in the same order, companions at the same places, and
route every request to the same key. -/
theorem same_of_ofJson_toJson {json : Json} {manual : Manual} (hread : ofJson json = .ok manual)
    (hplain : ∀ item ∈ Registry.endpointItems (registryJson json), ∀ endpoint,
      Registry.endpointOfJson item = .ok endpoint → endpoint.Plain) :
    ∃ again, ofJson manual.toJson = .ok again ∧ again.same manual = true ∧
      again.registry.items.map (fun endpoint => (endpoint.key, endpoint.companion)) =
        manual.registry.items.map (fun endpoint => (endpoint.key, endpoint.companion)) ∧
      ∀ path method, (again.registry.route? path method).map Endpoint.key =
        (manual.registry.route? path method).map Endpoint.key := by
  have hregistry := registry_of_ofJson hread
  obtain ⟨hwritten, hcompanion⟩ := Registry.written_of_ofJson hregistry
  have harranged := Registry.arranged_of_ofJson hregistry hplain
  refine ⟨manual.restored, ofJson_toJson hwritten, ?_, Registry.places_restored harranged,
    Registry.map_key_route?_restored harranged⟩
  simp [same, restored, Registry.same_restored harranged hcompanion]

/-- An endpoint with a parameter and a recorded exchange, its method in capitals. -/
def photoJson : Json :=
  .object [
    ("path", .string "/photo/:id"),
    ("method", .string "GET"),
    ("uri_params", .array [.object [("name", .string "id"), ("minimum", .number (.int 1))]]),
    ("header_params", .null),
    ("examples", .array [.object [
      ("request", .object [
        ("path", .string "/photo/7"),
        ("method", .string "GET"),
        ("headers", .object [("Accept", .string "image/png")]),
        ("form_params", .object [])]),
      ("response", .object [("status", .nat 200)])]])]

def preflightJson : Json :=
  .object [("path", .string "/photo/:id"), ("method", .string "Options")]

def uploadJson : Json :=
  .object [("path", .string "/photo"), ("method", .string "post")]

def photosJson : Json :=
  .object [
    ("title", .string "Photos"),
    ("base_uri", .null),
    ("documents", .array [.object [("title", .string "Start")]]),
    ("resources", .array [uploadJson, photoJson, preflightJson])]

theorem same_of_ofJson_toJson_photosJson :
    ∃ manual, ofJson photosJson = .ok manual ∧ ∃ again, ofJson manual.toJson = .ok again ∧
      again.same manual = true ∧
      again.registry.items.map (fun endpoint => (endpoint.key, endpoint.companion)) =
        [("/photo-post", false), ("/photo-options", true), ("/photo/:id-get", false),
          ("/photo/:id-options", false)] := by
  obtain ⟨manual, hread⟩ : ∃ manual, ofJson photosJson = .ok manual := ⟨_, rfl⟩
  have hplain : ∀ item ∈ Registry.endpointItems (registryJson photosJson), ∀ endpoint,
      Registry.endpointOfJson item = .ok endpoint → endpoint.Plain := by
    have hitems : Registry.endpointItems (registryJson photosJson) =
        [uploadJson, photoJson, preflightJson] := rfl
    rw [hitems]
    intro item hmem endpoint hendpoint
    simp only [List.mem_cons, List.not_mem_nil, or_false] at hmem
    rcases hmem with rfl | rfl | rfl <;> cases hendpoint
    · have hpost : '-' ∉ (lowercase "post").toList := by decide
      exact hpost
    · have hget : '-' ∉ (lowercase "GET").toList := by decide
      exact hget
    · have hoptions : '-' ∉ (lowercase "Options").toList := by decide
      exact hoptions
  obtain ⟨again, hagain, hsame, hplaces, _⟩ := same_of_ofJson_toJson hread hplain
  refine ⟨manual, hread, again, hagain, hsame, hplaces.trans ?_⟩
  cases hread
  rfl

end Manual

end ApiManual
