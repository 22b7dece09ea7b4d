import ApiManual.Proofs.Exchange.Same
import ApiManual.Proofs.Json.Rereading
import ApiManual.Proofs.Text.LetterCase

/-!
# Reading written messages

What is read back from the canonical JSON of a message has the headers and fields in the order of
their names, and is the message otherwise. That takes a message as it comes out of JSON itself: the
method in small letters, no empty form, and a status that can be written.
-/

namespace ApiManual

open Json

theorem names_nodup_of_distinct (headers : HeaderMap) : (headers.items.map (·.1)).Nodup := by
  have hdistinct : ((headers.items.map (·.1)).map lowercase).Nodup := by
    rw [List.map_map]
    exact headers.distinct
  exact hdistinct.of_map

/-- The headers in the order of their names. -/
def HeaderMap.reordered (headers : HeaderMap) : HeaderMap :=
  ⟨inNameOrder headers.items,
    ((inNameOrder_perm (names_nodup_of_distinct headers)).map _).nodup_iff.2 headers.distinct⟩

theorem HeaderMap.reordered_perm (headers : HeaderMap) :
    headers.reordered.items.Perm headers.items :=
  inNameOrder_perm (names_nodup_of_distinct headers)

def FieldMap.reordered (fields : FieldMap) : FieldMap :=
  ⟨inNameOrder fields.items,
    ((inNameOrder_perm fields.distinct).map _).nodup_iff.2 fields.distinct⟩

theorem FieldMap.reordered_perm (fields : FieldMap) : fields.reordered.items.Perm fields.items :=
  inNameOrder_perm fields.distinct

theorem FieldMap.isEmpty_reordered (fields : FieldMap) :
    fields.reordered.isEmpty = fields.isEmpty :=
  (reordered_perm fields).isEmpty_eq

theorem HeaderMap.sorted_toJson (headers : HeaderMap) :
    headers.toJson.sorted = headers.reordered.toJson := by
  rw [toJson, sorted_object_map string]
  rfl

theorem HeaderMap.ofJson?_toJson (headers : HeaderMap) : ofJson? headers.toJson = some headers := by
  have hread : (headers.items.map fun entry => (entry.1, string entry.2)).mapM
      (fun entry => entry.2.string?.map (entry.1, ·)) = some (headers.items.map id) :=
    mapM_map_eq_pure fun _ _ => rfl
  have hdistinct :
      (Keyed.ofList (fun entry : String × String => entry.1) headers.items).items = headers.items :=
    Keyed.items_ofList (names_nodup_of_distinct headers)
  have hpairs : ofPairs headers.items = headers :=
    Keyed.eq_of_items_eq (Keyed.items_ofList headers.distinct)
  rw [List.map_id] at hread
  rw [toJson, ofJson?]
  simp only [members?, Option.bind_eq_bind, Option.bind_some]
  rw [hread, Option.bind_some, hdistinct, hpairs]
  rfl

theorem FieldValue.sorted_toJson (value : FieldValue) : value.toJson.sorted = value.toJson := by
  cases value with
  | one text => rfl
  | many texts => rw [toJson, sorted_ofStrings]

theorem FieldValue.ofJson?_toJson (value : FieldValue) : ofJson? value.toJson = some value := by
  cases value with
  | one text => rfl
  | many texts =>
    have hlist := list?_ofStrings texts
    rw [toJson]
    rw [ofStrings] at hlist ⊢
    rw [ofJson?, hlist]
    · rfl
    · rintro text ⟨⟩

theorem FieldMap.sorted_toJson (fields : FieldMap) :
    (toJson fields).sorted = toJson fields.reordered := by
  rw [toJson, sorted_object_map FieldValue.toJson]
  simp only [FieldValue.sorted_toJson]
  rfl

theorem FieldMap.ofJson?_toJson (fields : FieldMap) : ofJson? (toJson fields) = some fields := by
  have hread : (fields.items.map fun entry => (entry.1, entry.2.toJson)).mapM
      (fun entry => (FieldValue.ofJson? entry.2).map (entry.1, ·)) = some (fields.items.map id) :=
    mapM_map_eq_pure fun entry _ => by rw [FieldValue.ofJson?_toJson]; rfl
  have hfields : Keyed.ofList (fun entry : String × FieldValue => entry.1) fields.items = fields :=
    Keyed.eq_of_items_eq (Keyed.items_ofList fields.distinct)
  rw [List.map_id] at hread
  rw [toJson, ofJson?]
  simp only [members?, Option.bind_eq_bind, Option.bind_some]
  rw [hread, Option.bind_some, hfields]
  rfl

section EmptyAsNull

variable {α κ : Type} {key : α → κ} {write : Keyed key → Json}

theorem sorted_emptyAsNull (collection : Keyed key) :
    (emptyAsNull Keyed.isEmpty write collection).sorted =
      emptyAsNull Keyed.isEmpty (fun other => (write other).sorted) collection := by
  unfold emptyAsNull
  split <;> rfl

/-- An empty collection is written as null, and null is read as an empty collection. -/
theorem nullable?_emptyAsNull {again : Keyed key} {ofJson? : Json → Option (Keyed key)}
    {collection : Keyed key} (hread : ofJson? (write collection) = some again)
    (hsome : write collection ≠ .null) (hperm : again.items.Perm collection.items) :
    ∃ read, (emptyAsNull Keyed.isEmpty write collection).nullable? ofJson? = some read ∧
      read.getD .empty = again := by
  unfold emptyAsNull
  by_cases hempty : collection.isEmpty = true
  · rw [if_pos hempty]
    refine ⟨none, rfl, Keyed.eq_of_items_eq ?_⟩
    rw [List.isEmpty_iff.1 hempty, List.perm_nil] at hperm
    rw [hperm]
    rfl
  · rw [if_neg hempty]
    refine ⟨some again, ?_, rfl⟩
    rw [nullable?, hread]
    · rfl
    · exact hsome

end EmptyAsNull

theorem HeaderMap.nullable?_sorted (headers : HeaderMap) :
    ∃ read, (emptyAsNull Keyed.isEmpty (fun headers => (HeaderMap.toJson headers).sorted)
        headers).nullable? ofJson? = some read ∧ read.getD .empty = headers.reordered := by
  refine nullable?_emptyAsNull ?_ ?_ headers.reordered_perm
  · rw [sorted_toJson, ofJson?_toJson]
  · rw [sorted_toJson]
    exact Json.noConfusion

theorem FieldMap.nullable?_sorted (fields : FieldMap) :
    ∃ read, (emptyAsNull Keyed.isEmpty (fun fields => (toJson fields).sorted) fields).nullable?
        ofJson? = some read ∧ read.getD .empty = fields.reordered := by
  refine nullable?_emptyAsNull ?_ ?_ (reordered_perm fields)
  · rw [sorted_toJson, ofJson?_toJson]
  · rw [sorted_toJson]
    exact Json.noConfusion

namespace BodyFormat

@[simp]
theorem sorted_toJson (format : BodyFormat) : format.toJson.sorted = format.toJson := rfl

@[simp]
theorem nullable?_toJson (format : Option BodyFormat) :
    (Json.ofOption toJson format).nullable? ofJson? = some format := by
  cases format with
  | none => rfl
  | some format => cases format <;> rfl

end BodyFormat

theorem filter_nonempty_eq_self {form : Option FieldMap}
    (hform : ∀ fields ∈ form, fields.isEmpty = false) :
    form.filter (fun fields => !fields.isEmpty) = form := by
  cases form with
  | none => rfl
  | some fields => simp [Option.filter, hform fields rfl]

namespace Request

/-- The request is one that its JSON tells apart: the method is in small letters, and no form is
empty. -/
structure Written (request : Request) : Prop where
  method : lowercase request.method = request.method
  form : ∀ fields ∈ request.form, fields.isEmpty = false

theorem written_of_ofJson? {json : Json} {request : Request}
    (hread : ofJson? json = some request) : request.Written := by
  iterate 8 obtain ⟨_, _, hread⟩ := Option.bind_eq_some_iff.1 hread
  obtain rfl := Option.some.inj hread
  refine ⟨lowercase_lowercase _, fun fields hfields => ?_⟩
  have hkept := (Option.filter_eq_some_iff.1 (Option.mem_def.1 hfields)).2
  simpa using hkept

theorem written_of_form_eq_none {request : Request}
    (hmethod : lowercase request.method = request.method) (hform : request.form = none) :
    request.Written where
  method := hmethod
  form fields hfields := by
    rw [hform] at hfields
    cases hfields

def reordered (request : Request) : Request :=
  { request with
    headers := request.headers.reordered
    query := request.query.reordered
    form := request.form.map FieldMap.reordered }

theorem sameForm_reordered (form other : Option FieldMap) :
    sameForm (form.map FieldMap.reordered) other = sameForm form other := by
  cases form with
  | none => rfl
  | some fields =>
    cases other with
    | none => rfl
    | some others => exact FieldMap.same_congr (FieldMap.reordered_perm fields) (List.Perm.refl _)

theorem ofJson?_toJson {request : Request} (hwritten : request.Written) :
    ofJson? request.toJson.sorted = some request.reordered := by
  obtain ⟨headers, hheaders, hheadersD⟩ := request.headers.nullable?_sorted
  obtain ⟨query, hquery, hqueryD⟩ := FieldMap.nullable?_sorted request.query
  have hform : (ofOption (fun fields => (FieldMap.toJson fields).sorted) request.form).nullable?
      FieldMap.ofJson? = some (request.form.map FieldMap.reordered) := by
    refine nullable?_ofOption (fun fields _ => ?_) (fun fields _ => ?_)
    · rw [FieldMap.sorted_toJson, FieldMap.ofJson?_toJson]
    · rw [FieldMap.sorted_toJson]
      exact Json.noConfusion
  have hagain : ∀ fields ∈ request.form.map FieldMap.reordered, fields.isEmpty = false := by
    intro fields hfields
    obtain ⟨form, hmem, rfl⟩ := Option.map_eq_some_iff.1 (Option.mem_def.1 hfields)
    exact (FieldMap.isEmpty_reordered form).trans (hwritten.form form hmem)
  rw [toJson, ofJson?, record?_sorted _ (by simp)]
  simp [Fields.required, Fields.optional, Fields.withDefault, List.lookup_cons,
    sorted_emptyAsNull, hheaders, hheadersD, hquery, hqueryD, filter_nonempty_eq_self hwritten.form,
    hform, filter_nonempty_eq_self hagain, hwritten.method, reordered, string?]

end Request

namespace Response

def reordered (response : Response) : Response :=
  { response with headers := response.headers.reordered }

theorem status_le_of_ofJson? {json : Json} {response : Response}
    (hread : ofJson? json = some response) : response.status ≤ greatestStatus := by
  simp only [ofJson?, Option.bind_eq_bind, Option.bind_eq_some_iff, Option.pure_def,
    Option.some.injEq] at hread
  obtain ⟨_, _, status, hstatus, _, _, _, _, _, _, _, _, rfl⟩ := hread
  obtain ⟨number, _, hnumber⟩ := Option.bind_eq_some_iff.1 hstatus
  exact le_of_nat? hnumber

theorem ofJson?_toJson {response : Response} (hstatus : response.status ≤ greatestStatus) :
    ofJson? response.toJson.sorted = some response.reordered := by
  obtain ⟨headers, hheaders, hheadersD⟩ := response.headers.nullable?_sorted
  rw [toJson, ofJson?, record?_sorted _ (by simp)]
  simp [Fields.required, Fields.optional, Fields.withDefault, List.lookup_cons,
    sorted_emptyAsNull, hheaders, hheadersD, nat?_nat hstatus, reordered]

theorem same_reordered (response : Response) : response.reordered.same response = true := by
  simp [same, reordered, HeaderMap.same_of_perm response.headers.reordered_perm]

end Response

namespace Exchange

structure Written (exchange : Exchange) : Prop where
  request : exchange.request.Written
  status : exchange.response.status ≤ greatestStatus

theorem written_of_ofJson? {json : Json} {exchange : Exchange}
    (hread : ofJson? json = some exchange) : exchange.Written := by
  simp only [ofJson?, Option.bind_eq_bind, Option.bind_eq_some_iff, Option.pure_def,
    Option.some.injEq] at hread
  obtain ⟨_, _, request, hrequest, response, hresponse, _, _, rfl⟩ := hread
  obtain ⟨_, _, hrequest⟩ := Option.bind_eq_some_iff.1 hrequest
  obtain ⟨_, _, hresponse⟩ := Option.bind_eq_some_iff.1 hresponse
  exact ⟨Request.written_of_ofJson? hrequest, Response.status_le_of_ofJson? hresponse⟩

def reordered (exchange : Exchange) : Exchange :=
  { exchange with request := exchange.request.reordered, response := exchange.response.reordered }

theorem ofJson?_toJson {exchange : Exchange} (hwritten : exchange.Written) :
    ofJson? exchange.toJson.sorted = some exchange.reordered := by
  rw [toJson, ofJson?, record?_sorted _ (by simp)]
  simp [Fields.required, Fields.withDefault, List.lookup_cons,
    Request.ofJson?_toJson hwritten.request, Response.ofJson?_toJson hwritten.status, reordered,
    bool?]

end Exchange

end ApiManual
