import ApiManual.Proofs.Archive
import ApiManual.Proofs.Json.Indented

/-!
# Stored exchanges

A stored exchange is not put into canonical form, so it is read back from its file exactly as it was,
headers and fields in their order. Its JSON has no numbers but the status, and four containers inside
each other at most.
-/

namespace ApiManual

open Json

theorem Json.record?_object (names : List String) {members : List (String × Json)}
    (hdistinct : (members.map (·.1)).Nodup) :
    (object members).record? names = some fun name => members.lookup name := by
  rw [record?, if_pos]
  rw [List.all_eq_true]
  intro name _
  rw [decide_eq_true_eq]
  exact length_filter_le_one hdistinct name

/-! ### Reading back -/

theorem HeaderMap.nullable?_emptyAsNull (headers : HeaderMap) :
    ∃ read, (emptyAsNull Keyed.isEmpty HeaderMap.toJson headers).nullable? ofJson? = some read ∧
      read.getD .empty = headers :=
  ApiManual.nullable?_emptyAsNull headers.ofJson?_toJson Json.noConfusion (List.Perm.refl _)

theorem FieldMap.nullable?_emptyAsNull (fields : FieldMap) :
    ∃ read, (emptyAsNull Keyed.isEmpty toJson fields).nullable? ofJson? = some read ∧
      read.getD .empty = fields :=
  ApiManual.nullable?_emptyAsNull (ofJson?_toJson fields) Json.noConfusion (List.Perm.refl _)

theorem Request.ofJson?_toJson_self {request : Request} (hwritten : request.Written) :
    ofJson? request.toJson = some request := by
  obtain ⟨headers, hheaders, hheadersD⟩ := request.headers.nullable?_emptyAsNull
  obtain ⟨query, hquery, hqueryD⟩ := FieldMap.nullable?_emptyAsNull request.query
  have hform : (ofOption FieldMap.toJson request.form).nullable? FieldMap.ofJson? =
      some (request.form.map id) :=
    nullable?_ofOption (fun fields _ => FieldMap.ofJson?_toJson fields)
      (fun _ _ => Json.noConfusion)
  rw [toJson, ofJson?, record?_object _ (by simp)]
  simp [Fields.required, Fields.optional, Fields.withDefault, List.lookup_cons, hheaders, hheadersD,
    hquery, hqueryD, filter_nonempty_eq_self hwritten.form, hform, hwritten.method, string?]

theorem Response.ofJson?_toJson_self {response : Response}
    (hstatus : response.status ≤ greatestStatus) : ofJson? response.toJson = some response := by
  obtain ⟨headers, hheaders, hheadersD⟩ := response.headers.nullable?_emptyAsNull
  rw [toJson, ofJson?, record?_object _ (by simp)]
  simp [Fields.required, Fields.optional, Fields.withDefault, List.lookup_cons, hheaders, hheadersD,
    nat?_nat hstatus]

theorem Exchange.ofJson?_toJson_self {exchange : Exchange} (hwritten : exchange.Written) :
    ofJson? exchange.toJson = some exchange := by
  rw [toJson, ofJson?, record?_object _ (by simp)]
  simp [Fields.required, Fields.withDefault, List.lookup_cons,
    Request.ofJson?_toJson_self hwritten.request, Response.ofJson?_toJson_self hwritten.status,
    bool?]

/-! ### Legibility -/

section Legibility

variable {depth : Nat}

theorem Json.legible_ofOption {α : Type} {write : α → Json} {value : Option α}
    (hsome : ∀ x ∈ value, Legible depth (write x)) : Legible depth (ofOption write value) := by
  cases value with
  | none => exact .null
  | some x => exact hsome x rfl

theorem Json.legible_texts (text : Option String) : Legible depth (ofOption string text) :=
  legible_ofOption fun text _ => .string text

theorem legible_emptyAsNull {α : Type} {isEmpty : α → Bool} {write : α → Json} {collection : α}
    (hwrite : Legible depth (write collection)) :
    Legible depth (emptyAsNull isEmpty write collection) := by
  unfold emptyAsNull
  split
  · exact .null
  · exact hwrite

theorem Json.legible_map {α : Type} {name : α → String} {write : α → Json} {items : List α}
    (hwrite : ∀ item ∈ items, Legible depth (write item)) :
    Legible (depth + 1) (object (items.map fun item => (name item, write item))) := by
  refine .object fun member hmem => ?_
  obtain ⟨item, hitem, rfl⟩ := List.mem_map.1 hmem
  exact hwrite item hitem

theorem HeaderMap.legible_toJson (headers : HeaderMap) : Legible (depth + 1) headers.toJson :=
  legible_map fun header _ => .string header.2

theorem FieldValue.legible_toJson (value : FieldValue) : Legible (depth + 1) value.toJson := by
  cases value with
  | one text => exact .string text
  | many texts =>
    refine .array fun item hmem => ?_
    obtain ⟨text, _, rfl⟩ := List.mem_map.1 hmem
    exact .string text

theorem FieldMap.legible_toJson (fields : FieldMap) : Legible (depth + 2) (toJson fields) :=
  legible_map fun field _ => field.2.legible_toJson

theorem BodyFormat.legible_toJson (format : Option BodyFormat) :
    Legible depth (ofOption BodyFormat.toJson format) :=
  legible_ofOption fun format _ => .string format.name

theorem Request.legible_toJson (request : Request) : Legible (depth + 3) request.toJson := by
  refine .object ?_
  simp only [List.forall_mem_cons]
  exact ⟨.string _, .string _, legible_emptyAsNull request.headers.legible_toJson,
    legible_emptyAsNull (FieldMap.legible_toJson _),
    legible_ofOption fun fields _ => FieldMap.legible_toJson fields,
    BodyFormat.legible_toJson _, legible_texts _, fun _ hmem => absurd hmem (List.not_mem_nil)⟩

theorem Response.legible_toJson {response : Response} (hstatus : response.status ≤ greatestStatus) :
    Legible (depth + 2) response.toJson := by
  have hnumber : response.status ≤ greatestSignificand := Nat.le_trans hstatus (by decide)
  refine .object ?_
  simp only [List.forall_mem_cons]
  exact ⟨.nat hnumber, legible_texts _, legible_emptyAsNull response.headers.legible_toJson,
    BodyFormat.legible_toJson _, legible_texts _, fun _ hmem => absurd hmem (List.not_mem_nil)⟩

theorem Exchange.legible_toJson {exchange : Exchange} (hwritten : exchange.Written) :
    Legible (depth + 4) exchange.toJson := by
  refine .object ?_
  simp only [List.forall_mem_cons]
  exact ⟨exchange.request.legible_toJson, Response.legible_toJson hwritten.status, .bool _,
    fun _ hmem => absurd hmem (List.not_mem_nil)⟩

end Legibility

/-- What is put into a file of an archive is read back from it. -/
theorem Archive.exchangeOf?_indented {exchange : Exchange} (hwritten : exchange.Written) :
    exchangeOf? exchange.toJson.indented.toUTF8 = some exchange := by
  have htree : Json.read? exchange.toJson.indented = some exchange.toJson :=
    read?_indented (Exchange.legible_toJson hwritten)
  rw [exchangeOf?_toUTF8, htree, Option.bind_some, Exchange.ofJson?_toJson_self hwritten]

end ApiManual
