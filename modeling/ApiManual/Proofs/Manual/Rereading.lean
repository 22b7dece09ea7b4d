import ApiManual.Manual
import ApiManual.Proofs.Exchange.Rereading

/-!
# Reading a written manual

The canonical JSON of a manual is read back into the same manual, but that headers and fields of
recorded messages come in the order of their names, and that companions, which are not written, are
made anew while the endpoints are registered again.
-/

namespace ApiManual

open Json

namespace Param

structure Written (param : Param) : Prop where
  minLength : ∀ length ∈ param.minLength, length ≤ greatestLength
  maxLength : ∀ length ∈ param.maxLength, length ≤ greatestLength

theorem nullable?_length {length : Option Nat} (hle : ∀ n ∈ length, n ≤ greatestLength) :
    (ofOption nat length).nullable? (nat? greatestLength) = some length := by
  have hread : (ofOption nat length).nullable? (nat? greatestLength) = some (length.map id) :=
    nullable?_ofOption (fun n hn => nat?_nat (hle n hn)) (fun n _ => by rintro ⟨⟩)
  rwa [Option.map_id] at hread

@[simp]
theorem sorted_ofFloat (x : Binary64) : (ofFloat x).sorted = ofFloat x := rfl

@[simp]
theorem nullable?_float (bound : Option Binary64) :
    (ofOption ofFloat bound).nullable? float? = some bound := by
  cases bound <;> rfl

@[simp]
theorem nullable?_choices (choices : Option (List String)) :
    (ofOption ofStrings choices).nullable? (list? string?) = some choices := by
  cases choices with
  | none => rfl
  | some texts =>
    have hlist := list?_ofStrings texts
    rw [ofOption, nullable?, hlist]
    · rfl
    · rintro ⟨⟩

theorem ofJson?_toJson {param : Param} (hwritten : param.Written) :
    ofJson? param.carrier param.toJson.sorted = some param := by
  rw [toJson, ofJson?, record?_sorted _ (by simp), Option.bind_eq_bind, Option.bind_some]
  -- Every reading becomes `some`, and the chain of readings then computes.
  simp only [Fields.required, Fields.optional, Fields.withDefault, List.lookup_cons,
    String.reduceBEq, string?, bool?, Option.map_some, Option.bind_some, sorted_string,
    sorted_ofOption, sorted_bool, sorted_nat, sorted_ofFloat, sorted_ofStrings, nullable?_texts,
    nullable?_float, nullable?_choices, nullable?_length hwritten.minLength,
    nullable?_length hwritten.maxLength]
  rfl

/-- Parameters are read back as those of the carrier whose list they stand in. -/
theorem paramsOfJson?_toJson {carrier : Carrier} {params : List Param}
    (hwritten : ∀ param ∈ params, param.Written ∧ param.carrier = carrier) :
    Endpoint.paramsOfJson? carrier (Endpoint.paramsToJson params).sorted = some params := by
  have hread : (array (params.map fun param => param.toJson.sorted)).list? (ofJson? carrier) =
      some (params.map id) := by
    refine list?_array_map fun param hparam => ?_
    obtain ⟨hparam, rfl⟩ := hwritten param hparam
    exact ofJson?_toJson hparam
  rw [List.map_id] at hread
  rw [Endpoint.paramsToJson, sorted_array, List.map_map, Endpoint.paramsOfJson?, nullable?]
  · simp only [Function.comp_def, hread, Option.map_some, Option.getD_some]
  · rintro ⟨⟩

end Param

namespace Endpoint

/-- The endpoint is one that its JSON tells apart: the method is in small letters, and every
parameter stands in the list of its carrier. -/
structure Written (endpoint : Endpoint) : Prop where
  method : lowercase endpoint.method = endpoint.method
  params : ∀ carrier, ∀ param ∈ endpoint.params carrier, param.Written ∧ param.carrier = carrier
  exchanges : ∀ exchange ∈ endpoint.exchanges, exchange.Written

/-- The endpoint with the headers and fields of its exchanges in order, and documented. -/
def reordered (endpoint : Endpoint) : Endpoint :=
  { endpoint with exchanges := endpoint.exchanges.map Exchange.reordered, companion := false }

theorem rolesOfJson?_roles (roles : List String) :
    rolesOfJson? (object [("roles", ofStrings roles)]).sorted = some roles := by
  rw [rolesOfJson?, record?_sorted _ (by simp)]
  simp [Fields.withDefault, List.lookup_cons]

theorem ofJson?_toJson {endpoint : Endpoint} (hwritten : endpoint.Written) :
    ofJson? endpoint.toJson.sorted = some endpoint.reordered := by
  have hexchanges : (array (endpoint.exchanges.map Exchange.toJson)).sorted.list?
      Exchange.ofJson? = some (endpoint.exchanges.map Exchange.reordered) := by
    rw [sorted_array, List.map_map]
    exact list?_array_map fun exchange hexchange =>
      Exchange.ofJson?_toJson (hwritten.exchanges exchange hexchange)
  have hheader := Param.paramsOfJson?_toJson (hwritten.params .header)
  have hurl := Param.paramsOfJson?_toJson (hwritten.params .url)
  have hquery := Param.paramsOfJson?_toJson (hwritten.params .query)
  have hform := Param.paramsOfJson?_toJson (hwritten.params .form)
  simp only [params] at hheader hurl hquery hform
  have hmethod : endpoint.reordered =
      { endpoint.reordered with method := lowercase endpoint.method } := by
    rw [hwritten.method]
    rfl
  rw [hmethod, toJson, ofJson?, record?_sorted _ (by simp), Option.bind_eq_bind, Option.bind_some]
  simp only [Fields.required, Fields.optional, Fields.withDefault, List.lookup_cons,
    String.reduceBEq, string?, Option.map_some, Option.bind_some, sorted_string, sorted_ofOption,
    sorted_ofStrings, nullable?_texts, list?_ofStrings, hheader, hurl, hquery, hform,
    rolesOfJson?_roles, hexchanges]
  rfl

end Endpoint

theorem members?_sorted {members : List (String × Json)} (hdistinct : (members.map (·.1)).Nodup)
    (name : String) :
    ((object members).sorted.members?.getD []).lookup name = (members.lookup name).map sorted := by
  obtain ⟨ordered, hordered, _, hlookup⟩ := sorted_object hdistinct
  rw [hordered]
  exact hlookup name

namespace Article

theorem ofJson_toJson (article : Article) : ofJson article.toJson.sorted = .ok article := by
  have htitle : (article.toJson.sorted.members?.getD []).lookup "title" =
      some (string article.title) := by
    rw [toJson, members?_sorted (by simp)]
    simp
  have hread : ofJson? article.toJson.sorted = some article := by
    rw [toJson, ofJson?, record?_sorted _ (by simp)]
    simp [Fields.required, Fields.optional, Fields.withDefault, List.lookup_cons, string?]
  rw [ofJson, htitle, hread]
  rfl

theorem listOfJson_toJson (articles : List Article) :
    listOfJson (array (articles.map toJson)).sorted = .ok articles := by
  have hread : (articles.map fun article => article.toJson.sorted).mapM ofJson =
      pure (articles.map id) :=
    mapM_map_eq_pure fun article _ => ofJson_toJson article
  rw [List.map_id] at hread
  rw [sorted_array, List.map_map, listOfJson]
  exact hread

end Article

namespace Registry

/-- The documented endpoints of a registry, read back and registered in their order. -/
def restored (registry : Registry) : Registry :=
  insertAll .empty (registry.documented.map Endpoint.reordered)

theorem endpointOfJson_toJson {endpoint : Endpoint} (hwritten : endpoint.Written) :
    endpointOfJson endpoint.toJson.sorted = .ok endpoint.reordered := by
  have hpath : (endpoint.toJson.sorted.members?.getD []).lookup "path" =
      some (string endpoint.path) := by
    rw [Endpoint.toJson, members?_sorted (by simp)]
    simp
  have hmethod : (endpoint.toJson.sorted.members?.getD []).lookup "method" =
      some (string endpoint.method) := by
    rw [Endpoint.toJson, members?_sorted (by simp)]
    simp [List.lookup_cons]
  simp only [endpointOfJson, hpath, hmethod, Endpoint.ofJson?_toJson hwritten]
  rfl

theorem ofJson_toJson {registry : Registry}
    (hwritten : ∀ endpoint ∈ registry.documented, endpoint.Written) :
    ofJson (toJson registry).sorted = .ok registry.restored := by
  have hread : (registry.documented.map fun endpoint => endpoint.toJson.sorted).mapM
      endpointOfJson = pure (registry.documented.map Endpoint.reordered) :=
    mapM_map_eq_pure fun endpoint hendpoint => endpointOfJson_toJson (hwritten endpoint hendpoint)
  rw [toJson, sorted_array, List.map_map, ofJson]
  simp only [Function.comp_def, hread]
  rfl

end Registry

namespace Manual

/-- The manual with the registry that is read back from its JSON. -/
def restored (manual : Manual) : Manual :=
  { manual with registry := Registry.restored manual.registry }

@[simp]
theorem textOfJson_string (text : String) : textOfJson (some (string text)) = .ok (some text) := rfl

@[simp]
theorem textOfJson_ofOption (text : Option String) :
    textOfJson (some (ofOption string text)) = .ok text := by
  cases text <;> rfl

@[simp]
theorem textsOfJson_ofStrings (texts : List String) :
    textsOfJson (some (ofStrings texts)) = .ok texts := by
  have hlist := list?_ofStrings texts
  rw [ofStrings] at hlist ⊢
  rw [textsOfJson, hlist]
  · rfl
  · rintro ⟨⟩

/-- **A written manual can be read.** Title, addresses, articles and documented endpoints come back
as they were, and the registry is built anew from the documented endpoints in their order. -/
theorem ofJson_toJson {manual : Manual}
    (hwritten : ∀ endpoint ∈ Registry.documented manual.registry, endpoint.Written) :
    ofJson manual.toJson = .ok manual.restored := by
  have hnames : (manual.members.map (·.1)).Nodup := by simp [members]
  obtain ⟨ordered, hordered, _, hlookup⟩ := sorted_object hnames
  have hregistry := Registry.ofJson_toJson hwritten
  have harticles := Article.listOfJson_toJson manual.articles
  simp only [toJson, hordered, ofJson, hlookup]
  simp [members, List.lookup_cons, hregistry, harticles, restored, bind, Except.bind, pure,
    Except.pure, -sorted_array]

end Manual

end ApiManual
