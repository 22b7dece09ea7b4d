import ApiManual.Proofs.Manual.Restoring

/-!
# What a manual is refused for

The lists of a manual are read item by item, the articles before the endpoints, and the first item
that is not read makes the failure. Which failure that is depends on the marks of its kind: for an
article a title that is a text, for an endpoint a path that is a text and a method of any sort.
Without them an item is refused as one of the wrong kind.

Having the marks is less than being read. The content of an article may be anything but a text, and so
may the method of an endpoint. Then the item is no more an article or an endpoint than one without the
marks is, but it is refused as JSON of the wrong shape, and nothing tells which list it stands in.
-/

namespace ApiManual

open Json

/-- The first of some items that is not read. -/
def FirstRefused {α : Type} (read : Json → Except Failure α) (items : List Json) (item : Json) :
    Prop :=
  ∃ before after, items = before ++ item :: after ∧
    (∀ earlier ∈ before, ∃ value, read earlier = .ok value) ∧ ∀ value, read item ≠ .ok value

/-- What is read further when it has the marks of its kind, and is a mismatch without them, is refused
for the one or the other. -/
theorem failure_iff_of_marks {α : Type} {result : Except Failure α} {value? : Option α}
    {marked : Prop} {expected found : String} (hmarked : marked → result = orJson value?)
    (hunmarked : ¬ marked → result = .error (.mismatch expected found)) {failure : Failure}
    (hresult : result = .error failure) :
    (failure = .mismatch expected found ↔ ¬ marked) ∧ (failure = .json ↔ marked) := by
  by_cases hmarks : marked
  · have hread := hresult.symm.trans (hmarked hmarks)
    cases value? with
    | none =>
      cases hread
      simp [hmarks]
    | some value => cases hread
  · cases hresult.symm.trans (hunmarked hmarks)
    simp [hmarks]

theorem exists_error_of_refused {α : Type} {result : Except Failure α}
    (hrefused : ∀ value, result ≠ .ok value) : ∃ failure, result = .error failure := by
  cases result with
  | error failure => exact ⟨failure, rfl⟩
  | ok value => exact absurd rfl (hrefused value)

namespace Article

def listItems : Json → List Json
  | .array items => items
  | _ => []

/-- A title that is a text is all that makes an object an article. -/
def Marked (json : Json) : Prop :=
  ∃ members title, json = .object members ∧ members.lookup "title" = some (.string title)

theorem ofJson_of_marked {json : Json} (hmarked : Marked json) :
    ofJson json = orJson (ofJson? json) := by
  obtain ⟨members, title, rfl, htitle⟩ := hmarked
  simp [ofJson, members?, htitle]

theorem ofJson_of_not_marked {json : Json} (hnot : ¬ Marked json) :
    ofJson json = .error (.mismatch "Document" json.kind) := by
  unfold ofJson
  split
  · next title htitle =>
    cases json with
    | object members => exact absurd ⟨members, title, rfl, htitle⟩ hnot
    | _ => cases htitle
  · rfl

theorem listOfJson_eq (json : Json) :
    listOfJson json = (listItems json).mapM ofJson ∨
      listItems json = [] ∧ listOfJson json = .error (.mismatch "Document" json.kind) := by
  cases json with
  | null => exact Or.inl rfl
  | array items => exact Or.inl rfl
  | object members => exact Or.inr ⟨rfl, rfl⟩
  | bool value => exact Or.inr ⟨rfl, rfl⟩
  | number value => exact Or.inr ⟨rfl, rfl⟩
  | string value => exact Or.inr ⟨rfl, rfl⟩
  | unreadable => exact Or.inr ⟨rfl, rfl⟩

theorem forall₂_of_listOfJson {json : Json} {articles : List Article}
    (hread : listOfJson json = .ok articles) :
    List.Forall₂ (fun item article => ofJson item = .ok article) (listItems json) articles := by
  rcases listOfJson_eq json with heq | ⟨-, hkind⟩
  · exact mapM_eq_ok_iff.1 (heq.symm.trans hread)
  · cases hkind.symm.trans hread

theorem listOfJson_eq_error {json item : Json} (hfirst : FirstRefused ofJson (listItems json) item)
    {failure : Failure} (hitem : ofJson item = .error failure) :
    listOfJson json = .error failure := by
  obtain ⟨before, after, hitems, hbefore, -⟩ := hfirst
  rcases listOfJson_eq json with heq | ⟨hnone, -⟩
  · rw [heq, hitems, mapM_eq_error hbefore hitem]
  · simp [hnone] at hitems

end Article

namespace Registry

/-- An endpoint needs a path that is a text, and a method of whatever sort. -/
def Marked (json : Json) : Prop :=
  ∃ members path method, json = .object members ∧
    members.lookup "path" = some (.string path) ∧ members.lookup "method" = some method

theorem endpointOfJson_of_marked {json : Json} (hmarked : Marked json) :
    endpointOfJson json = orJson (Endpoint.ofJson? json) := by
  obtain ⟨members, path, method, rfl, hpath, hmethod⟩ := hmarked
  simp [endpointOfJson, members?, hpath, hmethod]

theorem endpointOfJson_of_not_marked {json : Json} (hnot : ¬ Marked json) :
    endpointOfJson json = .error (.mismatch "Resource" json.kind) := by
  unfold endpointOfJson
  dsimp only
  split
  · next path method hpath hmethod =>
    cases json with
    | object members => exact absurd ⟨members, path, method, rfl, hpath, hmethod⟩ hnot
    | _ => cases hpath
  · rfl

/-- An endpoint that is registered stays, unless one with the same key is registered later. -/
theorem mem_insertAll_or_later (registry : Registry) (before : List Endpoint) (endpoint : Endpoint)
    (after : List Endpoint) :
    endpoint ∈ (registry.insertAll (before ++ endpoint :: after)).items ∨
      ∃ later ∈ after, later.key = endpoint.key := by
  by_cases hlater : ∃ later ∈ after, later.key = endpoint.key
  · exact Or.inr hlater
  · rw [insertAll_append, insertAll_cons]
    refine Or.inl (mem_insertAll_of_ne (mem_insert_self ..) fun later hmem hkey => ?_)
    exact hlater ⟨later, hmem, hkey.symm⟩

end Registry

namespace Manual

variable {json item : Json}

/-- A member of the JSON of a manual. -/
def part? (name : String) (json : Json) : Option Json :=
  (json.members?.getD []).lookup name

def articlesJson (json : Json) : Json :=
  (part? "documents" json).getD .null

/-- An object in which whatever is read before the lists has the type that it has to have. -/
structure HeadTyped (json : Json) : Prop where
  object : ∃ members, json = .object members
  texts : ∀ name ∈ ["title", "version", "base_uri", "media_type"], ∀ value ∈ part? name json,
    value = .null ∨ ∃ text, value = .string text
  protocols : ∀ value ∈ part? "protocols" json, value = .null ∨ ∃ texts, value = ofStrings texts

theorem exists_textOfJson {value? : Option Json}
    (htyped : ∀ value ∈ value?, value = .null ∨ ∃ text, value = .string text) :
    ∃ text?, textOfJson value? = .ok text? := by
  cases value? with
  | none => exact ⟨none, rfl⟩
  | some value =>
    rcases htyped value rfl with rfl | ⟨text, rfl⟩
    · exact ⟨none, rfl⟩
    · exact ⟨some text, rfl⟩

theorem exists_textsOfJson {value? : Option Json}
    (htyped : ∀ value ∈ value?, value = .null ∨ ∃ texts, value = ofStrings texts) :
    ∃ texts, textsOfJson value? = .ok texts := by
  cases value? with
  | none => exact ⟨[], rfl⟩
  | some value =>
    rcases htyped value rfl with rfl | ⟨texts, rfl⟩
    · exact ⟨[], rfl⟩
    · exact ⟨texts, textsOfJson_ofStrings texts⟩

/-- Behind such a head only the lists decide, the articles first. -/
theorem ofJson_of_headTyped (htyped : HeadTyped json) :
    ∃ head : Manual, ofJson json = do
      let articles ← Article.listOfJson (articlesJson json)
      let registry ← Registry.ofJson (registryJson json)
      return { head with articles, registry } := by
  have htext : ∀ name ∈ ["title", "version", "base_uri", "media_type"],
      ∃ text?, textOfJson (part? name json) = .ok text? :=
    fun name hname => exists_textOfJson (htyped.texts name hname)
  simp only [List.forall_mem_cons] at htext
  obtain ⟨⟨title, htitle⟩, ⟨version, hversion⟩, ⟨baseUri, hbaseUri⟩, ⟨mediaType, hmediaType⟩, -⟩ :=
    htext
  obtain ⟨protocols, hprotocols⟩ := exists_textsOfJson htyped.protocols
  obtain ⟨members, rfl⟩ := htyped.object
  refine ⟨⟨title.getD "", version, baseUri, mediaType, protocols, [], .empty⟩, ?_⟩
  simp only [part?, members?, Option.getD_some] at htitle hversion hbaseUri hmediaType hprotocols
  simp only [ofJson, htitle, hversion, hbaseUri, hmediaType, hprotocols]
  rfl

theorem ofJson_of_refused_article (htyped : HeadTyped json)
    (hfirst : FirstRefused Article.ofJson (Article.listItems (articlesJson json)) item)
    {failure : Failure} (hitem : Article.ofJson item = .error failure) :
    ofJson json = .error failure := by
  obtain ⟨head, heq⟩ := ofJson_of_headTyped htyped
  rw [heq, Article.listOfJson_eq_error hfirst hitem]
  rfl

theorem ofJson_of_refused_endpoint (htyped : HeadTyped json) {articles : List Article}
    (harticles : Article.listOfJson (articlesJson json) = .ok articles)
    (hfirst : FirstRefused Registry.endpointOfJson
      (Registry.endpointItems (registryJson json)) item)
    {failure : Failure} (hitem : Registry.endpointOfJson item = .error failure) :
    ofJson json = .error failure := by
  obtain ⟨head, heq⟩ := ofJson_of_headTyped htyped
  obtain ⟨before, after, hitems, hbefore, -⟩ := hfirst
  -- The items before it are registered, but nothing of that is kept when one is refused.
  rw [heq, harticles, Registry.ofJson_eq_error hitems hbefore hitem]
  rfl

/-- **Only items without the marks of their kind are refused for it.** Where everything before the
lists has its type, the first article that is not read makes a mismatch exactly if it has no title
that is a text. With all articles read, the first endpoint that is not read makes a mismatch exactly
if it has no path that is a text or no method at all. With the marks, both are refused as JSON of the
wrong shape. When a manual is read, all its items have been. Its articles are the items in their order,
and every endpoint is in its registry unless one with the same key stands further down. -/
theorem mismatch_iff_not_marked (htyped : HeadTyped json) :
    (∀ item, FirstRefused Article.ofJson (Article.listItems (articlesJson json)) item →
      (ofJson json = .error (.mismatch "Document" item.kind) ↔ ¬ Article.Marked item) ∧
        (ofJson json = .error .json ↔ Article.Marked item)) ∧
    (∀ articles item, Article.listOfJson (articlesJson json) = .ok articles →
      FirstRefused Registry.endpointOfJson (Registry.endpointItems (registryJson json)) item →
      (ofJson json = .error (.mismatch "Resource" item.kind) ↔ ¬ Registry.Marked item) ∧
        (ofJson json = .error .json ↔ Registry.Marked item)) ∧
    ∀ manual, ofJson json = .ok manual →
      List.Forall₂ (fun item article => Article.ofJson item = .ok article)
        (Article.listItems (articlesJson json)) manual.articles ∧
      ∃ endpoints, List.Forall₂ (fun item endpoint => Registry.endpointOfJson item = .ok endpoint)
          (Registry.endpointItems (registryJson json)) endpoints ∧
        ∀ before endpoint after, endpoints = before ++ endpoint :: after →
          endpoint ∈ manual.registry.items ∨ ∃ later ∈ after, later.key = endpoint.key := by
  refine ⟨fun item hfirst => ?_, fun articles item harticles hfirst => ?_, fun manual hread => ?_⟩
  -- In both lists the failure of the first refused item is that of the manual, and its marks tell
  -- which of the two it is.
  · obtain ⟨-, -, -, -, hrefused⟩ := id hfirst
    obtain ⟨failure, hitem⟩ := exists_error_of_refused hrefused
    rw [ofJson_of_refused_article htyped hfirst hitem, Except.error.injEq, Except.error.injEq]
    exact failure_iff_of_marks Article.ofJson_of_marked Article.ofJson_of_not_marked hitem
  · obtain ⟨-, -, -, -, hrefused⟩ := id hfirst
    obtain ⟨failure, hitem⟩ := exists_error_of_refused hrefused
    rw [ofJson_of_refused_endpoint htyped harticles hfirst hitem, Except.error.injEq,
      Except.error.injEq]
    exact failure_iff_of_marks Registry.endpointOfJson_of_marked
      Registry.endpointOfJson_of_not_marked hitem
  · obtain ⟨head, heq⟩ := ofJson_of_headTyped htyped
    rw [heq] at hread
    obtain ⟨articles, harticles, hread⟩ := exists_of_bind_eq_ok hread
    obtain ⟨registry, hregistry, hread⟩ := exists_of_bind_eq_ok hread
    cases hread
    obtain ⟨endpoints, rfl, hendpoints⟩ := Registry.exists_endpoints_of_ofJson hregistry
    refine ⟨Article.forall₂_of_listOfJson harticles, endpoints, hendpoints, ?_⟩
    rintro before endpoint after rfl
    exact Registry.mem_insertAll_or_later .empty before endpoint after

def startJson : Json :=
  .object [("content", .null), ("title", .string "Start")]

def usersJson : Json :=
  .object [("method", .string "get"), ("path", .string "/user")]

/-- An article, and behind it an endpoint where an article has to be. -/
def strayEndpointJson : Json :=
  .object [("documents", .array [startJson, usersJson]), ("title", .string "Users")]

/-- An article where a list of endpoints or a single one has to be. -/
def strayArticleJson : Json :=
  .object [("documents", .array [startJson]), ("resources", startJson)]

theorem mismatch_strayEndpointJson :
    HeadTyped strayEndpointJson ∧
      ofJson strayEndpointJson = .error (.mismatch "Document" "object") ∧
      HeadTyped strayArticleJson ∧
      ofJson strayArticleJson = .error (.mismatch "Resource" "object") := by
  have hendpoint : HeadTyped strayEndpointJson := by
    refine ⟨⟨_, rfl⟩, ?_, ?_⟩ <;> simp [part?, strayEndpointJson, members?, List.lookup_cons]
  have harticle : HeadTyped strayArticleJson := by
    refine ⟨⟨_, rfl⟩, ?_, ?_⟩ <;> simp [part?, strayArticleJson, members?, List.lookup_cons]
  have hstart : ∃ article, Article.ofJson startJson = .ok article := ⟨_, rfl⟩
  refine ⟨hendpoint, ?_, harticle, ?_⟩
  · have hfirst : FirstRefused Article.ofJson
        (Article.listItems (articlesJson strayEndpointJson)) usersJson :=
      ⟨[startJson], [], rfl, List.forall_mem_singleton.2 hstart, by rintro article ⟨⟩⟩
    refine ((mismatch_iff_not_marked hendpoint).1 usersJson hfirst).1.2 ?_
    rintro ⟨members, title, hobject, htitle⟩
    cases hobject
    cases htitle
  · have hfirst : FirstRefused Registry.endpointOfJson
        (Registry.endpointItems (registryJson strayArticleJson)) startJson :=
      ⟨[], [], rfl, List.forall_mem_nil _, by rintro endpoint ⟨⟩⟩
    refine ((mismatch_iff_not_marked harticle).2.1 _ startJson rfl hfirst).1.2 ?_
    rintro ⟨members, path, method, hobject, hpath, -⟩
    cases hobject
    cases hpath

def numberedMethodJson : Json :=
  .object [("resources", .array [.object [("method", .nat 5), ("path", .string "/photo")]])]

/-- The first endpoint that is not read has a method that is no text, and yet is not refused as
something else than an endpoint. -/
theorem not_mismatch_numberedMethodJson :
    HeadTyped numberedMethodJson ∧
      Article.listOfJson (articlesJson numberedMethodJson) = .ok [] ∧
      ∃ members, FirstRefused Registry.endpointOfJson
          (Registry.endpointItems (registryJson numberedMethodJson)) (.object members) ∧
        (∀ method, members.lookup "method" ≠ some (.string method)) ∧
        ofJson numberedMethodJson = .error .json ∧
        ofJson numberedMethodJson ≠ .error (.mismatch "Resource" "object") := by
  refine ⟨⟨⟨_, rfl⟩, ?_, ?_⟩, rfl, [("method", .nat 5), ("path", .string "/photo")], ?_, ?_, rfl, ?_⟩
  · simp [part?, numberedMethodJson, members?, List.lookup_cons]
  · simp [part?, numberedMethodJson, members?, List.lookup_cons]
  · exact ⟨[], [], rfl, List.forall_mem_nil _, by rintro endpoint ⟨⟩⟩
  · rintro method ⟨⟩
  · rintro ⟨⟩

end Manual

end ApiManual
