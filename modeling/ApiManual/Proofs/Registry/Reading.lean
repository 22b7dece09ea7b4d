import ApiManual.Proofs.Json.Rereading
import ApiManual.Registry

/-!
# What is read into a registry

Reading a registry is reading the items of a list, or a single object, and registering the endpoints
in their order. The first item that is not read makes the failure.
-/

namespace ApiManual.Registry

/-- The items that are read as endpoints. -/
def endpointItems : Json → List Json
  | .array items => items
  | .object members => [.object members]
  | _ => []

theorem ofJson?_of_endpointOfJson {json : Json} {endpoint : Endpoint}
    (hread : endpointOfJson json = .ok endpoint) : Endpoint.ofJson? json = some endpoint := by
  unfold endpointOfJson at hread
  dsimp only at hread
  split at hread
  · cases hjson : Endpoint.ofJson? json with
    | none =>
      rw [hjson] at hread
      cases hread
    | some found =>
      rw [hjson] at hread
      cases hread
      rfl
  · cases hread

/-- Unless it is of another kind, the items of a JSON are read and registered one after the other. -/
theorem ofJson_eq (json : Json) :
    ofJson json =
        ((endpointItems json).mapM endpointOfJson).map (fun endpoints => insertAll .empty endpoints) ∨
      endpointItems json = [] ∧ ofJson json = .error (.mismatch "Resource" json.kind) := by
  cases json with
  | null => exact Or.inl rfl
  | array items => exact Or.inl rfl
  | object members => exact Or.inl rfl
  | bool value => exact Or.inr ⟨rfl, rfl⟩
  | number value => exact Or.inr ⟨rfl, rfl⟩
  | string value => exact Or.inr ⟨rfl, rfl⟩
  | unreadable => exact Or.inr ⟨rfl, rfl⟩

/-- Reading registers what it reads, every item once and in order. -/
theorem exists_endpoints_of_ofJson {json : Json} {registry : Registry}
    (hread : ofJson json = .ok registry) :
    ∃ endpoints, registry = insertAll .empty endpoints ∧
      List.Forall₂ (fun item endpoint => endpointOfJson item = .ok endpoint)
        (endpointItems json) endpoints := by
  rcases ofJson_eq json with heq | ⟨-, hkind⟩
  · rw [heq] at hread
    cases hendpoints : (endpointItems json).mapM endpointOfJson with
    | error failure =>
      rw [hendpoints] at hread
      cases hread
    | ok endpoints =>
      rw [hendpoints] at hread
      cases hread
      exact ⟨endpoints, rfl, Json.mapM_eq_ok_iff.1 hendpoints⟩
  · rw [hkind] at hread
    cases hread

theorem exists_of_ofJson {json : Json} {registry : Registry} (hread : ofJson json = .ok registry) :
    ∃ endpoints : List Endpoint, registry = insertAll .empty endpoints ∧
      ∀ endpoint ∈ endpoints, ∃ item ∈ endpointItems json,
        endpointOfJson item = .ok endpoint := by
  obtain ⟨endpoints, hregistry, hitems⟩ := exists_endpoints_of_ofJson hread
  exact ⟨endpoints, hregistry, fun endpoint hmem =>
    Json.exists_of_mem_mapM (Json.mapM_eq_ok_iff.2 hitems) hmem⟩

/-- The first item that is not read makes the failure. -/
theorem ofJson_eq_error {json item : Json} {before after : List Json} {failure : Failure}
    (hitems : endpointItems json = before ++ item :: after)
    (hbefore : ∀ earlier ∈ before, ∃ endpoint, endpointOfJson earlier = .ok endpoint)
    (hitem : endpointOfJson item = .error failure) : ofJson json = .error failure := by
  rcases ofJson_eq json with heq | ⟨hnone, -⟩
  · rw [heq, hitems, Json.mapM_eq_error hbefore hitem]
    rfl
  · simp [hnone] at hitems

end ApiManual.Registry
