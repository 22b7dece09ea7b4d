import ApiManual.Proofs.Registry.Arrangement
import ApiManual.Proofs.Registry.Routing

/-!
# Routes that stay

An insertion puts the endpoint in the place of the one with its key, which is one for the same path
and method, and otherwise behind all others, as it does with the companion. Routing takes the first
endpoint that the request is for. So a request that has found an endpoint finds the same one after
the insertion, or what has taken its place, and what is new is found only by requests that have found
nothing.
-/

namespace ApiManual.Registry

open Endpoint

variable {registry : Registry} {endpoint : Endpoint} {endpoints : List Endpoint}

theorem mem_appended_iff {item : Endpoint} :
    item ∈ registry.appended endpoint ↔
      (item = endpoint ∧ endpoint.key ∉ registry.keys) ∨
        (item = companionAt endpoint.path ∧ registry.NeedsCompanion endpoint) := by
  rw [appended, List.mem_append]
  refine or_congr ?_ ?_ <;> split <;> simp [*]

/-- What the request has found before comes first, with the endpoint in its place if they have the
same key, and what is new comes behind it. -/
theorem route?_insert (hplain : ∀ item ∈ registry.items, item.Plain) (hnew : endpoint.Plain)
    (path method : String) :
    (registry.insert endpoint).route? path method =
      ((registry.route? path method).map fun found =>
          if found.key = endpoint.key then endpoint else found).or
        ((registry.appended endpoint).find? (isFor path method)) := by
  -- The same key means the same path and method, so the replacement is for the same requests.
  have hsame : ∀ item ∈ registry.items,
      isFor path method (if item.key = endpoint.key then endpoint else item) =
        isFor path method item := by
    intro item hmem
    split
    · next hkey =>
      obtain ⟨hpath, hmethod⟩ := (hplain item hmem).eq_of_key_eq hnew hkey
      rw [isFor, isFor, hpath, hmethod]
    · rfl
  rw [route?_eq_find?, items_insert, List.find?_append, Keyed.replaceItem,
    List.find?_map, route?_eq_find?]
  exact congrArg (fun kept => (Option.map _ kept).or _) (List.find?_congr hsame)

theorem route?_insert_of_eq_some (hplain : ∀ item ∈ registry.items, item.Plain)
    (hnew : endpoint.Plain) {path method : String} {found : Endpoint}
    (hroute : registry.route? path method = some found) :
    (registry.insert endpoint).route? path method =
      some (if found.key = endpoint.key then endpoint else found) := by
  rw [route?_insert hplain hnew, hroute, Option.map_some, Option.some_or]

theorem mem_appended_of_route?_insert (hplain : ∀ item ∈ registry.items, item.Plain)
    (hnew : endpoint.Plain) {path method : String} {held : Endpoint}
    (hnone : registry.route? path method = none)
    (hroute : (registry.insert endpoint).route? path method = some held) :
    held ∈ registry.appended endpoint := by
  rw [route?_insert hplain hnew, hnone, Option.map_none, Option.none_or] at hroute
  exact List.mem_of_find?_eq_some hroute

/-- Whatever is inserted, a request that has found an endpoint finds the same one or one for the same
path and method that was inserted. -/
theorem route?_insertAll_of_eq_some (hplain : ∀ item ∈ registry.items, item.Plain)
    (hlater : ∀ endpoint ∈ endpoints, endpoint.Plain) {path method : String} {found : Endpoint}
    (hroute : registry.route? path method = some found) :
    ∃ held, (registry.insertAll endpoints).route? path method = some held ∧
      held.key = found.key ∧ (held = found ∨ held ∈ endpoints) := by
  -- What takes the place of `found` may be replaced in turn, so `found` varies in the induction.
  induction endpoints generalizing registry found with
  | nil => exact ⟨found, hroute, rfl, Or.inl rfl⟩
  | cons endpoint endpoints ih =>
    obtain ⟨hnew, hlater⟩ := List.forall_mem_cons.1 hlater
    obtain ⟨held, hheld, hkey, hfrom⟩ := ih (fun _ => plain_of_mem_insert hplain hnew) hlater
      (route?_insert_of_eq_some hplain hnew hroute)
    refine ⟨held, hheld, ?_⟩
    by_cases hsame : found.key = endpoint.key
    · rw [if_pos hsame] at hkey hfrom
      exact ⟨hkey.trans hsame.symm, Or.inr (List.mem_cons.2 hfrom)⟩
    · rw [if_neg hsame] at hkey hfrom
      exact ⟨hkey, hfrom.imp_right (List.mem_cons_of_mem endpoint)⟩

/-- **Routes stay.** After an insertion a request finds under the same key what it has found before,
or the endpoint that was inserted if that is its key. A request that has found nothing finds the
endpoint that was inserted, its companion if the insertion made it, or again nothing. And however many
endpoints are inserted later, a request keeps to the key under which it has found one. -/
theorem insertion_keeps_routes (hplain : ∀ endpoint ∈ endpoints, endpoint.Plain)
    (hnew : endpoint.Plain) (path method : String) :
    (∀ found, (insertAll .empty endpoints).route? path method = some found →
      ∃ held, ((insertAll .empty endpoints).insert endpoint).route? path method = some held ∧
        held.key = found.key ∧
        (found.key = endpoint.key → held = endpoint) ∧
        (found.key ≠ endpoint.key → held = found)) ∧
    ((insertAll .empty endpoints).route? path method = none →
      ∀ held, ((insertAll .empty endpoints).insert endpoint).route? path method = some held →
        held = endpoint ∨
          (held = companionAt endpoint.path ∧
            (insertAll .empty endpoints).NeedsCompanion endpoint)) ∧
    (∀ later : List Endpoint, (∀ endpoint ∈ later, endpoint.Plain) →
      ∀ found, (insertAll .empty endpoints).route? path method = some found →
        ∃ held, (insertAll .empty (endpoints ++ later)).route? path method = some held ∧
          held.key = found.key ∧ (held = found ∨ held ∈ later)) := by
  have hitems : ∀ item ∈ (insertAll .empty endpoints).items, item.Plain :=
    fun _ => plain_of_mem_insertAll hplain
  refine ⟨fun found hroute => ?_, fun hnone held hroute => ?_, fun later hlater found hroute => ?_⟩
  · refine ⟨_, route?_insert_of_eq_some hitems hnew hroute, ?_, fun hkey => if_pos hkey,
      fun hkey => if_neg hkey⟩
    split
    · next hkey => exact hkey.symm
    · rfl
  · have hmem := mem_appended_of_route?_insert hitems hnew hnone hroute
    exact (mem_appended_iff.1 hmem).imp_left And.left
  · rw [insertAll_append]
    exact route?_insertAll_of_eq_some hitems hlater hroute

/-- A template with a placeholder, before one for a path that it takes. -/
def userFirst : List Endpoint := [bare "/user/:id" "get"]

theorem keeps_userFirst :
    (∀ endpoint ∈ userFirst, endpoint.Plain) ∧ (bare "/user/me" "get").Plain ∧
      (insertAll .empty userFirst).route? "/user/me" "GET" = some (bare "/user/:id" "get") ∧
      ((insertAll .empty userFirst).insert (bare "/user/me" "get")).route? "/user/me" "GET" =
        some (bare "/user/:id" "get") := by
  have hplain : ∀ endpoint ∈ userFirst, endpoint.Plain := by
    rw [userFirst, List.forall_mem_singleton, Plain]
    decide
  have hnew : (bare "/user/me" "get").Plain := by
    rw [Plain]
    decide
  have hroute : (insertAll .empty userFirst).route? "/user/me" "GET" =
      some (bare "/user/:id" "get") := rfl
  have hkey : (bare "/user/:id" "get").key ≠ (bare "/user/me" "get").key := by decide
  obtain ⟨hkept, -⟩ := insertion_keeps_routes hplain hnew "/user/me" "GET"
  obtain ⟨held, hheld, -, -, hsame⟩ := hkept _ hroute
  rw [hsame hkey] at hheld
  exact ⟨hplain, hnew, hroute, hheld⟩

end ApiManual.Registry
