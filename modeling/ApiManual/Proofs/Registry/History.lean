import ApiManual.Proofs.Registry.Arrangement

/-!
# What a registry holds after a history of registrations

Registered one after the other, the endpoints of a history leave under each key the last of them with
that key. Only where there is none, a companion can stand, and it does when its path has been
registered with another method. The places, path and method, follow from the keys as far as keys tell
places apart.
-/

namespace ApiManual

namespace Endpoint

/-- What an endpoint is registered for. -/
def place (endpoint : Endpoint) : String × String := (endpoint.path, endpoint.method)

theorem key_eq_of_place_eq {a b : Endpoint} (hplace : a.place = b.place) : a.key = b.key := by
  obtain ⟨hpath, hmethod⟩ := Prod.mk.inj hplace
  rw [key, key, hpath, hmethod]

theorem Plain.place_eq_iff {a b : Endpoint} (ha : a.Plain) (hb : b.Plain) :
    a.place = b.place ↔ a.key = b.key := by
  refine ⟨key_eq_of_place_eq, fun hkey => ?_⟩
  obtain ⟨hpath, hmethod⟩ := ha.eq_of_key_eq hb hkey
  exact Prod.ext hpath hmethod

theorem place_companionAt (path : String) : (companionAt path).place = (path, optionsMethod) :=
  Prod.ext rfl (method_companionAt path)

end Endpoint

namespace Registry

open Endpoint

variable {registry : Registry} {endpoint : Endpoint} {endpoints : List Endpoint}

/-- No two endpoints have the same place, because they would have the same key. -/
theorem nodup_place (registry : Registry) : (registry.items.map place).Nodup := by
  have hkeys : registry.items.map key =
      (registry.items.map place).map fun place => place.1 ++ "-" ++ place.2 := by
    rw [List.map_map]
    rfl
  have hdistinct := registry.distinct
  rw [hkeys] at hdistinct
  exact hdistinct.of_map

theorem find?_insert (registry : Registry) (endpoint : Endpoint) (k : String) :
    (registry.insert endpoint).find? k =
      if endpoint.key = k then some endpoint
      else (registry.find? k).or
        (if endpoint.method ≠ optionsMethod ∧ endpoint.partnerKey = k then
          some (companionAt endpoint.path) else none) := by
  unfold insert
  split
  · next hmethod => simp [Keyed.find?_put, hmethod]
  · next hmethod =>
    rw [Keyed.find?_putNew, Keyed.find?_put]
    by_cases hkey : endpoint.key = k
    · rw [if_pos hkey, if_pos hkey, Option.some_or]
    · simp only [if_neg hkey, ne_eq, hmethod, not_false_eq_true, true_and, partnerKey]

/-- **The last registration counts.** Under a key stands the last endpoint that was registered with
it, or else a companion if there is a path whose companion has the key. -/
theorem find?_insertAll (endpoints : List Endpoint) (k : String) :
    (insertAll .empty endpoints).find? k =
      (endpoints.reverse.find? (·.key = k)).or
        ((endpoints.find? fun endpoint =>
          endpoint.method ≠ optionsMethod ∧ endpoint.partnerKey = k).map
            fun endpoint => companionAt endpoint.path) := by
  induction endpoints using List.reverseRecOn with
  | nil => rfl
  | append_singleton endpoints endpoint ih =>
    rw [insertAll_append, insertAll_cons, insertAll, List.foldl_nil, find?_insert, ih,
      List.reverse_concat, List.find?_cons, List.find?_append, List.find?_singleton]
    by_cases hkey : endpoint.key = k
    · simp [hkey]
    · rw [if_neg hkey, decide_eq_false hkey, Option.map_or, Option.or_assoc]
      simp only [decide_eq_true_eq, apply_ite (Option.map _), Option.map_some, Option.map_none]

/-- A registered path has an endpoint for `options`. -/
theorem partnerKey_mem_insertAll (hmem : endpoint ∈ endpoints) :
    endpoint.partnerKey ∈ (insertAll .empty endpoints).keys := by
  rw [← Keyed.isSome_find?_iff, find?_insertAll, Option.isSome_or, Bool.or_eq_true]
  by_cases hmethod : endpoint.method = optionsMethod
  · left
    obtain ⟨last, hlast⟩ := find?_reverse_isSome (p := (·.key = endpoint.partnerKey)) hmem
      (decide_eq_true (partnerKey_eq_key rfl hmethod))
    rw [hlast]
    rfl
  · right
    rw [Option.isSome_map]
    exact List.find?_isSome.2 ⟨endpoint, hmem, by simp [hmethod]⟩

/-- No place comes up twice in a registry. -/
theorem filter_place_eq (hmem : endpoint ∈ registry.items) :
    registry.items.filter (·.place = endpoint.place) = [endpoint] := by
  obtain ⟨before, after, hitems⟩ := List.append_of_mem hmem
  have hdistinct := registry.distinct
  rw [hitems, List.map_append, List.map_cons, List.nodup_middle, List.nodup_cons,
    List.mem_append, not_or] at hdistinct
  obtain ⟨⟨hbefore, hafter⟩, -⟩ := hdistinct
  have hnone : ∀ others : List Endpoint, endpoint.key ∉ others.map key →
      others.filter (·.place = endpoint.place) = [] := by
    intro others hfresh
    rw [List.filter_eq_nil_iff]
    intro other hother hplace
    exact hfresh (key_eq_of_place_eq (of_decide_eq_true hplace) ▸ List.mem_map_of_mem hother)
  rw [hitems, List.filter_append, List.filter_cons, if_pos (decide_eq_true rfl), hnone _ hbefore,
    hnone _ hafter, List.nil_append]

theorem mem_of_filter_place_eq {place : String × String}
    (hfilter : registry.items.filter (·.place = place) = [endpoint]) :
    endpoint ∈ registry.items ∧ endpoint.place = place := by
  have hmem : endpoint ∈ registry.items.filter (·.place = place) := by
    rw [hfilter]
    exact List.mem_singleton_self endpoint
  obtain ⟨hitem, hplace⟩ := List.mem_filter.1 hmem
  exact ⟨hitem, of_decide_eq_true hplace⟩

end Registry

end ApiManual
