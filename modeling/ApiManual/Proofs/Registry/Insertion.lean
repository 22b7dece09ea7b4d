import ApiManual.Proofs.Keyed
import ApiManual.Registry

/-!
# What insertion does to a registry

An inserted endpoint is there afterwards, and so is everything with another key. Whatever else is
there is a companion.
-/

namespace ApiManual.Registry

variable {registry : Registry} {endpoint : Endpoint}

theorem mem_insert_self (registry : Registry) (endpoint : Endpoint) :
    endpoint ∈ (registry.insert endpoint).items := by
  unfold insert
  split
  · exact Keyed.mem_put_self registry endpoint
  · exact Keyed.mem_putNew_of_mem (Keyed.mem_put_self registry endpoint)

theorem mem_insert_of_ne {other : Endpoint} (hmem : other ∈ registry.items)
    (hne : other.key ≠ endpoint.key) : other ∈ (registry.insert endpoint).items := by
  unfold insert
  split
  · exact Keyed.mem_put_of_ne hmem hne
  · exact Keyed.mem_putNew_of_mem (Keyed.mem_put_of_ne hmem hne)

theorem eq_or_mem_of_mem_insert {other : Endpoint}
    (hmem : other ∈ (registry.insert endpoint).items) :
    other = endpoint ∨ other = Endpoint.companionAt endpoint.path ∨ other ∈ registry.items := by
  unfold insert at hmem
  split at hmem
  · exact (Keyed.eq_or_mem_of_mem_put hmem).imp_right Or.inr
  · rcases Keyed.eq_or_mem_of_mem_putNew hmem with rfl | hmem
    · exact Or.inr (Or.inl rfl)
    · exact (Keyed.eq_or_mem_of_mem_put hmem).imp_right Or.inr

theorem insertAll_cons (registry : Registry) (endpoint : Endpoint) (endpoints : List Endpoint) :
    registry.insertAll (endpoint :: endpoints) =
      (registry.insert endpoint).insertAll endpoints := rfl

theorem insertAll_append (registry : Registry) (first second : List Endpoint) :
    registry.insertAll (first ++ second) = (registry.insertAll first).insertAll second :=
  List.foldl_append

theorem mem_insertAll_of_ne {endpoints : List Endpoint} {other : Endpoint}
    (hmem : other ∈ registry.items) (hne : ∀ endpoint ∈ endpoints, other.key ≠ endpoint.key) :
    other ∈ (registry.insertAll endpoints).items := by
  induction endpoints generalizing registry with
  | nil => exact hmem
  | cons endpoint endpoints ih =>
    refine ih (mem_insert_of_ne hmem (hne endpoint (List.mem_cons_self ..))) ?_
    intro later hlater
    exact hne later (List.mem_cons_of_mem _ hlater)

theorem mem_insertAll {endpoints : List Endpoint} (registry : Registry)
    (hdistinct : (endpoints.map Endpoint.key).Nodup) (hmem : endpoint ∈ endpoints) :
    endpoint ∈ (registry.insertAll endpoints).items := by
  obtain ⟨before, after, rfl⟩ := List.append_of_mem hmem
  rw [List.map_append, List.map_cons] at hdistinct
  have hfresh := (List.nodup_cons.1 hdistinct.of_append_right).1
  rw [insertAll_append, insertAll_cons]
  refine mem_insertAll_of_ne (mem_insert_self ..) ?_
  intro later hlater hkey
  exact hfresh (hkey ▸ List.mem_map_of_mem hlater)

/-- Only registered endpoints and companions are added. -/
theorem mem_or_companion_of_mem_insertAll {endpoints : List Endpoint} {other : Endpoint}
    (hmem : other ∈ (registry.insertAll endpoints).items) :
    other ∈ registry.items ∨ other ∈ endpoints ∨ ∃ path, other = Endpoint.companionAt path := by
  induction endpoints generalizing registry with
  | nil => exact Or.inl hmem
  | cons endpoint endpoints ih =>
    rcases ih hmem with hmem | hlater | hcompanion
    · rcases eq_or_mem_of_mem_insert hmem with rfl | rfl | hmem
      · exact Or.inr (Or.inl (List.mem_cons_self ..))
      · exact Or.inr (Or.inr ⟨_, rfl⟩)
      · exact Or.inl hmem
    · exact Or.inr (Or.inl (List.mem_cons_of_mem _ hlater))
    · exact Or.inr (Or.inr hcompanion)

end ApiManual.Registry
