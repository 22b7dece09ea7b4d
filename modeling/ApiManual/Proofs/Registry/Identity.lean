import ApiManual.Proofs.Registry.History

/-!
# Whether places identify endpoints

An endpoint is registered for its place, path and method, but stands under its key, which joins the
two by a hyphen. A place keeps its last endpoint as long as no endpoint for another place comes under
the same key, and then only. Two places share a key when the hyphen of the one key is a hyphen in the
method of the other, so methods without hyphens are safe.
-/

namespace ApiManual.Registry

open Endpoint

variable {registry : Registry} {endpoint : Endpoint} {endpoints : List Endpoint}

/-- The registry made by a history holds exactly one endpoint for a place, the last one that was
registered for it. -/
def HoldsLast (endpoints : List Endpoint) (place : String × String) : Prop :=
  ∃ last, endpoints.reverse.find? (·.place = place) = some last ∧
    (insertAll .empty endpoints).items.filter (·.place = place) = [last]

/-- Between the last endpoint with a key and the end of the history there is none with that key, so
none for a place with that key. -/
theorem find?_place_of_find?_key {last : Endpoint}
    (hlast : endpoints.reverse.find? (·.key = endpoint.key) = some last)
    (hplace : last.place = endpoint.place) :
    endpoints.reverse.find? (·.place = endpoint.place) = some last := by
  obtain ⟨-, later, earlier, hreverse, hnone⟩ := List.find?_eq_some_iff_append.1 hlast
  refine List.find?_eq_some_iff_append.2 ⟨decide_eq_true hplace, later, earlier, hreverse, ?_⟩
  intro other hother
  have hkey : other.key ≠ endpoint.key := by simpa using hnone other hother
  simpa using fun hsame => hkey (key_eq_of_place_eq hsame)

theorem holdsLast_iff (hmem : endpoint ∈ endpoints) :
    HoldsLast endpoints endpoint.place ↔
      ∀ last, endpoints.reverse.find? (·.key = endpoint.key) = some last →
        last.place = endpoint.place := by
  obtain ⟨last, hlast⟩ := find?_reverse_isSome (p := (·.key = endpoint.key)) hmem
    (decide_eq_true rfl)
  have hfound : (insertAll .empty endpoints).find? endpoint.key = some last := by
    rw [find?_insertAll, hlast, Option.some_or]
  obtain ⟨hitem, hkey⟩ := Keyed.find?_eq_some_iff.1 hfound
  constructor
  · rintro ⟨held, -, hfilter⟩ other hother
    cases hlast.symm.trans hother
    obtain ⟨hheld, hplace⟩ := mem_of_filter_place_eq hfilter
    have hsame := key_eq_of_place_eq hplace
    rw [← Keyed.eq_of_key_eq hheld hitem (hsame.trans hkey.symm)]
    exact hplace
  · intro hplaces
    have hplace := hplaces last hlast
    refine ⟨last, find?_place_of_find?_key hlast hplace, ?_⟩
    rw [← hplace]
    exact filter_place_eq hitem

/-- Methods without hyphens are safe. -/
theorem holdsLast_of_plain (hplain : ∀ endpoint ∈ endpoints, endpoint.Plain)
    (hmem : endpoint ∈ endpoints) : HoldsLast endpoints endpoint.place := by
  refine (holdsLast_iff hmem).2 fun last hlast => ?_
  have hkey : last.key = endpoint.key := by simpa using List.find?_some hlast
  have hregistered := mem_of_find?_reverse hlast
  exact ((hplain last hregistered).place_eq_iff (hplain endpoint hmem)).2 hkey

theorem mem_insert_iff {old : Endpoint} (hold : old ∈ registry.items)
    (hplace : endpoint.place ≠ old.place) :
    old ∈ (registry.insert endpoint).items ↔ endpoint.key ≠ old.key := by
  constructor
  · intro hmem hkey
    have heq := Keyed.eq_of_key_eq (mem_insert_self registry endpoint) hmem hkey
    exact hplace (congrArg place heq)
  · intro hkey
    exact mem_insert_of_ne hold (Ne.symm hkey)

/-- **When places identify endpoints.** The registry holds for a place exactly the last endpoint that
was registered for it, if and only if the last one with its key is one for the place. An endpoint
leaves the one for another place alone if and only if their keys differ. And the keys of two places
are the same exactly when one overlaps the other, which takes a hyphen in a method. -/
theorem place_identifies_iff (endpoints : List Endpoint) :
    (∀ endpoint ∈ endpoints, HoldsLast endpoints endpoint.place ↔
      ∀ last, endpoints.reverse.find? (·.key = endpoint.key) = some last →
        last.place = endpoint.place) ∧
    (∀ registry : Registry, ∀ old ∈ registry.items, ∀ endpoint : Endpoint,
      endpoint.place ≠ old.place →
        (old ∈ (registry.insert endpoint).items ↔ endpoint.key ≠ old.key)) ∧
    (∀ a b : Endpoint, a.place ≠ b.place → (a.key = b.key ↔ a.Overlaps b ∨ b.Overlaps a)) ∧
    ((∀ endpoint ∈ endpoints, endpoint.Plain) →
      ∀ endpoint ∈ endpoints, HoldsLast endpoints endpoint.place) := by
  refine ⟨fun endpoint hmem => holdsLast_iff hmem,
    fun registry old hold endpoint hplace => mem_insert_iff hold hplace, fun a b hplace => ?_,
    fun hplain endpoint hmem => holdsLast_of_plain hplain hmem⟩
  have hne : ¬ (a.path = b.path ∧ a.method = b.method) := fun hsame =>
    hplace (Prod.ext hsame.1 hsame.2)
  rw [key_eq_iff, or_iff_right hne]

/-- Two places with one key. -/
def searchHistory : List Endpoint := [bare "/photo-m" "search", bare "/photo" "m-search"]

theorem find?_key_searchHistory {endpoint : Endpoint} (hmem : endpoint ∈ searchHistory) :
    searchHistory.reverse.find? (·.key = endpoint.key) = some (bare "/photo" "m-search") := by
  have hkey : ∀ other ∈ searchHistory, other.key = "/photo-m-search" := by
    rw [searchHistory, List.forall_mem_cons, List.forall_mem_singleton]
    exact ⟨by decide, by decide⟩
  have hsecond : bare "/photo" "m-search" ∈ searchHistory := by simp [searchHistory]
  change [bare "/photo" "m-search", bare "/photo-m" "search"].find? _ = _
  exact List.find?_cons_of_pos (decide_eq_true ((hkey _ hsecond).trans (hkey _ hmem).symm))

/-- The endpoint that comes second is held, and takes the first one away. -/
theorem holdsLast_searchHistory :
    HoldsLast searchHistory ("/photo", "m-search") ∧
      bare "/photo-m" "search" ∉
        (insert (insert .empty (bare "/photo-m" "search")) (bare "/photo" "m-search")).items := by
  obtain ⟨hholds, hkept, -⟩ := place_identifies_iff searchHistory
  have hsecond : bare "/photo" "m-search" ∈ searchHistory := by simp [searchHistory]
  constructor
  · refine (hholds _ hsecond).2 fun last hlast => ?_
    cases (find?_key_searchHistory hsecond).symm.trans hlast
    rfl
  · intro hmem
    have hfirst := mem_insert_self .empty (bare "/photo-m" "search")
    have hne := (hkept _ _ hfirst (bare "/photo" "m-search") (by decide)).1 hmem
    exact hne (by decide)

theorem not_holdsLast_searchHistory :
    bare "/photo-m" "search" ∈ searchHistory ∧
      ¬ HoldsLast searchHistory (bare "/photo-m" "search").place := by
  have hfirst : bare "/photo-m" "search" ∈ searchHistory := by simp [searchHistory]
  refine ⟨hfirst, fun hheld => ?_⟩
  have hplace := (holdsLast_iff hfirst).1 hheld _ (find?_key_searchHistory hfirst)
  exact absurd hplace (by decide)

end ApiManual.Registry
