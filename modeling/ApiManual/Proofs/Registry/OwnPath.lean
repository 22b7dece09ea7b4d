import ApiManual.Proofs.Registry.Arrangement
import ApiManual.Proofs.Registry.Reading
import ApiManual.Proofs.Registry.Routing
import ApiManual.Proofs.Text.LetterCase
import ApiManual.Proofs.Text.Marker

/-!
# Requests for an endpoint's own path

Routing takes one slash off the end of the path that is asked for, and leaves the paths of the
endpoints as they are. So an endpoint with a slash at the end of its path has one segment more than a
request for that very path, and cannot take it. Every other endpoint takes the request, unless one
that stands before it does.
-/

namespace ApiManual

namespace Endpoint

/-- The method is in small letters, as in every endpoint that is made of a path and a method or is
read. -/
def Lowered (endpoint : Endpoint) : Prop :=
  lowercase endpoint.method = endpoint.method

theorem lowered_bare (path method : String) : (bare path method).Lowered :=
  lowercase_lowercase method

theorem lowered_companionAt (path : String) : (companionAt path).Lowered :=
  lowered_bare path optionsMethod

theorem lowered_of_ofJson? {json : Json} {endpoint : Endpoint}
    (hread : ofJson? json = some endpoint) : endpoint.Lowered := by
  -- The method is the second member that is read, and nine are read after it.
  iterate 2 obtain ⟨_, _, hread⟩ := Option.bind_eq_some_iff.1 hread
  obtain ⟨method, _, hread⟩ := Option.bind_eq_some_iff.1 hread
  iterate 9 obtain ⟨_, _, hread⟩ := Option.bind_eq_some_iff.1 hread
  obtain rfl := Option.some.inj hread
  exact lowercase_lowercase method

end Endpoint

namespace Registry

open Endpoint Text

variable {registry : Registry} {endpoint : Endpoint}

/-- A registry that is made by registering endpoints, alone or together, or by reading. -/
inductive Built : Registry → Prop where
  | empty : Built .empty
  | insert {registry : Registry} {endpoint : Endpoint} (hbuilt : Built registry)
      (hlowered : endpoint.Lowered) : Built (registry.insert endpoint)
  | insertAll {registry : Registry} {endpoints : List Endpoint} (hbuilt : Built registry)
      (hlowered : ∀ endpoint ∈ endpoints, endpoint.Lowered) : Built (registry.insertAll endpoints)
  | ofJson {json : Json} {registry : Registry} (hread : ofJson json = .ok registry) :
      Built registry

theorem lowered_of_mem_insertAll {endpoints : List Endpoint}
    (hregistry : ∀ item ∈ registry.items, item.Lowered)
    (hlowered : ∀ endpoint ∈ endpoints, endpoint.Lowered)
    (hmem : endpoint ∈ (registry.insertAll endpoints).items) : endpoint.Lowered := by
  rcases mem_or_companion_of_mem_insertAll hmem with hmem | hmem | ⟨path, rfl⟩
  · exact hregistry endpoint hmem
  · exact hlowered endpoint hmem
  · exact lowered_companionAt path

theorem Built.lowered (hbuilt : registry.Built) :
    ∀ endpoint ∈ registry.items, endpoint.Lowered := by
  induction hbuilt with
  | empty =>
    intro endpoint hmem
    cases hmem
  | @insert registry endpoint _ hlowered ih =>
    intro item hmem
    have hsingle : item ∈ (registry.insertAll [endpoint]).items := hmem
    exact lowered_of_mem_insertAll ih (by simpa using hlowered) hsingle
  | insertAll _ hlowered ih => exact fun item hmem => lowered_of_mem_insertAll ih hlowered hmem
  | ofJson hread =>
    obtain ⟨endpoints, rfl, hendpoints⟩ := exists_of_ofJson hread
    refine fun item hmem => lowered_of_mem_insertAll ?_ (fun endpoint hendpoint => ?_) hmem
    · intro item hmem
      cases hmem
    · obtain ⟨item, -, hitem⟩ := hendpoints endpoint hendpoint
      exact lowered_of_ofJson? (ofJson?_of_endpointOfJson hitem)

/-! ### Segments -/

theorem fitsSegments_self (segments : List (List Char)) : fitsSegments segments segments = true := by
  induction segments with
  | nil => rfl
  | cons segment segments ih => simp [fitsSegments, ih]

/-- A slash at the end opens one more segment, unless it is the only character. -/
theorem segments_append_slash {path : List Char} (hpath : path ≠ []) :
    segments (path ++ ['/']) = segments path ++ [[]] := by
  have hrest : ∀ rest : List Char, (rest ++ ['/']).splitOn '/' = rest.splitOn '/' ++ [[]] :=
    fun rest => List.splitOn_append_cons_self rest []
  cases path with
  | nil => exact absurd rfl hpath
  | cons c rest =>
    by_cases hslash : c = '/'
    · subst hslash
      have hstrip : ∀ text : List Char, stripStart? ['/'] ('/' :: text) = some text := by
        intro text
        exact stripStart?_eq_some_iff.2 rfl
      rw [List.cons_append, segments, segments, hstrip, hstrip, Option.getD_some, Option.getD_some,
        hrest]
    · have hstrip : ∀ text : List Char, stripStart? ['/'] (c :: text) = none := by
        intro text
        rw [stripStart?_cons_cons, if_neg (Ne.symm hslash)]
      rw [List.cons_append, segments, segments, hstrip, hstrip, Option.getD_none, Option.getD_none,
        ← List.cons_append, hrest]

/-- The path ends in a slash and has something before it. -/
def EndsInSlash (path : String) : Prop :=
  path.toList ≠ ['/'] ∧ path.toList.getLast? = some '/'

instance (path : String) : Decidable (EndsInSlash path) := inferInstanceAs (Decidable (_ ∧ _))

theorem endsInSlash_iff {path : String} :
    EndsInSlash path ↔ ∃ front : List Char, front ≠ [] ∧ path.toList = front ++ ['/'] := by
  constructor
  · rintro ⟨hne, hlast⟩
    obtain ⟨front, hfront⟩ := List.getLast?_eq_some_iff.1 hlast
    refine ⟨front, ?_, hfront⟩
    rintro rfl
    exact hne hfront
  · rintro ⟨front, hne, hfront⟩
    refine ⟨?_, by rw [hfront, List.getLast?_concat]⟩
    rw [hfront]
    intro heq
    exact hne (List.append_left_eq_self.1 heq)

theorem withoutFinalSlash_of_endsInSlash {path : String} (hends : EndsInSlash path) :
    withoutFinalSlash path.toList = path.toList.dropLast := by
  rw [withoutFinalSlash, if_neg hends.1, stripEnd, if_pos hends.2]

theorem withoutFinalSlash_eq_self {path : String} (hends : ¬ EndsInSlash path) :
    withoutFinalSlash path.toList = path.toList := by
  unfold withoutFinalSlash stripEnd
  split
  · rfl
  · next hne => exact if_neg fun hlast => hends ⟨hne, hlast⟩

/-! ### Routing -/

/-- A request for the endpoint's path and method is routed to an endpoint with the same method and a
template that the path fits segment by segment. -/
def ReachedByOwnPath (registry : Registry) (endpoint : Endpoint) : Prop :=
  ∃ found ∈ registry.items, registry.route? endpoint.path endpoint.method = some found ∧
    found.method = endpoint.method ∧
    fitsSegments (segments found.path.toList) (segments endpoint.path.toList) = true

theorem reachedByOwnPath_iff (hmem : endpoint ∈ registry.items) :
    registry.ReachedByOwnPath endpoint ↔ endpoint.Lowered ∧ ¬ EndsInSlash endpoint.path := by
  constructor
  · rintro ⟨found, -, hroute, hmethod, hsegments⟩
    obtain ⟨-, hlower, hfits⟩ := of_route?_eq_some hroute
    refine ⟨hlower.symm.trans hmethod, ?_⟩
    intro hends
    obtain ⟨front, hfront, hpath⟩ := endsInSlash_iff.1 hends
    rw [fits, withoutFinalSlash_of_endsInSlash hends, hpath, List.dropLast_concat] at hfits
    rw [hpath, segments_append_slash hfront] at hsegments
    have hlength := (fitsSegments_iff.1 hfits).1
    have hlonger := (fitsSegments_iff.1 hsegments).1
    rw [List.length_append, List.length_singleton] at hlonger
    omega
  · rintro ⟨hlowered, hends⟩
    have hself : fits endpoint.path endpoint.path = true := by
      rw [fits, withoutFinalSlash_eq_self hends]
      exact fitsSegments_self _
    have hsome : registry.route? endpoint.path endpoint.method ≠ none := by
      intro hnone
      have hnot := route?_eq_none_iff.1 hnone endpoint hmem (Eq.symm hlowered)
      rw [hself] at hnot
      cases hnot
    obtain ⟨found, hroute⟩ := Option.ne_none_iff_exists'.1 hsome
    obtain ⟨hfound, hmethod, hfits⟩ := of_route?_eq_some hroute
    rw [fits, withoutFinalSlash_eq_self hends] at hfits
    exact ⟨found, hfound, hroute, hmethod.trans hlowered, hfits⟩

/-- **When an endpoint is reached by its own path.** A request for the path and method of an endpoint
is routed to an endpoint with that method and a template that the path fits segment by segment,
exactly when the method is in small letters, as in every registry that is built, and the path does
not end in a slash. If it does, the request is routed to nothing unless the path without the slash
fits the template of another endpoint. -/
theorem own_path_reached_iff (hmem : endpoint ∈ registry.items) :
    (registry.ReachedByOwnPath endpoint ↔ endpoint.Lowered ∧ ¬ EndsInSlash endpoint.path) ∧
      (registry.Built → endpoint.Lowered) ∧
      (EndsInSlash endpoint.path →
        (registry.route? endpoint.path endpoint.method = none ↔
          ∀ other ∈ registry.items, other.method = lowercase endpoint.method →
            fitsSegments (segments other.path.toList) (segments endpoint.path.toList.dropLast) =
              false)) := by
  refine ⟨reachedByOwnPath_iff hmem, fun hbuilt => hbuilt.lowered endpoint hmem, ?_⟩
  intro hends
  rw [route?_eq_none_iff]
  simp only [fits, withoutFinalSlash_of_endsInSlash hends]

/-- A template that takes the request for the path after it, and one that ends in a slash. -/
def userRoutes : Registry :=
  insertAll .empty [bare "/user/:id" "get", bare "/user/me" "get", bare "/user/" "get"]

theorem built_userRoutes : userRoutes.Built := by
  refine .insertAll .empty ?_
  rw [List.forall_mem_cons, List.forall_mem_cons, List.forall_mem_singleton]
  exact ⟨lowered_bare _ _, lowered_bare _ _, lowered_bare _ _⟩

theorem reached_userRoutes :
    bare "/user/me" "get" ∈ userRoutes.items ∧
      userRoutes.ReachedByOwnPath (bare "/user/me" "get") := by
  have hmem : bare "/user/me" "get" ∈ userRoutes.items :=
    mem_insertAll .empty (by decide) (by simp)
  obtain ⟨hreached, hlowered, -⟩ := own_path_reached_iff hmem
  exact ⟨hmem, hreached.2 ⟨hlowered built_userRoutes, by decide⟩⟩

theorem unreached_userRoutes :
    userRoutes.Built ∧ bare "/user/" "get" ∈ userRoutes.items ∧
      userRoutes.route? "/user/" "get" = none := by
  have hnone : (userRoutes.route? "/user/" "get").isNone = true := by decide
  exact ⟨built_userRoutes, mem_insertAll .empty (by decide) (by simp),
    Option.isNone_iff_eq_none.1 hnone⟩

end Registry

end ApiManual
