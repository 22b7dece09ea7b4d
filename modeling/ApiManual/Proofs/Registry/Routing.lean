import ApiManual.Proofs.Keyed
import ApiManual.Registry
import Mathlib.Data.List.Find

/-!
# The first endpoint that takes a request

Routing goes down the path and drops candidates. It looks at a template only at the depth that it has
reached, so what is left after some segments are the candidates that agree with the path up to there,
in the order of the registry. All candidates have as many segments as the path, which is why no look
goes past the end of a template, and why those that are left at the end agree with the whole path.
What routing finds is therefore what a search through the registry finds that compares whole
templates.
-/

namespace ApiManual.Registry

open Endpoint Text

variable {registry : Registry}

/-! ### Templates as a whole -/

def fitsSegments : List (List Char) → List (List Char) → Bool
  | [], [] => true
  | given :: template, wanted :: path =>
    (given == wanted || isPlaceholder given) && fitsSegments template path
  | _, _ => false

/-- The path fits the template. -/
def fits (template path : String) : Bool :=
  fitsSegments (segments template.toList) (segments (withoutFinalSlash path.toList))

/-- The request is one for the endpoint. -/
def isFor (path method : String) (endpoint : Endpoint) : Bool :=
  endpoint.method == lowercase method && fits endpoint.path path

theorem fitsSegments_iff {template path : List (List Char)} :
    fitsSegments template path = true ↔
      template.length = path.length ∧
        ∀ (depth : Nat) (given wanted : List Char), template[depth]? = some given →
          path[depth]? = some wanted → given = wanted ∨ isPlaceholder given = true := by
  induction template generalizing path with
  | nil => cases path <;> simp [fitsSegments]
  | cons first template ih =>
    cases path with
    | nil => simp [fitsSegments]
    | cons asked path =>
      rw [fitsSegments, Bool.and_eq_true, ih, List.length_cons, List.length_cons, Nat.succ_inj]
      constructor
      · rintro ⟨hfirst, hlength, hrest⟩
        refine ⟨hlength, fun depth given wanted hgiven hwanted => ?_⟩
        cases depth with
        | zero =>
          obtain rfl := Option.some.inj hgiven
          obtain rfl := Option.some.inj hwanted
          simpa using hfirst
        | succ depth => exact hrest depth given wanted hgiven hwanted
      · rintro ⟨hlength, hall⟩
        refine ⟨by simpa using hall 0 first asked rfl rfl, hlength, ?_⟩
        exact fun depth given wanted hgiven hwanted => hall (depth + 1) given wanted hgiven hwanted

theorem fitsSegments_and_length (template path : List (List Char)) :
    (fitsSegments template path && template.length == path.length) =
      fitsSegments template path := by
  cases hfits : fitsSegments template path with
  | false => rfl
  | true => rw [(fitsSegments_iff.1 hfits).1, beq_self_eq_true, Bool.and_self]

/-! ### Narrowing -/

/-- One segment is looked at, and the others are left for later. -/
theorem fitsSegments_drop_cons {candidate : Candidate} {depth : Nat} (wanted : List Char)
    (path : List (List Char)) (hdepth : depth < candidate.template.length) :
    fitsSegments (candidate.template.drop depth) (wanted :: path) =
      (candidate.takes depth wanted && fitsSegments (candidate.template.drop (depth + 1)) path) := by
  rw [List.drop_eq_getElem_cons hdepth, fitsSegments, Candidate.takes,
    List.getElem?_eq_getElem hdepth, Option.any_some]

/-- What is left of the candidates are those that agree with the path from the depth on. -/
theorem narrow_eq_filter (path : List (List Char)) (depth : Nat) {candidates : List Candidate}
    (hlength : ∀ candidate ∈ candidates, candidate.template.length = depth + path.length) :
    narrow depth candidates path =
      candidates.filter fun candidate => fitsSegments (candidate.template.drop depth) path := by
  induction path generalizing depth candidates with
  | nil =>
    have hall : candidates.filter (fun candidate =>
        fitsSegments (candidate.template.drop depth) []) = candidates := by
      refine List.filter_eq_self.2 fun candidate hmem => ?_
      have hend : candidate.template.length ≤ depth := Nat.le_of_eq (hlength candidate hmem)
      rw [List.drop_eq_nil_of_le hend, fitsSegments]
    rw [hall]
    cases candidates <;> rfl
  | cons wanted path ih =>
    have hshorter : ∀ candidate ∈ candidates.filter (·.takes depth wanted),
        candidate.template.length = depth + 1 + path.length := by
      intro candidate hmem
      rw [hlength candidate (List.mem_of_mem_filter hmem), List.length_cons]
      omega
    calc narrow depth candidates (wanted :: path)
        = narrow (depth + 1) (candidates.filter (·.takes depth wanted)) path := by
          cases candidates with
          | nil => cases path <;> rfl
          | cons => rfl
      _ = candidates.filter fun candidate => candidate.takes depth wanted &&
            fitsSegments (candidate.template.drop (depth + 1)) path := by
          rw [ih (depth + 1) hshorter, List.filter_filter]
          simp only [Bool.and_comm]
      _ = candidates.filter fun candidate =>
            fitsSegments (candidate.template.drop depth) (wanted :: path) := by
          refine List.filter_congr fun candidate hmem => ?_
          refine (fitsSegments_drop_cons wanted path ?_).symm
          rw [hlength candidate hmem, List.length_cons]
          omega

theorem length_of_mem_candidates {path : List (List Char)} {method : String} {candidate : Candidate}
    (hmem : candidate ∈ registry.candidates path method) :
    candidate.template.length = path.length :=
  beq_iff_eq.1 (List.mem_filter.1 hmem).2

/-- The candidates that agree with the whole path come from the endpoints that the request is for. -/
theorem narrow_candidates (path method : String) :
    narrow 0 (registry.candidates (segments (withoutFinalSlash path.toList)) (lowercase method))
        (segments (withoutFinalSlash path.toList)) =
      (registry.items.zipIdx.filter fun (endpoint, _) => isFor path method endpoint).map
        fun (endpoint, index) => ⟨index, segments endpoint.path.toList⟩ := by
  have hlength : ∀ candidate ∈ registry.candidates (segments (withoutFinalSlash path.toList))
      (lowercase method), candidate.template.length =
        0 + (segments (withoutFinalSlash path.toList)).length := by
    intro candidate hmem
    rw [length_of_mem_candidates hmem, Nat.zero_add]
  rw [narrow_eq_filter _ 0 hlength, candidates, List.filter_filter, List.filter_map,
    List.filter_filter]
  refine congrArg _ (List.filter_congr fun ⟨endpoint, index⟩ _ => ?_)
  let template := segments endpoint.path.toList
  let wanted := segments (withoutFinalSlash path.toList)
  calc (fitsSegments template wanted && template.length == wanted.length &&
        endpoint.method == lowercase method)
      = (fitsSegments template wanted && endpoint.method == lowercase method) := by
        rw [fitsSegments_and_length]
    _ = isFor path method endpoint := Bool.and_comm ..

/-- **Narrowing finds the first** of the endpoints that the request is for. -/
theorem position?_eq_findIdx? (path method : String) :
    registry.position? path method = registry.items.findIdx? (isFor path method) := by
  rw [position?, narrow_candidates, List.head?_map, List.head?_filter, Option.map_map,
    List.findIdx?_eq_fst_find?_zipIdx]
  rfl

theorem route?_eq_find? (path method : String) :
    registry.route? path method = registry.items.find? (isFor path method) := by
  rw [route?, position?_eq_findIdx?, List.find?_eq_bind_findIdx?_getElem?]

theorem isFor_iff {path method : String} {endpoint : Endpoint} :
    isFor path method endpoint = true ↔
      endpoint.method = lowercase method ∧ fits endpoint.path path = true := by
  rw [isFor, Bool.and_eq_true, beq_iff_eq]

theorem route?_eq_none_iff {path method : String} :
    registry.route? path method = none ↔
      ∀ other ∈ registry.items, other.method = lowercase method → fits other.path path = false := by
  simp [route?_eq_find?, isFor]

theorem of_route?_eq_some {path method : String} {found : Endpoint}
    (hroute : registry.route? path method = some found) :
    found ∈ registry.items ∧ found.method = lowercase method ∧ fits found.path path = true := by
  rw [route?_eq_find?] at hroute
  exact ⟨List.mem_of_find?_eq_some hroute, isFor_iff.1 (List.find?_some hroute)⟩

/-- Routing looks at paths and methods alone. -/
theorem route?_eq_map {other : Registry} {change : Endpoint → Endpoint}
    (hitems : other.items = registry.items.map change)
    (hpath : ∀ endpoint ∈ registry.items, (change endpoint).path = endpoint.path)
    (hmethod : ∀ endpoint ∈ registry.items, (change endpoint).method = endpoint.method)
    (path method : String) :
    other.route? path method = (registry.route? path method).map change := by
  rw [route?_eq_find?, hitems, List.find?_map, route?_eq_find?]
  congr 1
  refine List.find?_congr fun endpoint hmem => ?_
  simp only [Function.comp_def, isFor, hpath endpoint hmem, hmethod endpoint hmem]

/-! ### The endpoint that is found -/

/-- A placeholder is written with a colon before its name or with braces around it. -/
def Placeholder (segment : List Char) : Prop :=
  (∃ name, segment = ':' :: name) ∨ ∃ name, segment = '{' :: (name ++ ['}'])

theorem isPlaceholder_iff {segment : List Char} :
    isPlaceholder segment = true ↔ Placeholder segment := by
  rw [isPlaceholder, Bool.or_eq_true, Bool.and_eq_true, beq_iff_eq, beq_iff_eq, beq_iff_eq,
    List.head?_eq_some_iff, List.head?_eq_some_iff, Placeholder]
  refine or_congr_right ⟨?_, ?_⟩
  · rintro ⟨⟨rest, rfl⟩, hlast⟩
    obtain ⟨front, hfront⟩ := List.getLast?_eq_some_iff.1 hlast
    cases front with
    | nil => simp at hfront
    | cons c name =>
      obtain ⟨-, rfl⟩ := List.cons.inj hfront
      exact ⟨name, rfl⟩
  · rintro ⟨name, rfl⟩
    exact ⟨⟨name ++ ['}'], rfl⟩, by rw [← List.cons_append, List.getLast?_concat]⟩

/-- The endpoint takes the request. Its method is that of the request in small letters, and its path
has as many segments as that of the request without a slash at the end, each of them the same or a
placeholder. -/
structure Takes (path method : String) (endpoint : Endpoint) : Prop where
  method : endpoint.method = lowercase method
  length : (segments endpoint.path.toList).length =
    (segments (withoutFinalSlash path.toList)).length
  segment : ∀ (depth : Nat) (given wanted : List Char),
    (segments endpoint.path.toList)[depth]? = some given →
      (segments (withoutFinalSlash path.toList))[depth]? = some wanted →
        given = wanted ∨ Placeholder given

theorem isFor_iff_takes {path method : String} {endpoint : Endpoint} :
    isFor path method endpoint = true ↔ Takes path method endpoint := by
  rw [isFor_iff, fits, fitsSegments_iff]
  simp only [isPlaceholder_iff]
  exact ⟨fun ⟨hmethod, hlength, hsegment⟩ => ⟨hmethod, hlength, hsegment⟩,
    fun ⟨hmethod, hlength, hsegment⟩ => ⟨hmethod, hlength, hsegment⟩⟩

/-- The endpoint stands at the index and takes the request, and none before it does. -/
structure FirstAt (registry : Registry) (path method : String) (index : Nat) (endpoint : Endpoint) :
    Prop where
  stands : registry.items[index]? = some endpoint
  takes : Takes path method endpoint
  first : ∀ earlier < index, ∀ other, registry.items[earlier]? = some other →
    ¬ Takes path method other

theorem position?_eq_some_iff {path method : String} {index : Nat} :
    registry.position? path method = some index ↔
      ∃ endpoint, registry.FirstAt path method index endpoint := by
  rw [position?_eq_findIdx?, List.findIdx?_eq_some_iff_getElem]
  constructor
  · rintro ⟨hindex, hfor, hbefore⟩
    refine ⟨registry.items[index], List.getElem?_eq_getElem hindex, isFor_iff_takes.1 hfor, ?_⟩
    intro earlier hearlier other hother
    obtain ⟨hbound, rfl⟩ := List.getElem?_eq_some_iff.1 hother
    exact mt isFor_iff_takes.2 (hbefore earlier hearlier)
  · rintro ⟨endpoint, hstands, htakes, hfirst⟩
    obtain ⟨hindex, rfl⟩ := List.getElem?_eq_some_iff.1 hstands
    refine ⟨hindex, isFor_iff_takes.2 htakes, fun earlier hearlier hfor => ?_⟩
    exact hfirst earlier hearlier _ (List.getElem?_eq_getElem _) (isFor_iff_takes.1 hfor)

theorem route?_eq_some_iff {path method : String} {found : Endpoint} :
    registry.route? path method = some found ↔
      ∃ index, registry.FirstAt path method index found := by
  rw [route?, Option.bind_eq_some_iff]
  refine exists_congr fun index => ?_
  rw [position?_eq_some_iff]
  constructor
  · rintro ⟨⟨endpoint, hfirst⟩, hstands⟩
    obtain rfl := Option.some.inj (hfirst.stands.symm.trans hstands)
    exact hfirst
  · exact fun hfirst => ⟨⟨found, hfirst⟩, hfirst.stands⟩

theorem route?_eq_none_iff_takes {path method : String} :
    registry.route? path method = none ↔
      ∀ endpoint ∈ registry.items, ¬ Takes path method endpoint := by
  rw [route?_eq_find?, List.find?_eq_none]
  exact forall₂_congr fun endpoint _ => not_congr isFor_iff_takes

/-! ### The endpoint that records -/

/-- Recording looks for the endpoint as routing does, and changes it where it stands. -/
theorem record?_eq_map (path method : String) (exchange : Exchange) :
    registry.record? path method exchange =
      (registry.route? path method).map fun endpoint =>
        registry.adjust endpoint.key (·.addExchange exchange) := by
  cases hposition : registry.position? path method with
  | none => rw [record?, route?, hposition, Option.map_none, Option.bind_none, Option.map_none]
  | some index =>
    obtain ⟨endpoint, hfirst⟩ := position?_eq_some_iff.1 hposition
    rw [record?, route?, hposition, Option.map_some, Option.bind_some, hfirst.stands,
      Option.map_some, Keyed.adjustAt_eq_adjust hfirst.stands]

theorem items_of_record? {path method : String} {exchange : Exchange} {changed : Registry}
    (hrecord : registry.record? path method exchange = some changed) :
    ∃ index found, registry.FirstAt path method index found ∧
      changed.items = registry.items.set index (found.addExchange exchange) := by
  obtain ⟨index, hposition, rfl⟩ := Option.map_eq_some_iff.1 hrecord
  obtain ⟨found, hfirst⟩ := position?_eq_some_iff.1 hposition
  refine ⟨index, found, hfirst, Keyed.items_adjustAt hfirst.stands ?_⟩
  rfl

/-- **Routing and recording find the first endpoint that takes the request.** Dropping candidates,
segment by segment, leads to the endpoint that stands first among those that take the request, and to
none exactly when none does. A recording goes to the same endpoint, and leaves all others as they
are. -/
theorem routes_to_first (registry : Registry) (path method : String) :
    (∀ found, registry.route? path method = some found ↔
      ∃ index, registry.FirstAt path method index found) ∧
    (registry.route? path method = none ↔
      ∀ endpoint ∈ registry.items, ¬ Takes path method endpoint) ∧
    ∀ exchange,
      (registry.record? path method exchange = none ↔ registry.route? path method = none) ∧
      ∀ changed, registry.record? path method exchange = some changed →
        ∃ index found, registry.FirstAt path method index found ∧
          changed.items = registry.items.set index (found.addExchange exchange) := by
  refine ⟨fun found => route?_eq_some_iff, route?_eq_none_iff_takes, fun exchange => ⟨?_, ?_⟩⟩
  · rw [record?_eq_map, Option.map_eq_none_iff]
  · exact fun changed hrecord => items_of_record? hrecord

/-- Two templates take the request for `/user/me`, and the one with the placeholder stands first. -/
def userTemplates : Registry :=
  insertAll .empty [bare "/user/:id/image" "get", bare "/user/:id" "get", bare "/user/me" "get"]

theorem routes_userTemplates :
    userTemplates.route? "/user/me/" "GET" = some (bare "/user/:id" "get") ∧
      ∃ index, userTemplates.FirstAt "/user/me/" "GET" index (bare "/user/:id" "get") := by
  have hroute : userTemplates.route? "/user/me/" "GET" = some (bare "/user/:id" "get") := rfl
  exact ⟨hroute, ((routes_to_first userTemplates "/user/me/" "GET").1 _).1 hroute⟩

end ApiManual.Registry
