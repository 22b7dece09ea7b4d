import ApiManual.Proofs.Registry.Identity

/-!
# Companions after a whole history

However the registrations of a path follow each other, the path ends with one endpoint for `options`:
the last one that was documented, or a companion if none was. A companion stands where it was made,
right behind the endpoint for the place of the first registration that asked for it. Later
registrations put other endpoints into the places before it and append behind it, and nothing comes
between.

Methods have no hyphens here, so places identify endpoints.
-/

namespace ApiManual.Registry

open Endpoint

variable {registry : Registry} {endpoint : Endpoint} {endpoints : List Endpoint}

/-! ### The endpoint for `options` -/

/-- After a history, the path has one endpoint for `options`. It is an empty companion when none was
registered for that place, and the last one registered otherwise. -/
structure AnswersOptions (endpoints : List Endpoint) (path : String) (entry : Endpoint) : Prop where
  only : (insertAll .empty endpoints).items.filter (·.place = (path, optionsMethod)) = [entry]
  companion_iff : entry.companion = true ↔
    ∀ endpoint ∈ endpoints, endpoint.place ≠ (path, optionsMethod)
  empty : entry.companion = true → entry.allParams = [] ∧ entry.exchanges = []
  last : ∀ last, endpoints.reverse.find? (·.place = (path, optionsMethod)) = some last →
    entry = last

theorem exists_answersOptions (hplain : ∀ endpoint ∈ endpoints, endpoint.Plain)
    (hdocumented : ∀ endpoint ∈ endpoints, endpoint.companion = false)
    (hmem : endpoint ∈ endpoints) : ∃ entry, AnswersOptions endpoints endpoint.path entry := by
  by_cases hexplicit : ∃ other ∈ endpoints, other.place = (endpoint.path, optionsMethod)
  · obtain ⟨other, hother, hplace⟩ := hexplicit
    obtain ⟨last, hlast, hfilter⟩ := holdsLast_of_plain hplain hother
    rw [hplace] at hlast hfilter
    have hunflagged := hdocumented last (mem_of_find?_reverse hlast)
    refine ⟨last, hfilter, ?_, ?_, ?_⟩
    · rw [hunflagged]
      exact iff_of_false Bool.false_ne_true fun hnone => hnone other hother hplace
    · rw [hunflagged]
      intro hcompanion
      cases hcompanion
    · intro found hfound
      exact Option.some.inj (hlast.symm.trans hfound)
  · rw [not_exists] at hexplicit
    have hnone : ∀ other ∈ endpoints, other.place ≠ (endpoint.path, optionsMethod) :=
      fun other hother hplace => hexplicit other ⟨hother, hplace⟩
    obtain ⟨entry, hentry, hkey⟩ := Keyed.mem_keys_iff.1 (partnerKey_mem_insertAll hmem)
    have hplace : entry.place = (endpoint.path, optionsMethod) := by
      rw [← place_companionAt]
      exact ((plain_of_mem_insertAll hplain hentry).place_eq_iff (plain_companionAt _)).2 hkey
    -- Whatever is not registered is a companion.
    have hcompanion : entry = companionAt endpoint.path := by
      rcases mem_or_companion_of_mem_insertAll hentry with hempty | hregistered | ⟨path, rfl⟩
      · cases hempty
      · exact absurd hplace (hnone entry hregistered)
      · exact congrArg companionAt (Prod.mk.inj hplace).1
    refine ⟨entry, ?_, ?_, ?_, ?_⟩
    · rw [← hplace]
      exact filter_place_eq hentry
    · rw [hcompanion]
      exact iff_of_true rfl hnone
    · rw [hcompanion]
      exact fun _ => ⟨rfl, rfl⟩
    · intro last hlast
      have hregistered := mem_of_find?_reverse hlast
      exact absurd (by simpa using List.find?_some hlast) (hnone last hregistered)

/-! ### The documented endpoints -/

theorem nodup_place_documented (registry : Registry) :
    (registry.documented.map place).Nodup :=
  (nodup_place registry).sublist (List.filter_sublist.map place)

theorem mem_place_documented_iff (hplain : ∀ endpoint ∈ endpoints, endpoint.Plain)
    (hdocumented : ∀ endpoint ∈ endpoints, endpoint.companion = false) (place : String × String) :
    place ∈ (documented (insertAll .empty endpoints)).map Endpoint.place ↔
      place ∈ endpoints.map Endpoint.place := by
  constructor
  · intro hmem
    obtain ⟨entry, hentry, rfl⟩ := List.mem_map.1 hmem
    obtain ⟨hitem, hunflagged⟩ := List.mem_filter.1 hentry
    rcases mem_or_companion_of_mem_insertAll hitem with hempty | hmem | ⟨path, rfl⟩
    · cases hempty
    · exact List.mem_map_of_mem hmem
    · cases hunflagged
  · intro hmem
    obtain ⟨endpoint, hendpoint, rfl⟩ := List.mem_map.1 hmem
    obtain ⟨last, hlast, hfilter⟩ := holdsLast_of_plain hplain hendpoint
    obtain ⟨hitem, hplace⟩ := mem_of_filter_place_eq hfilter
    have hunflagged := hdocumented last (mem_of_find?_reverse hlast)
    rw [← hplace]
    exact List.mem_map_of_mem (List.mem_filter.2 ⟨hitem, by rw [hunflagged]; rfl⟩)

/-! ### Where companions stand -/

/-- The companion stands right behind the endpoint for the place of the first registration of its
path with another method. -/
def FollowsFirst (endpoints items : List Endpoint) (companion : Endpoint) : Prop :=
  ∃ first holder before after,
    (endpoints.find? fun endpoint =>
      endpoint.path = companion.path ∧ endpoint.method ≠ optionsMethod) = some first ∧
    holder.place = first.place ∧ items = before ++ holder :: companion :: after

def Escorted (endpoints items : List Endpoint) : Prop :=
  ∀ companion ∈ items, companion.companion = true → FollowsFirst endpoints items companion

theorem Escorted.append {items : List Endpoint} (hescorted : Escorted endpoints items)
    (endpoint : Endpoint) {more : List Endpoint}
    (hmore : ∀ companion ∈ more, companion.companion = true →
      FollowsFirst (endpoints ++ [endpoint]) (items ++ more) companion) :
    Escorted (endpoints ++ [endpoint]) (items ++ more) := by
  intro companion hmem hcompanion
  rcases List.mem_append.1 hmem with hmem | hmem
  · obtain ⟨first, holder, before, after, hfirst, hplace, hitems⟩ :=
      hescorted companion hmem hcompanion
    refine ⟨first, holder, before, after ++ more, ?_, hplace, ?_⟩
    · rw [List.find?_append, hfirst, Option.some_or]
    · rw [hitems, List.append_assoc, List.cons_append, List.cons_append]
  · exact hmore companion hmem hcompanion

/-- An endpoint in the place of another one stands where that one stood. -/
theorem Escorted.replaceItem {items : List Endpoint} (hescorted : Escorted endpoints items)
    (hplain : ∀ item ∈ items, item.Plain) (hnew : endpoint.Plain)
    (hdocumented : endpoint.companion = false) :
    Escorted (endpoints ++ [endpoint]) (Keyed.replaceItem key endpoint items) := by
  intro companion hmem hcompanion
  obtain ⟨old, hold, hchange⟩ := List.mem_map.1 hmem
  have hother : old.key ≠ endpoint.key := by
    intro hkey
    rw [if_pos hkey] at hchange
    rw [← hchange, hdocumented] at hcompanion
    cases hcompanion
  rw [if_neg hother] at hchange
  subst hchange
  obtain ⟨first, holder, before, after, hfirst, hplace, hitems⟩ := hescorted old hold hcompanion
  have hholder : (if holder.key = endpoint.key then endpoint else holder).place = first.place := by
    split
    · next hkey =>
      have hmem : holder ∈ items := by rw [hitems]; simp
      rw [← hplace]
      exact (hnew.place_eq_iff (hplain holder hmem)).2 hkey.symm
    · exact hplace
  refine ⟨first, _, Keyed.replaceItem key endpoint before, Keyed.replaceItem key endpoint after,
    ?_, hholder, ?_⟩
  · rw [List.find?_append, hfirst, Option.some_or]
  · rw [hitems, Keyed.replaceItem, List.map_append, List.map_cons, List.map_cons, if_neg hother]
    rfl

theorem Escorted.insert (hescorted : Escorted endpoints registry.items)
    (harranged : Arranged registry.items) (hplain : ∀ item ∈ registry.items, item.Plain)
    (hpartners : ∀ endpoint ∈ endpoints, endpoint.partnerKey ∈ registry.keys)
    (hnew : endpoint.Plain) (hdocumented : endpoint.companion = false) :
    Escorted (endpoints ++ [endpoint]) (registry.insert endpoint).items := by
  rcases items_insert_cases harranged hplain hnew with
    hitems | ⟨-, -, hitems⟩ | ⟨-, hmethod, hfresh, hitems⟩
  · rw [hitems]
    exact hescorted.replaceItem hplain hnew hdocumented
  · rw [hitems]
    refine hescorted.append endpoint fun companion hmem hcompanion => ?_
    rw [List.mem_singleton.1 hmem, hdocumented] at hcompanion
    cases hcompanion
  · rw [hitems]
    refine hescorted.append endpoint fun companion hmem hcompanion => ?_
    -- The endpoint is the first one of its path that asks for a companion.
    have hfirst : (endpoints.find? fun other =>
        other.path = endpoint.path ∧ other.method ≠ optionsMethod) = none := by
      rw [List.find?_eq_none]
      intro other hother hsame
      have hpath : other.path = endpoint.path := (of_decide_eq_true hsame).1
      refine hfresh ?_
      rw [List.map_append, partnerKey, ← hpath]
      exact List.mem_append_left _ (hpartners other hother)
    rcases List.mem_cons.1 hmem with rfl | hmem
    · rw [hdocumented] at hcompanion
      cases hcompanion
    · obtain rfl := List.mem_singleton.1 hmem
      refine ⟨endpoint, endpoint, registry.items, [], ?_, rfl, rfl⟩
      have hpath : (companionAt endpoint.path).path = endpoint.path := rfl
      rw [List.find?_append, hpath, hfirst, Option.none_or, List.find?_singleton,
        if_pos (decide_eq_true ⟨rfl, hmethod⟩)]

theorem escorted_insertAll (hplain : ∀ endpoint ∈ endpoints, endpoint.Plain)
    (hdocumented : ∀ endpoint ∈ endpoints, endpoint.companion = false) :
    Escorted endpoints (insertAll .empty endpoints).items := by
  induction endpoints using List.reverseRecOn with
  | nil =>
    intro companion hmem
    cases hmem
  | append_singleton endpoints endpoint ih =>
    have hbefore : ∀ other ∈ endpoints, other ∈ endpoints ++ [endpoint] := fun _ hmem =>
      List.mem_append_left _ hmem
    have hlast : endpoint ∈ endpoints ++ [endpoint] := by simp
    have hplain' := fun other hmem => hplain other (hbefore other hmem)
    have hdocumented' := fun other hmem => hdocumented other (hbefore other hmem)
    rw [insertAll_append, insertAll_cons]
    exact (ih hplain' hdocumented').insert (arranged_insertAll hplain' hdocumented')
      (fun item hitem => plain_of_mem_insertAll hplain' hitem)
      (fun other hother => partnerKey_mem_insertAll hother) (hplain endpoint hlast)
      (hdocumented endpoint hlast)

/-- **Companions follow the history.** After any history of documented endpoints whose methods have
no hyphens, every registered path has exactly one endpoint for `options`, the last documented one or
else an empty companion. The documented endpoints are one for each registered place. And every
companion stands right behind the endpoint that first asked for it. -/
theorem companions_follow_history (hplain : ∀ endpoint ∈ endpoints, endpoint.Plain)
    (hdocumented : ∀ endpoint ∈ endpoints, endpoint.companion = false) :
    (∀ endpoint ∈ endpoints, ∃ entry, AnswersOptions endpoints endpoint.path entry) ∧
      ((documented (insertAll .empty endpoints)).map place).Nodup ∧
      (∀ place, place ∈ (documented (insertAll .empty endpoints)).map Endpoint.place ↔
        place ∈ endpoints.map Endpoint.place) ∧
      Escorted endpoints (insertAll .empty endpoints).items :=
  ⟨fun _ hmem => exists_answersOptions hplain hdocumented hmem,
    nodup_place_documented _, mem_place_documented_iff hplain hdocumented,
    escorted_insertAll hplain hdocumented⟩

/-- Two methods share a companion at `/photo`, and at `/user` a documented endpoint takes its place. -/
def userHistory : List Endpoint :=
  [bare "/photo" "get", bare "/user" "post", bare "/user" "options", bare "/photo" "put",
    bare "/photo" "get"]

theorem follows_userHistory :
    (∀ endpoint ∈ userHistory, endpoint.Plain) ∧
      (∀ endpoint ∈ userHistory, endpoint.companion = false) ∧
      (insertAll .empty userHistory).items.map (fun item => (item.key, item.companion)) =
        [("/photo-get", false), ("/photo-options", true), ("/user-post", false),
          ("/user-options", false), ("/photo-put", false)] ∧
      (∃ entry, AnswersOptions userHistory "/photo" entry) ∧
      Escorted userHistory (insertAll .empty userHistory).items := by
  have hplain : ∀ endpoint ∈ userHistory, endpoint.Plain := by
    simp only [userHistory, List.forall_mem_cons, Plain]
    decide
  have hdocumented : ∀ endpoint ∈ userHistory, endpoint.companion = false := by
    simp only [userHistory, List.forall_mem_cons]
    decide
  obtain ⟨hoptions, -, -, hescorted⟩ := companions_follow_history hplain hdocumented
  exact ⟨hplain, hdocumented, by decide, hoptions (bare "/photo" "get") (by simp [userHistory]),
    hescorted⟩

end ApiManual.Registry
