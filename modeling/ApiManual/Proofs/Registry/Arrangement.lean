import ApiManual.Proofs.Registry.Insertion
import Mathlib.Data.List.Induction

/-!
# How companions stand in a registry

Insertion puts a companion right behind the endpoint that it was made for. Later a documented
endpoint may take its place. So a registry is a row of single endpoints and of pairs, and the
documented ones tell where every companion stood: registered again in their order they make the same
registry.

Keys are made of path and method. They tell the two apart when no method has a hyphen, and only then
is what takes the place of an endpoint an endpoint for the same path and method.
-/

namespace ApiManual

namespace Endpoint

def partnerKey (endpoint : Endpoint) : String :=
  (companionAt endpoint.path).key

theorem partnerKey_eq_key {endpoint partner : Endpoint} (hpath : partner.path = endpoint.path)
    (hmethod : partner.method = optionsMethod) : partner.key = endpoint.partnerKey := by
  have hlower : lowercase optionsMethod = optionsMethod := by decide
  rw [key, partnerKey, key, companionAt, bare, hpath, hmethod, hlower]

theorem method_companionAt (path : String) : (companionAt path).method = optionsMethod := by
  have hlower : lowercase optionsMethod = optionsMethod := by decide
  rw [companionAt, bare, hlower]

/-- The method has no hyphen, so that the last one of the key ends the path. -/
def Plain (endpoint : Endpoint) : Prop :=
  '-' ∉ endpoint.method.toList

theorem append_hyphen_eq_iff {p q m n : List Char} :
    p ++ '-' :: m = q ++ '-' :: n ↔
      (p = q ∧ m = n) ∨ (∃ s, p = q ++ '-' :: s ∧ n = s ++ '-' :: m) ∨
        ∃ s, q = p ++ '-' :: s ∧ m = s ++ '-' :: n := by
  constructor
  · intro heq
    rcases List.append_eq_append_iff.1 heq with ⟨between, hq, hrest⟩ | ⟨between, hp, hrest⟩
    · cases between with
      | nil => exact Or.inl ⟨by rw [hq, List.append_nil], (List.cons.inj hrest).2⟩
      | cons c s =>
        obtain ⟨rfl, hm⟩ := List.cons.inj hrest
        exact Or.inr (Or.inr ⟨s, hq, hm⟩)
    · cases between with
      | nil => exact Or.inl ⟨by rw [hp, List.append_nil], (List.cons.inj hrest).2.symm⟩
      | cons c s =>
        obtain ⟨rfl, hn⟩ := List.cons.inj hrest
        exact Or.inr (Or.inl ⟨s, hp, hn⟩)
  · rintro (⟨rfl, rfl⟩ | ⟨s, rfl, rfl⟩ | ⟨s, rfl, rfl⟩)
    · rfl
    · rw [List.append_assoc, List.cons_append]
    · rw [List.append_assoc, List.cons_append]

theorem toList_append_hyphen (a b : String) :
    (a ++ "-" ++ b).toList = a.toList ++ '-' :: b.toList := by
  have hhyphen : "-".toList = ['-'] := by decide
  rw [String.toList_append, String.toList_append, hhyphen, List.append_assoc,
    List.singleton_append]

/-- The path of `a` goes on with a hyphen and a text where that of `b` ends, and the method of `b` is
that text, a hyphen and the method of `a`. -/
def Overlaps (a b : Endpoint) : Prop :=
  ∃ shared, a.path = b.path ++ "-" ++ shared ∧ b.method = shared ++ "-" ++ a.method

theorem overlaps_iff {a b : Endpoint} :
    a.Overlaps b ↔ ∃ s, a.path.toList = b.path.toList ++ '-' :: s ∧
      b.method.toList = s ++ '-' :: a.method.toList := by
  constructor
  · rintro ⟨shared, hpath, hmethod⟩
    exact ⟨shared.toList, by rw [hpath, toList_append_hyphen],
      by rw [hmethod, toList_append_hyphen]⟩
  · rintro ⟨s, hpath, hmethod⟩
    refine ⟨String.ofList s, String.toList_injective ?_, String.toList_injective ?_⟩
    · rw [hpath, toList_append_hyphen, String.toList_ofList]
    · rw [hmethod, toList_append_hyphen, String.toList_ofList]

/-- A key does not tell where the path ends and the method begins. -/
theorem key_eq_iff {a b : Endpoint} :
    a.key = b.key ↔
      (a.path = b.path ∧ a.method = b.method) ∨ a.Overlaps b ∨ b.Overlaps a := by
  rw [← String.toList_inj, key, key, toList_append_hyphen, toList_append_hyphen,
    append_hyphen_eq_iff, overlaps_iff, overlaps_iff, String.toList_inj, String.toList_inj]

theorem Overlaps.not_plain {a b : Endpoint} (hoverlaps : a.Overlaps b) : ¬ b.Plain := by
  obtain ⟨s, -, hmethod⟩ := overlaps_iff.1 hoverlaps
  rw [Plain, hmethod]
  simp

theorem Plain.eq_of_key_eq {a b : Endpoint} (ha : a.Plain) (hb : b.Plain) (hkey : a.key = b.key) :
    a.path = b.path ∧ a.method = b.method := by
  rcases key_eq_iff.1 hkey with heq | hoverlaps | hoverlaps
  · exact heq
  · exact absurd hb hoverlaps.not_plain
  · exact absurd ha hoverlaps.not_plain

theorem plain_companionAt (path : String) : (companionAt path).Plain := by
  rw [Plain, method_companionAt]
  decide

/-- With hyphens in its method an endpoint could have the key of its own companion. -/
theorem Plain.partnerKey_ne_key {endpoint : Endpoint} (hplain : endpoint.Plain)
    (hmethod : endpoint.method ≠ optionsMethod) : endpoint.partnerKey ≠ endpoint.key := by
  intro hself
  have hsame := (Plain.eq_of_key_eq (plain_companionAt endpoint.path) hplain hself).2
  rw [method_companionAt] at hsame
  exact hmethod hsame.symm

end Endpoint

namespace Registry

open Endpoint

/-- A row of endpoints as insertion makes it. A documented endpoint stands alone if no companion was
made for it; otherwise an endpoint for the companion's path and method stands behind it. -/
inductive Arranged : List Endpoint → Prop where
  | nil : Arranged []
  | alone {items : List Endpoint} {endpoint : Endpoint} (harranged : Arranged items)
      (hdocumented : endpoint.companion = false) (hfresh : endpoint.key ∉ items.map key)
      (hpartner : endpoint.method = optionsMethod ∨ endpoint.partnerKey ∈ items.map key) :
      Arranged (items ++ [endpoint])
  | paired {items : List Endpoint} {endpoint partner : Endpoint} (harranged : Arranged items)
      (hdocumented : endpoint.companion = false) (hfresh : endpoint.key ∉ items.map key)
      (hmethod : endpoint.method ≠ optionsMethod)
      (hnew : endpoint.partnerKey ∉ (items ++ [endpoint]).map key)
      (hpath : partner.path = endpoint.path) (hoptions : partner.method = optionsMethod) :
      Arranged (items ++ [endpoint, partner])

variable {items : List Endpoint}

theorem Arranged.method_of_companion (harranged : Arranged items) {endpoint : Endpoint}
    (hmem : endpoint ∈ items) (hcompanion : endpoint.companion = true) :
    endpoint.method = optionsMethod := by
  induction harranged with
  | nil => cases hmem
  | alone _ hdocumented _ _ ih =>
    rcases List.mem_append.1 hmem with hmem | hmem
    · exact ih hmem
    · rw [List.mem_singleton.1 hmem, hdocumented] at hcompanion
      cases hcompanion
  | paired _ hdocumented _ _ _ _ hoptions ih =>
    rcases List.mem_append.1 hmem with hmem | hmem
    · exact ih hmem
    · rcases List.mem_cons.1 hmem with rfl | hmem
      · rw [hdocumented] at hcompanion
        cases hcompanion
      · rw [List.mem_singleton.1 hmem]
        exact hoptions

/-- Every path with a method other than `options` has an endpoint for that. -/
theorem Arranged.partnerKey_mem (harranged : Arranged items) {endpoint : Endpoint}
    (hmem : endpoint ∈ items) (hmethod : endpoint.method ≠ optionsMethod) :
    endpoint.partnerKey ∈ items.map key := by
  induction harranged with
  | nil => cases hmem
  | alone _ _ _ hpartner ih =>
    rw [List.map_append]
    refine List.mem_append_left _ ?_
    rcases List.mem_append.1 hmem with hmem | hmem
    · exact ih hmem
    · rw [List.mem_singleton.1 hmem] at hmethod ⊢
      exact hpartner.resolve_left hmethod
  | paired _ _ _ _ _ hpath hoptions ih =>
    rw [List.map_append]
    rcases List.mem_append.1 hmem with hmem | hmem
    · exact List.mem_append_left _ (ih hmem)
    · refine List.mem_append_right _ ?_
      rcases List.mem_cons.1 hmem with rfl | hmem
      · rw [← partnerKey_eq_key hpath hoptions]
        simp
      · rw [List.mem_singleton.1 hmem] at hmethod
        exact absurd hoptions hmethod

/-- A change leaves path and method of every endpoint in a row, and leaves documented ones
documented. -/
structure Keeps (change : Endpoint → Endpoint) (items : List Endpoint) : Prop where
  path : ∀ endpoint ∈ items, (change endpoint).path = endpoint.path
  method : ∀ endpoint ∈ items, (change endpoint).method = endpoint.method
  documented : ∀ endpoint ∈ items, endpoint.companion = false → (change endpoint).companion = false

theorem Keeps.key_eq {change : Endpoint → Endpoint} (hkeeps : Keeps change items)
    {endpoint : Endpoint} (hmem : endpoint ∈ items) : (change endpoint).key = endpoint.key := by
  rw [key, key, hkeeps.path endpoint hmem, hkeeps.method endpoint hmem]

theorem Keeps.map_key {change : Endpoint → Endpoint} (hkeeps : Keeps change items) :
    (items.map change).map key = items.map key :=
  Keyed.map_map_key_eq fun _ hmem => hkeeps.key_eq hmem

theorem Keeps.left {change : Endpoint → Endpoint} {more : List Endpoint}
    (hkeeps : Keeps change (items ++ more)) : Keeps change items where
  path endpoint hmem := hkeeps.path endpoint (List.mem_append_left _ hmem)
  method endpoint hmem := hkeeps.method endpoint (List.mem_append_left _ hmem)
  documented endpoint hmem := hkeeps.documented endpoint (List.mem_append_left _ hmem)

theorem Arranged.map (harranged : Arranged items) {change : Endpoint → Endpoint}
    (hkeeps : Keeps change items) : Arranged (items.map change) := by
  induction harranged with
  | nil => exact .nil
  | @alone items endpoint _ hdocumented hfresh hpartner ih =>
    have hin : endpoint ∈ items ++ [endpoint] := by simp
    have hkeys := hkeeps.left.map_key
    rw [List.map_append, List.map_singleton]
    refine .alone (ih hkeeps.left) (hkeeps.documented endpoint hin hdocumented) ?_ ?_
    · rwa [hkeeps.key_eq hin, hkeys]
    · rwa [hkeeps.method endpoint hin, partnerKey, hkeeps.path endpoint hin, hkeys]
  | @paired items endpoint partner _ hdocumented hfresh hmethod hnew hpath hoptions ih =>
    have hin : endpoint ∈ items ++ [endpoint, partner] := by simp
    have hbehind : partner ∈ items ++ [endpoint, partner] := by simp
    have hkeys := hkeeps.left.map_key
    rw [List.map_append, List.map_cons, List.map_singleton]
    refine .paired (ih hkeeps.left) (hkeeps.documented endpoint hin hdocumented) ?_ ?_ ?_ ?_ ?_
    · rwa [hkeeps.key_eq hin, hkeys]
    · rwa [hkeeps.method endpoint hin]
    · rwa [partnerKey, hkeeps.path endpoint hin, List.map_append, hkeys, List.map_singleton,
        hkeeps.key_eq hin, ← List.map_singleton, ← List.map_append]
    · rw [hkeeps.path partner hbehind, hkeeps.path endpoint hin, hpath]
    · rw [hkeeps.method partner hbehind, hoptions]

/-- An endpoint that replaces the one for the same path and method leaves the arrangement. -/
theorem Arranged.replaceItem (harranged : Arranged items) {endpoint : Endpoint}
    (hdocumented : endpoint.companion = false)
    (hsame : ∀ old ∈ items, old.key = endpoint.key →
      endpoint.path = old.path ∧ endpoint.method = old.method) :
    Arranged (Keyed.replaceItem key endpoint items) := by
  refine harranged.map ⟨fun old hmem => ?_, fun old hmem => ?_, fun old _ hold => ?_⟩
  · split
    · next hkey => exact (hsame old hmem hkey).1
    · rfl
  · split
    · next hkey => exact (hsame old hmem hkey).2
    · rfl
  · split
    · exact hdocumented
    · exact hold

/-- The insertion makes a companion: the path needs one, and no endpoint has its key. -/
def NeedsCompanion (registry : Registry) (endpoint : Endpoint) : Prop :=
  endpoint.method ≠ optionsMethod ∧ endpoint.partnerKey ∉ (registry.put endpoint).keys

instance (registry : Registry) (endpoint : Endpoint) :
    Decidable (registry.NeedsCompanion endpoint) := inferInstanceAs (Decidable (_ ∧ _))

/-- What an insertion puts behind the endpoints that are there. -/
def appended (registry : Registry) (endpoint : Endpoint) : List Endpoint :=
  (if endpoint.key ∈ registry.keys then [] else [endpoint]) ++
    if registry.NeedsCompanion endpoint then [companionAt endpoint.path] else []

theorem items_insert (registry : Registry) (endpoint : Endpoint) :
    (registry.insert endpoint).items =
      Keyed.replaceItem key endpoint registry.items ++ registry.appended endpoint := by
  rw [appended, ← List.append_assoc, ← Keyed.items_put, insert]
  by_cases hmethod : endpoint.method = optionsMethod
  · have hneeds : ¬ registry.NeedsCompanion endpoint := fun hneeds => hneeds.1 hmethod
    rw [if_pos hmethod, if_neg hneeds, List.append_nil]
  · rw [if_neg hmethod]
    by_cases hpartner : endpoint.partnerKey ∈ (registry.put endpoint).keys
    · have hneeds : ¬ registry.NeedsCompanion endpoint := fun hneeds => hneeds.2 hpartner
      rw [Keyed.items_putNew_of_mem hpartner, if_neg hneeds, List.append_nil]
    · have hneeds : registry.NeedsCompanion endpoint := ⟨hmethod, hpartner⟩
      rw [Keyed.items_putNew_of_not_mem hpartner, if_pos hneeds]

theorem items_insert_alone {registry : Registry} {endpoint : Endpoint}
    (hfresh : endpoint.key ∉ registry.keys)
    (hpartner : endpoint.method = optionsMethod ∨ endpoint.partnerKey ∈ registry.keys) :
    (registry.insert endpoint).items = registry.items ++ [endpoint] := by
  have hneeds : ¬ registry.NeedsCompanion endpoint := by
    rintro ⟨hmethod, hnew⟩
    exact hnew (Keyed.mem_keys_put_iff.2 (Or.inl (hpartner.resolve_left hmethod)))
  rw [items_insert, appended, Keyed.replaceItem_of_not_mem hfresh, if_neg hfresh, if_neg hneeds,
    List.append_nil]

theorem items_insert_paired {registry : Registry} {endpoint : Endpoint}
    (hfresh : endpoint.key ∉ registry.keys) (hmethod : endpoint.method ≠ optionsMethod)
    (hnew : endpoint.partnerKey ∉ (registry.items ++ [endpoint]).map key) :
    (registry.insert endpoint).items = registry.items ++ [endpoint, companionAt endpoint.path] := by
  have hneeds : registry.NeedsCompanion endpoint := by
    refine ⟨hmethod, ?_⟩
    rwa [Keyed.keys, Keyed.items_put_of_not_mem hfresh]
  rw [items_insert, appended, Keyed.replaceItem_of_not_mem hfresh, if_neg hfresh, if_pos hneeds,
    List.singleton_append]

/-- A documented endpoint takes the place of the companion that stands last. -/
theorem items_insert_partner {registry : Registry} {partner : Endpoint} {items : List Endpoint}
    (hitems : registry.items = items ++ [companionAt partner.path])
    (hmethod : partner.method = optionsMethod) :
    (registry.insert partner).items = items ++ [partner] := by
  have hkey : partner.key = (companionAt partner.path).key := partnerKey_eq_key rfl hmethod
  have hmem : partner.key ∈ registry.keys := by
    rw [Keyed.keys, hitems, hkey]
    simp
  have hfresh : partner.key ∉ items.map key := by
    have hdistinct := registry.distinct
    rw [hitems, List.map_append, List.nodup_append] at hdistinct
    intro hbefore
    exact hdistinct.2.2 _ hbefore _ (by simp) hkey
  rw [insert, if_pos hmethod, Keyed.items_put_of_mem hmem, hitems, Keyed.replaceItem,
    List.map_append]
  congr 1
  · exact Keyed.replaceItem_of_not_mem hfresh
  · rw [List.map_singleton, if_pos hkey.symm]

/-- All that an insertion does to an arranged row: it puts the endpoint in the place of the one with
its key, or behind all others, and there with a companion if the path has none. -/
theorem items_insert_cases {registry : Registry} {endpoint : Endpoint}
    (harranged : Arranged registry.items) (hplain : ∀ item ∈ registry.items, item.Plain)
    (hnew : endpoint.Plain) :
    (registry.insert endpoint).items = Keyed.replaceItem key endpoint registry.items ∨
      (endpoint.key ∉ registry.keys ∧
        (endpoint.method = optionsMethod ∨ endpoint.partnerKey ∈ registry.keys) ∧
        (registry.insert endpoint).items = registry.items ++ [endpoint]) ∨
      endpoint.key ∉ registry.keys ∧ endpoint.method ≠ optionsMethod ∧
        endpoint.partnerKey ∉ (registry.items ++ [endpoint]).map key ∧
        (registry.insert endpoint).items =
          registry.items ++ [endpoint, companionAt endpoint.path] := by
  by_cases hkey : endpoint.key ∈ registry.keys
  · left
    rw [← Keyed.items_put_of_mem hkey]
    unfold insert
    split
    · rfl
    · next hmethod =>
      obtain ⟨old, hold, hsame⟩ := Keyed.mem_keys_iff.1 hkey
      obtain ⟨hpath, heq⟩ := Plain.eq_of_key_eq (hplain old hold) hnew hsame
      have hpartner := harranged.partnerKey_mem hold (heq ▸ hmethod)
      rw [partnerKey, hpath] at hpartner
      exact Keyed.items_putNew_of_mem (by rwa [Keyed.keys_put_of_mem hkey])
  · right
    by_cases hpartner : endpoint.method = optionsMethod ∨ endpoint.partnerKey ∈ registry.keys
    · exact Or.inl ⟨hkey, hpartner, items_insert_alone hkey hpartner⟩
    · rw [not_or] at hpartner
      have hself := hnew.partnerKey_ne_key hpartner.1
      have hfresh : endpoint.partnerKey ∉ (registry.items ++ [endpoint]).map key := by
        rw [List.map_append, List.mem_append, List.map_singleton, List.mem_singleton, not_or]
        exact ⟨hpartner.2, hself⟩
      exact Or.inr ⟨hkey, hpartner.1, hfresh, items_insert_paired hkey hpartner.1 hfresh⟩

theorem arranged_insert {registry : Registry} {endpoint : Endpoint}
    (harranged : Arranged registry.items) (hplain : ∀ item ∈ registry.items, item.Plain)
    (hdocumented : endpoint.companion = false) (hnew : endpoint.Plain) :
    Arranged (registry.insert endpoint).items := by
  rcases items_insert_cases harranged hplain hnew with
    hitems | ⟨hkey, hpartner, hitems⟩ | ⟨hkey, hmethod, hfresh, hitems⟩
  · rw [hitems]
    exact harranged.replaceItem hdocumented fun old hmem hsame =>
      Plain.eq_of_key_eq hnew (hplain old hmem) hsame.symm
  · rw [hitems]
    exact .alone harranged hdocumented hkey hpartner
  · rw [hitems]
    exact .paired harranged hdocumented hkey hmethod hfresh rfl (method_companionAt endpoint.path)

theorem plain_of_mem_insert {registry : Registry} {endpoint item : Endpoint}
    (hplain : ∀ item ∈ registry.items, item.Plain) (hnew : endpoint.Plain)
    (hmem : item ∈ (registry.insert endpoint).items) : item.Plain := by
  rcases eq_or_mem_of_mem_insert hmem with rfl | rfl | hmem
  · exact hnew
  · exact plain_companionAt endpoint.path
  · exact hplain item hmem

theorem plain_of_mem_insertAll {endpoints : List Endpoint}
    (hplain : ∀ endpoint ∈ endpoints, endpoint.Plain) {endpoint : Endpoint}
    (hmem : endpoint ∈ (insertAll .empty endpoints).items) : endpoint.Plain := by
  rcases mem_or_companion_of_mem_insertAll hmem with hempty | hmem | ⟨path, rfl⟩
  · cases hempty
  · exact hplain endpoint hmem
  · exact plain_companionAt path

theorem arranged_insertAll {endpoints : List Endpoint}
    (hplain : ∀ endpoint ∈ endpoints, endpoint.Plain)
    (hdocumented : ∀ endpoint ∈ endpoints, endpoint.companion = false) :
    Arranged (insertAll .empty endpoints).items := by
  induction endpoints using List.reverseRecOn with
  | nil => exact .nil
  | append_singleton endpoints endpoint ih =>
    have hbefore : ∀ other ∈ endpoints, other ∈ endpoints ++ [endpoint] := fun _ hmem =>
      List.mem_append_left _ hmem
    have hlast : endpoint ∈ endpoints ++ [endpoint] := by simp
    rw [insertAll_append, insertAll_cons]
    refine arranged_insert (ih (fun other hmem => hplain other (hbefore other hmem))
      (fun other hmem => hdocumented other (hbefore other hmem))) ?_ (hdocumented endpoint hlast)
      (hplain endpoint hlast)
    intro item hitem
    exact plain_of_mem_insertAll (fun other hmem => hplain other (hbefore other hmem)) hitem

/-! ### Registering the documented endpoints again -/

/-- A companion made anew, and a documented endpoint changed. -/
def renewed (change : Endpoint → Endpoint) (endpoint : Endpoint) : Endpoint :=
  if endpoint.companion then companionAt endpoint.path else change endpoint

section Renewed

variable {change : Endpoint → Endpoint}

theorem path_renewed (hpath : ∀ endpoint, (change endpoint).path = endpoint.path)
    (endpoint : Endpoint) : (renewed change endpoint).path = endpoint.path := by
  unfold renewed
  split
  · rfl
  · exact hpath endpoint

theorem Arranged.method_renewed (harranged : Arranged items)
    (hmethod : ∀ endpoint, (change endpoint).method = endpoint.method) {endpoint : Endpoint}
    (hmem : endpoint ∈ items) : (renewed change endpoint).method = endpoint.method := by
  unfold renewed
  split
  · next hcompanion =>
    rw [method_companionAt, harranged.method_of_companion hmem hcompanion]
  · exact hmethod endpoint

theorem Arranged.map_key_renewed (harranged : Arranged items)
    (hpath : ∀ endpoint, (change endpoint).path = endpoint.path)
    (hmethod : ∀ endpoint, (change endpoint).method = endpoint.method) :
    (items.map (renewed change)).map key = items.map key := by
  refine Keyed.map_map_key_eq fun endpoint hmem => ?_
  rw [key, key, path_renewed hpath, harranged.method_renewed hmethod hmem]

theorem renewed_of_documented {endpoint : Endpoint} (hdocumented : endpoint.companion = false) :
    renewed change endpoint = change endpoint := by
  rw [renewed, hdocumented]
  rfl

/-- **The documented endpoints make the registry.** Changed in something else than path and method
and registered in their order, they stand where they stood, with companions made anew between. -/
theorem Arranged.items_insertAll (harranged : Arranged items)
    (hpath : ∀ endpoint, (change endpoint).path = endpoint.path)
    (hmethod : ∀ endpoint, (change endpoint).method = endpoint.method) :
    (insertAll .empty ((items.filter (!·.companion)).map change)).items =
      items.map (renewed change) := by
  have hkey : ∀ endpoint, (change endpoint).key = endpoint.key := by
    intro endpoint
    rw [key, key, hpath, hmethod]
  have hpartnerKey : ∀ endpoint, (change endpoint).partnerKey = endpoint.partnerKey := by
    intro endpoint
    rw [partnerKey, hpath, partnerKey]
  induction harranged with
  | nil => rfl
  | @alone items endpoint harranged hdocumented hfresh hpartner ih =>
    have hkeys : (insertAll .empty ((items.filter (!·.companion)).map change)).keys =
        items.map key := by
      rw [Keyed.keys, ih, harranged.map_key_renewed hpath hmethod]
    have hkept : [endpoint].filter (!·.companion) = [endpoint] := by simp [hdocumented]
    rw [List.filter_append, List.map_append, insertAll_append, hkept, List.map_singleton,
      insertAll_cons, List.map_append, List.map_singleton, renewed_of_documented hdocumented, ← ih]
    refine items_insert_alone ?_ ?_
    · rwa [hkey, hkeys]
    · rwa [hmethod, hpartnerKey, hkeys]
  | @paired items endpoint partner harranged hdocumented hfresh hother hnew hsame hoptions ih =>
    have hkeys : (insertAll .empty ((items.filter (!·.companion)).map change)).keys =
        items.map key := by
      rw [Keyed.keys, ih, harranged.map_key_renewed hpath hmethod]
    have hfirst : ((insertAll .empty ((items.filter (!·.companion)).map change)).insert
        (change endpoint)).items =
          items.map (renewed change) ++ [change endpoint, companionAt endpoint.path] := by
      rw [items_insert_paired, ih, hpath]
      · rwa [hkey, hkeys]
      · rwa [hmethod]
      · rwa [hpartnerKey, List.map_append, ← Keyed.keys, hkeys, List.map_singleton, hkey,
          ← List.map_singleton, ← List.map_append]
    rw [List.filter_append, List.map_append, insertAll_append, List.map_append, List.map_cons,
      List.map_singleton, renewed_of_documented hdocumented]
    cases hcompanion : partner.companion with
    | true =>
      have hkept : [endpoint, partner].filter (!·.companion) = [endpoint] := by
        simp [hdocumented, hcompanion]
      have hrenewed : renewed change partner = companionAt endpoint.path := by
        rw [renewed, hcompanion, hsame]
        rfl
      rw [hkept, List.map_singleton, insertAll_cons, hrenewed]
      exact hfirst
    | false =>
      have hkept : [endpoint, partner].filter (!·.companion) = [endpoint, partner] := by
        simp [hdocumented, hcompanion]
      -- The companion is made anew first, and then the partner takes its place.
      rw [hkept, List.map_cons, List.map_singleton, insertAll_cons, insertAll_cons,
        renewed_of_documented hcompanion]
      have hplace : items.map (renewed change) ++ [change endpoint, companionAt endpoint.path] =
          (items.map (renewed change) ++ [change endpoint]) ++
            [companionAt (change partner).path] := by
        rw [hpath, hsame, List.append_assoc, List.singleton_append]
      have hlast := items_insert_partner (hfirst.trans hplace) ((hmethod partner).trans hoptions)
      rwa [List.append_assoc, List.singleton_append] at hlast

end Renewed

end Registry

end ApiManual
