import ApiManual.Proofs.Exchange.Storing
import ApiManual.Proofs.Json.Compact

/-!
# Headers as a plain map

Headers are one list of spellings and values, and the order of the list, the spelling and the value
all change with the operations. Here they are followed by a plain map under names in small letters,
that notes apart since when a name has been there without a break, how it was spelled last and what
its value is. Nothing of the list enters the map, so the order in which headers are listed is a fact
about the times that it notes.
-/

namespace ApiManual

namespace HeaderMap

/-- What is done with headers. -/
inductive Action where
  | insert (name value : String)
  | erase (name : String)
  | update (name : String) (change : String → String)
  | collect (entries : List (String × String))
  | clone
  | reload
  | load (text : String)

/-- The headers in a text. -/
def loaded? (text : String) : Option HeaderMap :=
  (Json.read? text).bind ofJson?

/-- The value that an action gives back, and the headers after it. A text that is none of headers
changes nothing. -/
def act (headers : HeaderMap) : Action → Option String × HeaderMap
  | .insert name value => headers.getThenInsert? name value
  | .erase name => headers.getThenErase? name
  | .update name change => (headers.get? name, headers.update name change)
  | .collect entries => (none, ofPairs entries)
  | .clone => (none, headers)
  | .reload => (none, (loaded? headers.toJson.compact).getD headers)
  | .load text => (none, (loaded? text).getD headers)

/-- The names and values of an object that are read as headers, no two under exactly the same name. -/
def entries? (json : Json) : Option (List (String × String)) := do
  let members ← json.members?
  let entries ← members.mapM fun (name, value) => value.string?.map (name, ·)
  let distinct : Dict String := Keyed.ofList _ entries
  return distinct.items

theorem ofJson?_eq_map_entries? (json : Json) : ofJson? json = (entries? json).map ofPairs := by
  simp only [ofJson?, entries?, Option.pure_def, Option.bind_eq_bind, Option.map_bind,
    Function.comp_def, Option.map_some]

end HeaderMap

open HeaderMap (Action)

/-- What a plain map notes of a name. -/
structure Noted where
  since : Nat
  spelling : String
  value : String

def Noted.header (entry : Noted) : String × String := (entry.spelling, entry.value)

/-- A plain map under names in small letters, with a clock that moves with every operation. -/
structure PlainMap where
  clock : Nat
  noted? : String → Option Noted

namespace PlainMap

def empty : PlainMap := ⟨0, fun _ => none⟩

def get? (plain : PlainMap) (name : String) : Option String :=
  (plain.noted? (lowercase name)).map (·.value)

/-- Since when a name has been there. -/
def since? (plain : PlainMap) (key : String) : Option Nat :=
  (plain.noted? key).map (·.since)

def set (plain : PlainMap) (key : String) (entry : Option Noted) : PlainMap :=
  ⟨plain.clock + 1, Function.update plain.noted? key entry⟩

/-- A name that is there keeps its time, a new one has been there from now on. -/
def insert (plain : PlainMap) (name value : String) : PlainMap :=
  plain.set (lowercase name)
    (some ⟨(plain.since? (lowercase name)).getD plain.clock, name, value⟩)

def erase (plain : PlainMap) (name : String) : PlainMap :=
  plain.set (lowercase name) none

def update (plain : PlainMap) (name : String) (change : String → String) : PlainMap :=
  plain.set (lowercase name)
    ((plain.noted? (lowercase name)).map fun entry => { entry with value := change entry.value })

def ofPairs (pairs : List (String × String)) : PlainMap :=
  pairs.foldl (fun plain pair => plain.insert pair.1 pair.2) empty

def act (plain : PlainMap) : Action → Option String × PlainMap
  | .insert name value => (plain.get? name, plain.insert name value)
  | .erase name => (plain.get? name, plain.erase name)
  | .update name change => (plain.get? name, plain.update name change)
  | .collect entries => (none, ofPairs entries)
  | .clone => (none, plain)
  | .reload => (none, plain)
  | .load text => (none, (((Json.read? text).bind HeaderMap.entries?).map ofPairs).getD plain)

/-- The name `a` has been there for longer than `b`. -/
def Before (plain : PlainMap) (a b : String) : Prop :=
  ∃ m n, plain.since? a = some m ∧ plain.since? b = some n ∧ m < n

/-- The names and entries of the map, the oldest first. -/
structure Lists (plain : PlainMap) (listing : List (String × Noted)) : Prop where
  mem_iff : ∀ key entry, (key, entry) ∈ listing ↔ plain.noted? key = some entry
  ascending : listing.Pairwise fun a b => a.2.since < b.2.since

/-- Some names in their order, each with what the map notes of it. -/
def listing (plain : PlainMap) (keys : List String) : List (String × Noted) :=
  keys.filterMap fun key => (plain.noted? key).map (key, ·)

variable {plain other : PlainMap} {key : String} {entry : Option Noted}

theorem mem_listing_iff {keys : List String} {noted : Noted} :
    (key, noted) ∈ plain.listing keys ↔ key ∈ keys ∧ plain.noted? key = some noted := by
  rw [listing, List.mem_filterMap]
  constructor
  · rintro ⟨k, hk, hpair⟩
    obtain ⟨found, hfound, heq⟩ := Option.map_eq_some_iff.1 hpair
    cases heq
    exact ⟨hk, hfound⟩
  · rintro ⟨hkey, hnoted⟩
    exact ⟨key, hkey, by rw [hnoted, Option.map_some]⟩

theorem pairwise_listing {keys : List String} (hbefore : keys.Pairwise plain.Before) :
    (plain.listing keys).Pairwise fun a b => a.2.since < b.2.since := by
  rw [listing, List.pairwise_filterMap]
  refine hbefore.imp ?_
  rintro a b ⟨m, n, hm, hn, hlt⟩ first hfirst second hsecond
  obtain ⟨first, hfound, rfl⟩ := Option.map_eq_some_iff.1 hfirst
  obtain ⟨second, hfound', rfl⟩ := Option.map_eq_some_iff.1 hsecond
  rw [since?, hfound] at hm
  rw [since?, hfound'] at hn
  cases hm
  cases hn
  exact hlt

theorem noted?_set (plain : PlainMap) (key : String) (entry : Option Noted) (k : String) :
    (plain.set key entry).noted? k = if k = key then entry else plain.noted? k :=
  Function.update_apply plain.noted? key entry k

theorem since?_set (plain : PlainMap) (key : String) (entry : Option Noted) (k : String) :
    (plain.set key entry).since? k =
      if k = key then entry.map (·.since) else plain.since? k := by
  rw [since?, noted?_set, apply_ite (Option.map _), since?]

theorem since?_insert (plain : PlainMap) (name value k : String) :
    (plain.insert name value).since? k =
      if k = lowercase name then some ((plain.since? k).getD plain.clock) else plain.since? k := by
  rw [insert, since?_set]
  split
  · next hk => rw [hk, Option.map_some]
  · rfl

theorem since?_update (plain : PlainMap) (name : String) (change : String → String) (k : String) :
    (plain.update name change).since? k = plain.since? k := by
  rw [update, since?_set, Option.map_map]
  split
  · next hk =>
    rw [hk]
    rfl
  · rfl

theorem pairwise_before_congr {keys : List String} (hbefore : keys.Pairwise plain.Before)
    (hsame : ∀ k ∈ keys, other.since? k = plain.since? k) : keys.Pairwise other.Before := by
  refine hbefore.imp_of_mem fun ha hb => ?_
  rintro ⟨m, n, hm, hn, hlt⟩
  exact ⟨m, n, (hsame _ ha).trans hm, (hsame _ hb).trans hn, hlt⟩

end PlainMap

namespace HeaderMap

section Insert

variable {headers : HeaderMap} {name : String} (value : String)

theorem find?_insert (headers : HeaderMap) (name : String) (key : String) :
    (headers.insert name value).find? key =
      if key = lowercase name then some (name, value) else headers.find? key := by
  rw [insert, Keyed.find?_put]
  simp only [eq_comm]

theorem keys_insert_of_mem (hmem : lowercase name ∈ headers.keys) :
    (headers.insert name value).keys = headers.keys :=
  Keyed.keys_put_of_mem hmem

theorem keys_insert_of_not_mem (hfresh : lowercase name ∉ headers.keys) :
    (headers.insert name value).keys = headers.keys ++ [lowercase name] :=
  Keyed.keys_put_of_not_mem hfresh

end Insert

/-- The headers hold what the map notes, ordered by its times, and the times are over. -/
structure Represents (headers : HeaderMap) (plain : PlainMap) : Prop where
  found : ∀ key, headers.find? key = (plain.noted? key).map Noted.header
  ordered : headers.keys.Pairwise plain.Before
  past : ∀ key time, plain.since? key = some time → time < plain.clock

namespace Represents

variable {headers after : HeaderMap} {plain : PlainMap} {key : String} {entry : Option Noted}

theorem get?_eq (hrep : headers.Represents plain) (name : String) :
    headers.get? name = plain.get? name := by
  rw [get?, hrep.found, Option.map_map]
  rfl

theorem exists_since_iff (hrep : headers.Represents plain) :
    (∃ time, plain.since? key = some time) ↔ key ∈ headers.keys := by
  rw [← Option.isSome_iff_exists, ← Keyed.isSome_find?_iff, hrep.found, Option.isSome_map,
    PlainMap.since?, Option.isSome_map]

theorem empty : Represents .empty .empty where
  found _ := rfl
  ordered := List.Pairwise.nil
  past _ time htime := by cases htime

/-- An operation on one name is followed once the entry of that name is right and the listed names
are in the order of their times. -/
theorem set (hrep : headers.Represents plain)
    (hfound : ∀ k, after.find? k = if k = key then entry.map Noted.header else headers.find? k)
    (hordered : after.keys.Pairwise (plain.set key entry).Before)
    (hsince : ∀ time, entry.map (·.since) = some time → time ≤ plain.clock) :
    after.Represents (plain.set key entry) where
  found k := by
    rw [hfound, hrep.found, PlainMap.noted?_set, apply_ite (Option.map _)]
  ordered := hordered
  past k time htime := by
    rw [PlainMap.since?_set] at htime
    split at htime
    · exact Nat.lt_succ_of_le (hsince time htime)
    · exact Nat.lt_succ_of_lt (hrep.past k time htime)

theorem insert (hrep : headers.Represents plain) (name value : String) :
    (headers.insert name value).Represents (plain.insert name value) := by
  have hkept : ∀ k ∈ headers.keys, (plain.insert name value).since? k = plain.since? k := by
    intro k hk
    obtain ⟨time, htime⟩ := hrep.exists_since_iff.2 hk
    rw [PlainMap.since?_insert, htime]
    split <;> rfl
  have hold := PlainMap.pairwise_before_congr hrep.ordered hkept
  refine hrep.set (fun k => ?_) ?_ fun time htime => ?_
  · rw [find?_insert, Option.map_some]
    rfl
  · by_cases hmem : lowercase name ∈ headers.keys
    · rw [keys_insert_of_mem value hmem]
      exact hold
    · -- a new name comes last, and nothing has been there for a shorter time
      rw [keys_insert_of_not_mem value hmem, List.pairwise_append]
      refine ⟨hold, List.pairwise_singleton _ _, fun k hk last hlast => ?_⟩
      obtain ⟨time, htime⟩ := hrep.exists_since_iff.2 hk
      have hfresh : plain.since? (lowercase name) = none := by
        rw [Option.eq_none_iff_forall_ne_some]
        intro time htime
        exact hmem (hrep.exists_since_iff.1 ⟨time, htime⟩)
      have hnow : (plain.insert name value).since? (lowercase name) = some plain.clock := by
        rw [PlainMap.since?_insert, if_pos rfl, hfresh, Option.getD_none]
      rw [List.mem_singleton.1 hlast]
      exact ⟨time, plain.clock, (hkept k hk).trans htime, hnow, hrep.past k time htime⟩
  · rw [Option.map_some] at htime
    obtain rfl := Option.some.inj htime
    cases hnoted : plain.since? (lowercase name) with
    | none => exact Nat.le_refl _
    | some time => exact Nat.le_of_lt (hrep.past _ _ hnoted)

theorem erase (hrep : headers.Represents plain) (name : String) :
    (headers.erase name).Represents (plain.erase name) := by
  refine hrep.set (fun k => Keyed.find?_remove ..) ?_ (by rintro time ⟨⟩)
  rw [HeaderMap.erase, Keyed.keys_remove]
  refine PlainMap.pairwise_before_congr (hrep.ordered.sublist List.filter_sublist) fun k hk => ?_
  have hne : k ≠ lowercase name := by simpa using List.of_mem_filter hk
  rw [PlainMap.since?_set, if_neg hne]

theorem lowercase_spelling (hrep : headers.Represents plain) {noted : Noted}
    (hentry : plain.noted? key = some noted) : lowercase noted.spelling = key := by
  have hfound := hrep.found key
  rw [hentry] at hfound
  exact (Keyed.find?_eq_some_iff.1 hfound).2

theorem update (hrep : headers.Represents plain) (name : String) (change : String → String) :
    (headers.update name change).Represents (plain.update name change) := by
  refine hrep.set (fun k => ?_) ?_ fun time htime => ?_
  · rw [HeaderMap.update, Keyed.find?_adjust]
    split
    · next hk =>
      rw [hk, hrep.found, Option.map_map, Option.map_map]
      cases hentry : plain.noted? (lowercase name) with
      | none => rfl
      | some entry =>
        have hspelling := hrep.lowercase_spelling hentry
        exact congrArg some (if_pos ⟨hspelling, hspelling⟩)
    · next hk =>
      cases hfound : headers.find? k with
      | none => rfl
      | some header =>
        have hkey : lowercase header.1 = k := (Keyed.find?_eq_some_iff.1 hfound).2
        exact congrArg some (if_neg fun hboth => hk (hkey.symm.trans hboth.1))
  · rw [HeaderMap.update, Keyed.keys_adjust]
    exact PlainMap.pairwise_before_congr hrep.ordered fun k _ => plain.since?_update name change k
  · rw [Option.map_map] at htime
    exact Nat.le_of_lt (hrep.past (lowercase name) time htime)

theorem ofPairs (pairs : List (String × String)) :
    (HeaderMap.ofPairs pairs).Represents (PlainMap.ofPairs pairs) := by
  have hfoldl : ∀ (headers : HeaderMap) (plain : PlainMap), headers.Represents plain →
      Represents (pairs.foldl Keyed.put headers)
        (pairs.foldl (fun plain pair => plain.insert pair.1 pair.2) plain) := by
    induction pairs with
    | nil => exact fun _ _ hrep => hrep
    | cons pair pairs ih => exact fun _ _ hrep => ih _ _ (hrep.insert pair.1 pair.2)
  exact hfoldl _ _ empty

end Represents

/-! ### Reading back -/

theorem loaded?_compact (headers : HeaderMap) : loaded? headers.toJson.compact = some headers := by
  rw [loaded?, Json.read?_compact headers.legible_toJson, Option.bind_some, ofJson?_toJson]

theorem loaded?_indented (headers : HeaderMap) :
    loaded? headers.toJson.indented = some headers := by
  rw [loaded?, Json.read?_indented headers.legible_toJson, Option.bind_some, ofJson?_toJson]

theorem loaded?_eq_map_entries? (text : String) :
    loaded? text = ((Json.read? text).bind entries?).map ofPairs := by
  rw [loaded?, Option.map_bind]
  exact congrArg _ (funext ofJson?_eq_map_entries?)

/-! ### Histories -/

/-- One action gives the same value on both sides, and what it leaves is followed again. -/
theorem Represents.act {headers : HeaderMap} {plain : PlainMap} (hrep : headers.Represents plain)
    (action : Action) :
    (headers.act action).1 = (plain.act action).1 ∧
      (headers.act action).2.Represents (plain.act action).2 := by
  cases action with
  | insert name value => exact ⟨hrep.get?_eq name, hrep.insert name value⟩
  | erase name => exact ⟨hrep.get?_eq name, hrep.erase name⟩
  | update name change => exact ⟨hrep.get?_eq name, hrep.update name change⟩
  | collect entries => exact ⟨rfl, .ofPairs entries⟩
  | clone => exact ⟨rfl, hrep⟩
  | reload =>
    refine ⟨rfl, ?_⟩
    rw [HeaderMap.act, loaded?_compact]
    exact hrep
  | load text =>
    refine ⟨rfl, ?_⟩
    rw [HeaderMap.act, PlainMap.act, loaded?_eq_map_entries?]
    cases (Json.read? text).bind entries? with
    | none => exact hrep
    | some entries => exact .ofPairs entries

/-- What the actions of a history give back one after the other, and what is there in the end. -/
def session {σ : Type} (act : σ → Action → Option String × σ) :
    σ → List Action → List (Option String) × σ
  | state, [] => ([], state)
  | state, action :: rest =>
    let (answer, next) := act state action
    let (answers, last) := session act next rest
    (answer :: answers, last)

theorem Represents.session {headers : HeaderMap} {plain : PlainMap}
    (hrep : headers.Represents plain) (history : List Action) :
    (HeaderMap.session HeaderMap.act headers history).1 =
        (HeaderMap.session PlainMap.act plain history).1 ∧
      Represents (HeaderMap.session HeaderMap.act headers history).2
        (HeaderMap.session PlainMap.act plain history).2 := by
  induction history generalizing headers plain with
  | nil => exact ⟨rfl, hrep⟩
  | cons action rest ih =>
    obtain ⟨hanswer, hnext⟩ := hrep.act action
    obtain ⟨hanswers, hlast⟩ := ih hnext
    exact ⟨congrArg₂ List.cons hanswer hanswers, hlast⟩

/-- All that can be seen of headers is what a plain map says. -/
structure Agrees (headers : HeaderMap) (plain : PlainMap) : Prop where
  get? : ∀ name, headers.get? name = plain.get? name
  has : ∀ name, headers.has name = (plain.get? name).isSome
  distinct : (headers.lowered.map (·.1)).Nodup
  listed : ∃ listing, plain.Lists listing ∧
    (∀ item ∈ listing, item.1 = lowercase item.2.spelling) ∧
    headers.lowered = listing.map (fun item => (item.1, item.2.value)) ∧
    headers.items = listing.map (fun item => item.2.header)
  reread : ∀ text ∈ [headers.toJson.compact, headers.toJson.indented],
    (Json.read? text).bind ofJson? = some headers

theorem Represents.listed {headers : HeaderMap} {plain : PlainMap}
    (hrep : headers.Represents plain) :
    ∃ listing, plain.Lists listing ∧
      (∀ item ∈ listing, item.1 = lowercase item.2.spelling) ∧
      headers.items = listing.map (fun item => item.2.header) := by
  have hmem : ∀ key entry, (key, entry) ∈ plain.listing headers.keys ↔
      plain.noted? key = some entry := by
    intro key entry
    rw [PlainMap.mem_listing_iff, and_iff_right_iff_imp]
    intro hentry
    refine hrep.exists_since_iff.1 ⟨entry.since, ?_⟩
    rw [PlainMap.since?, hentry, Option.map_some]
  refine ⟨plain.listing headers.keys, ⟨hmem, PlainMap.pairwise_listing hrep.ordered⟩, ?_, ?_⟩
  · rintro ⟨key, entry⟩ hitem
    exact (hrep.lowercase_spelling ((hmem key entry).1 hitem)).symm
  · rw [PlainMap.listing, List.map_filterMap, ← Keyed.filterMap_find?_keys]
    refine List.filterMap_congr fun key _ => ?_
    rw [hrep.found, Option.map_map]
    rfl

theorem Represents.agrees {headers : HeaderMap} {plain : PlainMap}
    (hrep : headers.Represents plain) : headers.Agrees plain where
  get? := hrep.get?_eq
  has name := by
    rw [HeaderMap.has, Keyed.contains_eq_isSome, ← hrep.get?_eq, HeaderMap.get?, Option.isSome_map]
  distinct := by
    rw [lowered, List.map_map]
    exact headers.distinct
  listed := by
    obtain ⟨listing, hlists, hkeys, hitems⟩ := hrep.listed
    refine ⟨listing, hlists, hkeys, ?_, hitems⟩
    rw [lowered, hitems, List.map_map]
    refine List.map_congr_left fun item hitem => ?_
    rw [Function.comp_apply, hkeys item hitem]
    rfl
  reread := by
    simp only [List.forall_mem_cons]
    exact ⟨headers.loaded?_compact, headers.loaded?_indented,
      fun _ hmem => absurd hmem List.not_mem_nil⟩

/-- **Headers are a plain map under names in small letters.** Whatever is done with headers, the
values given back on the way are those of the plain map, and in the end they agree with it: every
spelling of a name finds the value of the map, the names in small letters are distinct, the headers
are listed from the name that has been there for the longest time to the newest, each with its last
spelling, and what they are written as is read as the same headers. -/
theorem session_agrees (history : List Action) :
    (session act .empty history).1 = (session PlainMap.act .empty history).1 ∧
      Agrees (session act .empty history).2 (session PlainMap.act .empty history).2 := by
  obtain ⟨hanswers, hrep⟩ := Represents.empty.session history
  exact ⟨hanswers, hrep.agrees⟩

end HeaderMap

end ApiManual
