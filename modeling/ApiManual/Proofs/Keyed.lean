import ApiManual.Keyed
import Mathlib.Data.List.Induction
import Mathlib.Data.List.Nodup
import Mathlib.Data.List.Perm.Subperm

/-!
# Looking up items by key

An item of a collection is found under its key, because no other item has that key. Of items that are
put into an empty collection one after the other, the last one with a key is found under it. Lists of
items with distinct keys are collections as they stand, so putting them in gives the list itself.

Where keys may repeat, what counts is the order in which they first come up.
-/

namespace ApiManual

/-- Of as many items, none twice and all among those of the other, none is left over. -/
theorem perm_of_length_eq_of_subset {α : Type} {items others : List α} (hdistinct : items.Nodup)
    (hlength : items.length = others.length) (hsubset : items ⊆ others) : items.Perm others :=
  (List.subperm_of_subset hdistinct hsubset).perm_of_length_le (Nat.le_of_eq hlength.symm)

/-! ### First occurrences -/

section First

variable {α : Type} [BEq α] [LawfulBEq α]

/-- What comes up again does not count, what comes up for the first time counts last. -/
theorem eraseDups_append_singleton (items : List α) (item : α) :
    (items ++ [item]).eraseDups =
      items.eraseDups ++ if item ∈ items.eraseDups then [] else [item] := by
  rw [List.eraseDups_append]
  by_cases hmem : item ∈ items <;> simp [List.removeAll, hmem, List.eraseDups_cons]

/-- Without what comes up again, items stand in the order in which each first came up. -/
theorem pairwise_idxOf_eraseDups (items : List α) :
    items.eraseDups.Pairwise fun a b => items.idxOf a < items.idxOf b := by
  induction items using List.reverseRecOn with
  | nil => exact List.Pairwise.nil
  | append_singleton items item ih =>
    have hsame : ∀ a ∈ items.eraseDups, (items ++ [item]).idxOf a = items.idxOf a :=
      fun a ha => List.idxOf_append_of_mem (List.mem_eraseDups.1 ha)
    have hold : items.eraseDups.Pairwise fun a b =>
        (items ++ [item]).idxOf a < (items ++ [item]).idxOf b := by
      refine ih.imp_of_mem fun ha hb hless => ?_
      rwa [hsame _ ha, hsame _ hb]
    rw [eraseDups_append_singleton]
    split
    · rwa [List.append_nil]
    · next hfresh =>
      refine List.pairwise_append.2 ⟨hold, List.pairwise_singleton .., fun a ha b hb => ?_⟩
      obtain rfl := List.mem_singleton.1 hb
      rw [hsame a ha, List.idxOf_append_of_notMem (mt List.mem_eraseDups.2 hfresh)]
      exact Nat.lt_add_right _ (List.idxOf_lt_length_of_mem (List.mem_eraseDups.1 ha))

end First

/-! ### The last item -/

section Last

variable {α : Type} {items : List α} {p : α → Bool} {item : α}

theorem find?_reverse_isSome (hmem : item ∈ items) (hp : p item = true) :
    ∃ last, items.reverse.find? p = some last :=
  Option.isSome_iff_exists.1 (List.find?_isSome.2 ⟨item, List.mem_reverse.2 hmem, hp⟩)

theorem mem_of_find?_reverse (hlast : items.reverse.find? p = some item) : item ∈ items :=
  List.mem_reverse.1 (List.mem_of_find?_eq_some hlast)

end Last

namespace Keyed

variable {κ α : Type} [DecidableEq κ] {key : α → κ}

omit [DecidableEq κ] in
theorem eq_of_key_eq {collection : Keyed key} {a b : α} (ha : a ∈ collection.items)
    (hb : b ∈ collection.items) (hkey : key a = key b) : a = b :=
  List.inj_on_of_nodup_map collection.distinct ha hb hkey

omit [DecidableEq κ] in
theorem eq_of_items_eq {a b : Keyed key} (hitems : a.items = b.items) : a = b := by
  cases a
  cases b
  cases hitems
  rfl

theorem find?_eq_some_iff {collection : Keyed key} {k : κ} {item : α} :
    collection.find? k = some item ↔ item ∈ collection.items ∧ key item = k := by
  constructor
  · intro hfound
    exact ⟨List.mem_of_find?_eq_some hfound, by simpa using List.find?_some hfound⟩
  · rintro ⟨hmem, rfl⟩
    obtain ⟨found, hfound⟩ : ∃ found, collection.find? (key item) = some found :=
      Option.isSome_iff_exists.1 (List.find?_isSome.2 ⟨item, hmem, by simp⟩)
    have hkey : key found = key item := by simpa using List.find?_some hfound
    rw [hfound, eq_of_key_eq (List.mem_of_find?_eq_some hfound) hmem hkey]

theorem contains_eq_false_iff {collection : Keyed key} {k : κ} :
    collection.contains k = false ↔ collection.find? k = none := by
  simp [contains, find?]

/-- What is found under a key does not depend on the order of the items. -/
theorem find?_congr {a b : Keyed key} (hperm : a.items.Perm b.items) (k : κ) :
    a.find? k = b.find? k := by
  refine Option.ext fun item => ?_
  rw [find?_eq_some_iff, find?_eq_some_iff, hperm.mem_iff]

omit [DecidableEq κ] in
theorem mem_keys_iff {collection : Keyed key} {k : κ} :
    k ∈ collection.keys ↔ ∃ item ∈ collection.items, key item = k :=
  List.mem_map

omit [DecidableEq κ] in
/-- As many keys, all of them among those of the other, are the same keys. -/
theorem perm_keys_of_subset {a b : Keyed key} (hsize : a.size = b.size)
    (hsubset : a.keys ⊆ b.keys) : a.keys.Perm b.keys := by
  have hlength : a.keys.length = b.keys.length := by
    simp only [keys, List.length_map]
    exact hsize
  exact perm_of_length_eq_of_subset a.distinct hlength hsubset

theorem items_putNew_of_mem {collection : Keyed key} {item : α}
    (hmem : key item ∈ collection.keys) :
    (collection.putNew item).items = collection.items := by
  rw [putNew, dif_pos (contains_iff.2 hmem)]

theorem items_putNew_of_not_mem {collection : Keyed key} {item : α}
    (hfresh : key item ∉ collection.keys) :
    (collection.putNew item).items = collection.items ++ [item] := by
  rw [putNew, dif_neg (mt contains_iff.1 hfresh)]

theorem replaceItem_of_not_mem {item : α} {items : List α} (hfresh : key item ∉ items.map key) :
    replaceItem key item items = items := by
  refine (List.map_congr_left fun old hold => ?_).trans (List.map_id items)
  have hne : key old ≠ key item := by
    intro hkey
    exact hfresh (hkey ▸ List.mem_map_of_mem hold)
  rw [if_neg hne, id]

theorem items_put (collection : Keyed key) (item : α) :
    (collection.put item).items =
      replaceItem key item collection.items ++
        if key item ∈ collection.keys then [] else [item] := by
  split
  · next hkey => rw [items_put_of_mem hkey, List.append_nil]
  · next hkey => rw [items_put_of_not_mem hkey, replaceItem_of_not_mem hkey]

theorem mem_keys_put_iff {collection : Keyed key} {item : α} {k : κ} :
    k ∈ (collection.put item).keys ↔ k ∈ collection.keys ∨ k = key item := by
  by_cases hkey : key item ∈ collection.keys
  · rw [keys_put_of_mem hkey, iff_self_or]
    rintro rfl
    exact hkey
  · rw [keys_put_of_not_mem hkey, List.mem_append, List.mem_singleton]

theorem mem_put_of_ne {collection : Keyed key} {item other : α} (hmem : other ∈ collection.items)
    (hne : key other ≠ key item) : other ∈ (collection.put item).items := by
  by_cases hkey : key item ∈ collection.keys
  · rw [items_put_of_mem hkey]
    exact List.mem_map.2 ⟨other, hmem, if_neg hne⟩
  · rw [items_put_of_not_mem hkey]
    exact List.mem_append_left _ hmem

theorem mem_put_self (collection : Keyed key) (item : α) : item ∈ (collection.put item).items := by
  by_cases hkey : key item ∈ collection.keys
  · rw [items_put_of_mem hkey]
    obtain ⟨old, hold, hold'⟩ := List.mem_map.1 hkey
    exact List.mem_map.2 ⟨old, hold, if_pos hold'⟩
  · rw [items_put_of_not_mem hkey]
    exact List.mem_append_right _ (List.mem_singleton_self item)

theorem mem_putNew_of_mem {collection : Keyed key} {item other : α}
    (hmem : other ∈ collection.items) : other ∈ (collection.putNew item).items := by
  by_cases hkey : key item ∈ collection.keys
  · rwa [items_putNew_of_mem hkey]
  · rw [items_putNew_of_not_mem hkey]
    exact List.mem_append_left _ hmem

theorem eq_or_mem_of_mem_put {collection : Keyed key} {item other : α}
    (hmem : other ∈ (collection.put item).items) : other = item ∨ other ∈ collection.items := by
  by_cases hkey : key item ∈ collection.keys
  · rw [items_put_of_mem hkey] at hmem
    obtain ⟨old, hold, rfl⟩ := List.mem_map.1 hmem
    split
    · exact Or.inl rfl
    · exact Or.inr hold
  · rw [items_put_of_not_mem hkey, List.mem_append, List.mem_singleton] at hmem
    exact hmem.symm

theorem eq_or_mem_of_mem_putNew {collection : Keyed key} {item other : α}
    (hmem : other ∈ (collection.putNew item).items) : other = item ∨ other ∈ collection.items := by
  by_cases hkey : key item ∈ collection.keys
  · rw [items_putNew_of_mem hkey] at hmem
    exact Or.inr hmem
  · rw [items_putNew_of_not_mem hkey, List.mem_append, List.mem_singleton] at hmem
    exact hmem.symm

theorem isSome_find?_iff {collection : Keyed key} {k : κ} :
    (collection.find? k).isSome = true ↔ k ∈ collection.keys := by
  rw [Option.isSome_iff_exists, mem_keys_iff]
  exact exists_congr fun item => find?_eq_some_iff

theorem find?_put (collection : Keyed key) (item : α) (k : κ) :
    (collection.put item).find? k = if key item = k then some item else collection.find? k := by
  split
  · next hkey => exact find?_eq_some_iff.2 ⟨mem_put_self collection item, hkey⟩
  · next hkey =>
    refine Option.ext fun other => ?_
    rw [find?_eq_some_iff, find?_eq_some_iff]
    constructor
    · rintro ⟨hmem, rfl⟩
      rcases eq_or_mem_of_mem_put hmem with rfl | hmem
      · exact absurd rfl hkey
      · exact ⟨hmem, rfl⟩
    · rintro ⟨hmem, rfl⟩
      exact ⟨mem_put_of_ne hmem (Ne.symm hkey), rfl⟩

theorem contains_eq_isSome (collection : Keyed key) (k : κ) :
    collection.contains k = (collection.find? k).isSome := by
  rw [Bool.eq_iff_iff, contains_iff, isSome_find?_iff]

theorem find?_foldl_put (collection : Keyed key) (items : List α) (k : κ) :
    (items.foldl put collection).find? k =
      (items.reverse.find? fun item => key item = k).or (collection.find? k) := by
  induction items generalizing collection with
  | nil => rfl
  | cons item items ih =>
    rw [List.foldl_cons, ih, find?_put, List.reverse_cons, List.find?_append, List.find?_singleton,
      Option.or_assoc]
    simp only [decide_eq_true_eq]
    split <;> rfl

theorem find?_ofList (items : List α) (k : κ) :
    (ofList key items).find? k = items.reverse.find? fun item => key item = k :=
  (find?_foldl_put empty items k).trans Option.or_none

theorem find?_putNew (collection : Keyed key) (item : α) (k : κ) :
    (collection.putNew item).find? k =
      (collection.find? k).or (if key item = k then some item else none) := by
  by_cases hmem : key item ∈ collection.keys
  · have hsame : (collection.putNew item).find? k = collection.find? k := by
      rw [find?, items_putNew_of_mem hmem, find?]
    rw [hsame]
    split
    · next hkey =>
      obtain ⟨found, hfound⟩ := Option.isSome_iff_exists.1 (isSome_find?_iff.2 (hkey ▸ hmem))
      rw [hfound, Option.some_or]
    · rw [Option.or_none]
  · rw [find?, items_putNew_of_not_mem hmem, List.find?_append, List.find?_singleton, ← find?]
    simp only [decide_eq_true_eq]

theorem find?_remove (collection : Keyed key) (k other : κ) :
    (collection.remove k).find? other = if other = k then none else collection.find? other := by
  refine Option.ext fun item => ?_
  rw [find?_eq_some_iff, remove, List.mem_filter, decide_eq_true_eq]
  split
  · next hother =>
    refine iff_of_false ?_ (Option.some_ne_none item).symm
    rintro ⟨⟨-, hne⟩, hkey⟩
    exact hne (hkey.trans hother)
  · next hother =>
    rw [find?_eq_some_iff]
    constructor
    · rintro ⟨⟨hmem, -⟩, hkey⟩
      exact ⟨hmem, hkey⟩
    · rintro ⟨hmem, hkey⟩
      exact ⟨⟨hmem, fun hsame => hother (hkey.symm.trans hsame)⟩, hkey⟩

theorem find?_adjust (collection : Keyed key) (k other : κ) (change : α → α) :
    (collection.adjust k change).find? other =
      (collection.find? other).map (adjustItem key k change) := by
  rw [find?, adjust, List.find?_map, find?]
  simp only [Function.comp_def, key_adjustItem]

theorem keys_adjust (collection : Keyed key) (k : κ) (change : α → α) :
    (collection.adjust k change).keys = collection.keys :=
  map_map_key_eq fun item _ => key_adjustItem k change item

/-- The items are what is found under their keys. -/
theorem filterMap_find?_keys (collection : Keyed key) :
    collection.keys.filterMap collection.find? = collection.items := by
  rw [keys, List.filterMap_map]
  refine (List.filterMap_congr fun item hmem => ?_).trans List.filterMap_some
  exact find?_eq_some_iff.2 ⟨hmem, rfl⟩

theorem items_adjustAt {collection : Keyed key} {index : Nat} {item : α} {change : α → α}
    (hitem : collection.items[index]? = some item) (hkey : key (change item) = key item) :
    (collection.adjustAt index change).items = collection.items.set index (change item) := by
  obtain ⟨hindex, rfl⟩ := List.getElem?_eq_some_iff.1 hitem
  refine List.ext_getElem? fun other => ?_
  rw [adjustAt, List.getElem?_modify, List.getElem?_set]
  by_cases hother : index = other
  · subst hother
    rw [if_pos rfl, if_pos hindex, hitem]
    simp [adjustItem, hkey]
  · simp [hother]

/-- No other item has the key of the item at an index. -/
theorem adjustAt_eq_adjust {collection : Keyed key} {index : Nat} {item : α} {change : α → α}
    (hitem : collection.items[index]? = some item) :
    collection.adjustAt index change = collection.adjust (key item) change := by
  refine eq_of_items_eq (List.ext_getElem? fun other => ?_)
  rw [adjustAt, adjust, List.getElem?_modify, List.getElem?_map]
  cases hfound : collection.items[other]? with
  | none => rfl
  | some found =>
    refine congrArg some ?_
    by_cases hother : index = other
    · subst hother
      obtain rfl := Option.some.inj (hitem.symm.trans hfound)
      exact if_pos rfl
    · have hne : key found ≠ key item := by
        intro hkey
        have hbound : index < (collection.items.map key).length := by
          rw [List.length_map]
          exact (List.getElem?_eq_some_iff.1 hitem).1
        refine hother ((List.getElem?_inj hbound collection.distinct).1 ?_)
        rw [List.getElem?_map, List.getElem?_map, hitem, hfound, Option.map_some, Option.map_some,
          hkey]
      exact (if_neg hother).trans (if_neg fun hboth => hne hboth.1).symm

theorem items_foldl_put (collection : Keyed key) {items : List α}
    (hdistinct : ((collection.items ++ items).map key).Nodup) :
    (items.foldl put collection).items = collection.items ++ items := by
  induction items generalizing collection with
  | nil => simp
  | cons item rest ih =>
    have hfresh : key item ∉ collection.keys := by
      rw [List.map_append, List.nodup_append] at hdistinct
      intro hmem
      exact hdistinct.2.2 _ hmem _ (List.mem_map_of_mem (List.mem_cons_self ..)) rfl
    have hput := items_put_of_not_mem hfresh
    rw [List.foldl_cons, ih _ (by rwa [hput, List.append_assoc]), hput, List.append_assoc,
      List.singleton_append]

theorem items_ofList {items : List α} (hdistinct : (items.map key).Nodup) :
    (ofList key items).items = items :=
  items_foldl_put empty hdistinct

end Keyed

end ApiManual
