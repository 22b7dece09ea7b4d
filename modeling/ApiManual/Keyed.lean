/-!
# Ordered collections with distinct keys

A `Keyed` collection holds items in order, no two of them with the same key. `put` replaces the item
with the same key where it stands and appends an item with a new key, so the order is that of the
first insertion of each key. The registry of endpoints, the headers of a message, the fields of a
form and the table of fragments are all collections of this kind and differ in the key alone.
-/

namespace ApiManual

variable {κ α : Type} [DecidableEq κ]

structure Keyed (key : α → κ) where
  items : List α
  distinct : (items.map key).Nodup

namespace Keyed

variable {key : α → κ}

def empty : Keyed key := ⟨[], List.nodup_nil⟩

instance : Inhabited (Keyed key) := ⟨empty⟩

def keys (collection : Keyed key) : List κ :=
  collection.items.map key

def size (collection : Keyed key) : Nat :=
  collection.items.length

def isEmpty (collection : Keyed key) : Bool :=
  collection.items.isEmpty

def find? (collection : Keyed key) (k : κ) : Option α :=
  collection.items.find? fun item => key item = k

def contains (collection : Keyed key) (k : κ) : Bool :=
  collection.items.any fun item => key item = k

/-- Replaces every item that has the key of `item`. -/
def replaceItem (key : α → κ) (item : α) (items : List α) : List α :=
  items.map fun old => if key old = key item then item else old

omit [DecidableEq κ] in
theorem map_map_key_eq {items : List α} {f : α → α} (same : ∀ item ∈ items, key (f item) = key item) :
    (items.map f).map key = items.map key := by
  rw [List.map_map]
  exact List.map_congr_left same

theorem map_key_replaceItem (item : α) (items : List α) :
    (replaceItem key item items).map key = items.map key := by
  refine map_map_key_eq fun old _ => ?_
  split
  · next h => exact h.symm
  · rfl

theorem contains_iff {collection : Keyed key} {k : κ} :
    collection.contains k = true ↔ k ∈ collection.keys := by
  simp [contains, keys]

omit [DecidableEq κ] in
theorem nodup_append_new {items : List α} {item : α} (distinct : (items.map key).Nodup)
    (fresh : key item ∉ items.map key) : ((items ++ [item]).map key).Nodup := by
  rw [List.map_append, List.map_singleton, List.nodup_append]
  refine ⟨distinct, by simp, ?_⟩
  intro a ha b hb
  rw [List.mem_singleton] at hb
  rintro rfl
  exact fresh (hb ▸ ha)

/-- Replaces the item with the same key where it stands, or appends the item. -/
def put (collection : Keyed key) (item : α) : Keyed key :=
  if h : collection.contains (key item) then
    ⟨replaceItem key item collection.items, by
      rw [map_key_replaceItem]; exact collection.distinct⟩
  else
    ⟨collection.items ++ [item],
      nodup_append_new collection.distinct (mt contains_iff.2 h)⟩

/-- Appends the item unless its key is already there. -/
def putNew (collection : Keyed key) (item : α) : Keyed key :=
  if h : collection.contains (key item) then collection
  else
    ⟨collection.items ++ [item],
      nodup_append_new collection.distinct (mt contains_iff.2 h)⟩

/-- The collection without the item at a key; the others keep their order. -/
def remove (collection : Keyed key) (k : κ) : Keyed key :=
  ⟨collection.items.filter fun item => key item ≠ k,
    collection.distinct.sublist (List.filter_sublist.map key)⟩

/-- Changes an item that has the key `k`, unless the change would give it another key. -/
def adjustItem (key : α → κ) (k : κ) (change : α → α) (item : α) : α :=
  if key item = k ∧ key (change item) = k then change item else item

theorem key_adjustItem (k : κ) (change : α → α) (item : α) :
    key (adjustItem key k change item) = key item := by
  unfold adjustItem
  split
  · next h => exact h.2.trans h.1.symm
  · rfl

/-- Changes the item at a key where it stands. -/
def adjust (collection : Keyed key) (k : κ) (change : α → α) : Keyed key :=
  ⟨collection.items.map (adjustItem key k change), by
    rw [map_map_key_eq fun item _ => key_adjustItem k change item]
    exact collection.distinct⟩

theorem map_key_modify (change : α → α) (items : List α) (index : Nat) :
    (items.modify index fun item => adjustItem key (key item) change item).map key =
      items.map key := by
  refine List.ext_getElem? fun other => ?_
  rw [List.getElem?_map, List.getElem?_modify, List.getElem?_map]
  cases items[other]? with
  | none => rfl
  | some item =>
    refine congrArg some ?_
    dsimp only
    split
    · exact key_adjustItem (key item) change item
    · rfl

/-- Changes the item at an index. -/
def adjustAt (collection : Keyed key) (index : Nat) (change : α → α) : Keyed key :=
  ⟨collection.items.modify index fun item => adjustItem key (key item) change item, by
    rw [map_key_modify change collection.items index]
    exact collection.distinct⟩

def ofList (key : α → κ) (items : List α) : Keyed key :=
  items.foldl put empty

omit [DecidableEq κ] in
@[simp]
theorem items_empty : (empty : Keyed key).items = [] := rfl

theorem items_put_of_mem {collection : Keyed key} {item : α} (h : key item ∈ collection.keys) :
    (collection.put item).items = replaceItem key item collection.items := by
  rw [put, dif_pos (contains_iff.2 h)]

theorem items_put_of_not_mem {collection : Keyed key} {item : α}
    (h : key item ∉ collection.keys) :
    (collection.put item).items = collection.items ++ [item] := by
  rw [put, dif_neg (mt contains_iff.1 h)]

theorem keys_put_of_mem {collection : Keyed key} {item : α} (h : key item ∈ collection.keys) :
    (collection.put item).keys = collection.keys := by
  rw [keys, items_put_of_mem h, map_key_replaceItem, keys]

theorem keys_put_of_not_mem {collection : Keyed key} {item : α}
    (h : key item ∉ collection.keys) :
    (collection.put item).keys = collection.keys ++ [key item] := by
  rw [keys, items_put_of_not_mem h, List.map_append, List.map_singleton, keys]

theorem keys_remove (collection : Keyed key) (k : κ) :
    (collection.remove k).keys = collection.keys.filter (· ≠ k) := by
  simp [remove, keys, List.filter_map, Function.comp_def]

end Keyed

/-- Texts with values, one value for each text. -/
abbrev Dict (β : Type) := Keyed (fun entry : String × β => entry.1)

end ApiManual
