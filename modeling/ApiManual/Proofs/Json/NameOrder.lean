import ApiManual.Json.Shape
import Mathlib.Data.List.Perm.Basic
import Mathlib.Data.List.Nodup

/-!
# Members in the order of their names

A canonical tree has the members of every object in the order of their names. Entries with distinct
names are only reordered by that, and what stands under a name stays. The order is described for
entries of any kind, so that a collection can be followed through its JSON.
-/

namespace ApiManual

section Entries

variable {α β : Type}

/-- Puts an entry before the first with a greater name; an equal name loses its entry. -/
def putByName (name : String) (value : β) : List (String × β) → List (String × β)
  | [] => [(name, value)]
  | (k, v) :: rest =>
    if name < k then (name, value) :: (k, v) :: rest
    else if name = k then (name, value) :: rest
    else (k, v) :: putByName name value rest

/-- Entries with distinct names, in the order of the names. -/
def inNameOrder (entries : List (String × β)) : List (String × β) :=
  entries.foldl (fun done entry => putByName entry.1 entry.2 done) []

theorem putByName_perm {name : String} (value : β) {entries : List (String × β)}
    (hfresh : name ∉ entries.map (·.1)) :
    (putByName name value entries).Perm ((name, value) :: entries) := by
  induction entries with
  | nil => exact List.Perm.refl _
  | cons entry rest ih =>
    obtain ⟨k, v⟩ := entry
    rw [List.map_cons, List.mem_cons, not_or] at hfresh
    rw [putByName]
    by_cases hless : name < k
    · rw [if_pos hless]
    · rw [if_neg hless, if_neg hfresh.1]
      exact ((ih hfresh.2).cons (k, v)).trans (List.Perm.swap ..)

theorem foldl_putByName_perm {done entries : List (String × β)}
    (hdistinct : ((done ++ entries).map (·.1)).Nodup) :
    (entries.foldl (fun done entry => putByName entry.1 entry.2 done) done).Perm
      (done ++ entries) := by
  induction entries generalizing done with
  | nil => simp
  | cons entry rest ih =>
    have hfresh : entry.1 ∉ done.map (·.1) := by
      intro hmem
      rw [List.map_append, List.nodup_append] at hdistinct
      exact hdistinct.2.2 _ hmem _ (List.mem_map_of_mem (List.mem_cons_self ..)) rfl
    have hput := putByName_perm entry.2 hfresh
    have hmiddle : (putByName entry.1 entry.2 done ++ rest).Perm (done ++ entry :: rest) := by
      calc
        (putByName entry.1 entry.2 done ++ rest).Perm (entry :: done ++ rest) :=
          hput.append_right rest
        List.Perm _ (done ++ entry :: rest) := List.perm_middle.symm
    exact (ih ((hmiddle.map (·.1)).nodup_iff.2 hdistinct)).trans hmiddle

theorem inNameOrder_perm {entries : List (String × β)} (hdistinct : (entries.map (·.1)).Nodup) :
    (inNameOrder entries).Perm entries :=
  foldl_putByName_perm hdistinct

theorem putByName_map (name : String) (value : β) (write : β → α) (entries : List (String × β)) :
    putByName name (write value) (entries.map fun entry => (entry.1, write entry.2)) =
      (putByName name value entries).map fun entry => (entry.1, write entry.2) := by
  induction entries with
  | nil => rfl
  | cons entry rest ih =>
    rw [List.map_cons, putByName, putByName, ih]
    split
    · rfl
    · split <;> rfl

end Entries

namespace Json

theorem sortedItems_eq_map (items : List Json) : sortedItems items = items.map sorted := by
  induction items with
  | nil => rfl
  | cons item rest ih => rw [sortedItems, ih, List.map_cons]

theorem putSorted_eq_putByName (key : String) (value : Json) (members : List (String × Json)) :
    putSorted key value members = putByName key value members := by
  induction members with
  | nil => rfl
  | cons entry rest ih => rw [putSorted, putByName, ih]

/-- Members that are written from entries stand in the order of the entries' names. -/
theorem sortedMembers_map {β : Type} (write : β → Json) (done entries : List (String × β)) :
    sortedMembers (done.map fun entry => (entry.1, (write entry.2).sorted))
        (entries.map fun entry => (entry.1, write entry.2)) =
      (entries.foldl (fun done entry => putByName entry.1 entry.2 done) done).map
        fun entry => (entry.1, (write entry.2).sorted) := by
  induction entries generalizing done with
  | nil => rfl
  | cons entry rest ih =>
    rw [List.map_cons, sortedMembers, putSorted_eq_putByName, List.foldl_cons, ← ih]
    congr 1
    exact putByName_map entry.1 entry.2 (fun value => (write value).sorted) done

theorem sorted_object_map {β : Type} (write : β → Json) (entries : List (String × β)) :
    (object (entries.map fun entry => (entry.1, write entry.2))).sorted =
      object ((inNameOrder entries).map fun entry => (entry.1, (write entry.2).sorted)) := by
  rw [sorted, inNameOrder, ← sortedMembers_map write []]
  rfl

theorem lookup_eq_some_iff {members : List (String × Json)} (hdistinct : (members.map (·.1)).Nodup)
    {name : String} {json : Json} : members.lookup name = some json ↔ (name, json) ∈ members := by
  induction members with
  | nil => simp
  | cons entry rest ih =>
    obtain ⟨k, v⟩ := entry
    rw [List.map_cons, List.nodup_cons] at hdistinct
    rw [List.lookup_cons]
    by_cases hname : name = k
    · subst hname
      have hother : (name, json) ∉ rest := fun hmem =>
        hdistinct.1 (List.mem_map.2 ⟨_, hmem, rfl⟩)
      simp [hother, eq_comm]
    · have hne : (name == k) = false := beq_eq_false_iff_ne.2 hname
      simp [hne, hname, ih hdistinct.2]

theorem lookup_congr {members others : List (String × Json)}
    (hdistinct : (members.map (·.1)).Nodup) (hperm : members.Perm others) (name : String) :
    members.lookup name = others.lookup name := by
  refine Option.ext fun json => ?_
  rw [lookup_eq_some_iff hdistinct, lookup_eq_some_iff ((hperm.map _).nodup_iff.1 hdistinct),
    hperm.mem_iff]

theorem lookup_map (change : Json → Json) (members : List (String × Json)) (name : String) :
    (members.map fun entry => (entry.1, change entry.2)).lookup name =
      (members.lookup name).map change := by
  induction members with
  | nil => rfl
  | cons entry rest ih =>
    rw [List.map_cons, List.lookup_cons, List.lookup_cons, ih]
    split <;> rfl

theorem sorted_object {members : List (String × Json)} (hdistinct : (members.map (·.1)).Nodup) :
    ∃ ordered, (object members).sorted = object ordered ∧ (ordered.map (·.1)).Nodup ∧
      ∀ name, ordered.lookup name = (members.lookup name).map sorted := by
  have hmap := sorted_object_map id members
  have hid : (members.map fun entry => (entry.1, id entry.2)) = members := List.map_id members
  rw [hid] at hmap
  have hperm := inNameOrder_perm hdistinct
  refine ⟨_, hmap, ?_, fun name => ?_⟩
  · rw [List.map_map]
    exact (hperm.map (·.1)).nodup_iff.2 hdistinct
  · have hlookup := lookup_map sorted (inNameOrder members) name
    rwa [lookup_congr ((hperm.map (·.1)).nodup_iff.2 hdistinct) hperm] at hlookup

theorem length_filter_le_one {members : List (String × Json)}
    (hdistinct : (members.map (·.1)).Nodup) (name : String) :
    (members.filter (·.1 == name)).length ≤ 1 := by
  calc
    (members.filter (·.1 == name)).length = (members.map (·.1)).count name := by
      rw [List.count, List.countP_map, List.countP_eq_length_filter]
      rfl
    _ ≤ 1 := List.nodup_iff_count_le_one.1 hdistinct name

/-- A record that was written with distinct fields is read field by field, in canonical form. -/
theorem record?_sorted (names : List String) {members : List (String × Json)}
    (hdistinct : (members.map (·.1)).Nodup) :
    (object members).sorted.record? names = some fun name => (members.lookup name).map sorted := by
  obtain ⟨ordered, hordered, hnodup, hlookup⟩ := sorted_object hdistinct
  have honce : names.all (fun name => (ordered.filter (·.1 == name)).length ≤ 1) = true := by
    rw [List.all_eq_true]
    intro name _
    rw [decide_eq_true_eq]
    exact length_filter_le_one hnodup name
  rw [hordered, record?, if_pos honce]
  congr 1
  funext name
  exact hlookup name

end Json

end ApiManual
