import ApiManual.Json.Reader
import Mathlib.Data.String.Basic

/-!
# Canonical trees

Sorting the members of the objects of a tree changes nothing in its values, so it keeps a tree
readable. A readable tree is the same as itself; an unreadable one is the same as nothing. Which of two
trees is compared with the other does not matter. No key of a sorted object stands twice.
-/

namespace ApiManual

theorem Number.same_self (number : Number) : number.same number = true := by
  cases number <;> simp [Number.same, Binary64.same]

theorem Number.same_comm (a b : Number) : a.same b = b.same a := by
  cases a <;> cases b <;>
    simp only [Number.same, Binary64.same, Bool.beq_comm, Bool.and_comm]

namespace Json

theorem mem_putSorted {key : String} {value : Json} {members : List (String × Json)}
    {entry : String × Json} (hentry : entry ∈ putSorted key value members) :
    entry = (key, value) ∨ entry ∈ members := by
  fun_induction putSorted key value members with
  | case1 => exact Or.inl (List.mem_singleton.1 hentry)
  | case2 => exact List.mem_cons.1 hentry
  | case3 => exact (List.mem_cons.1 hentry).imp_right (List.mem_cons_of_mem _)
  | case4 k v rest _ _ ih =>
    rcases List.mem_cons.1 hentry with rfl | hrest
    · exact Or.inr (List.mem_cons_self ..)
    · exact (ih hrest).imp_right (List.mem_cons_of_mem _)

theorem readableMembers_iff {members : List (String × Json)} :
    readableMembers members = true ↔ ∀ entry ∈ members, entry.2.readable = true := by
  induction members with
  | nil => simp [readableMembers]
  | cons entry rest ih => simp [readableMembers, ih]

mutual

theorem readable_sorted : ∀ {json : Json}, json.readable = true → json.sorted.readable = true
  | .null, _ | .bool _, _ | .number _, _ | .string _, _ => by simp [sorted, readable]
  | .unreadable, hreadable => by simp [readable] at hreadable
  | .array items, hreadable => by
    simp only [sorted, readable] at hreadable ⊢
    exact readable_sortedItems hreadable
  | .object members, hreadable => by
    simp only [sorted, readable] at hreadable ⊢
    exact readable_sortedMembers hreadable (by simp [readableMembers])

theorem readable_sortedItems : ∀ {items : List Json}, readableItems items = true →
    readableItems (sortedItems items) = true
  | [], _ => by simp [sortedItems, readableItems]
  | item :: rest, hreadable => by
    simp only [readableItems, Bool.and_eq_true, sortedItems] at hreadable ⊢
    exact ⟨readable_sorted hreadable.1, readable_sortedItems hreadable.2⟩

theorem readable_sortedMembers : ∀ {done members : List (String × Json)},
    readableMembers members = true → readableMembers done = true →
      readableMembers (sortedMembers done members) = true
  | _, [], _, hdone => by simpa [sortedMembers] using hdone
  | done, (key, value) :: rest, hreadable, hdone => by
    simp only [readableMembers, Bool.and_eq_true, sortedMembers] at hreadable ⊢
    refine readable_sortedMembers hreadable.2 (readableMembers_iff.2 fun entry hentry => ?_)
    rcases mem_putSorted hentry with rfl | hold
    · exact readable_sorted hreadable.1
    · exact readableMembers_iff.1 hdone entry hold

end

mutual

theorem same_self : ∀ {json : Json}, json.readable = true → json.same json = true
  | .null, _ | .bool _, _ | .string _, _ => by simp [same]
  | .number value, _ => by simp [same, Number.same_self]
  | .unreadable, hreadable => by simp [readable] at hreadable
  | .array items, hreadable => by
    simp only [readable, same] at hreadable ⊢
    exact sameItems_self hreadable
  | .object members, hreadable => by
    simp only [readable, same] at hreadable ⊢
    exact sameMembers_self hreadable

theorem sameItems_self : ∀ {items : List Json}, readableItems items = true →
    sameItems items items = true
  | [], _ => by simp [sameItems]
  | item :: rest, hreadable => by
    simp only [readableItems, Bool.and_eq_true, sameItems] at hreadable ⊢
    exact ⟨same_self hreadable.1, sameItems_self hreadable.2⟩

theorem sameMembers_self : ∀ {members : List (String × Json)}, readableMembers members = true →
    sameMembers members members = true
  | [], _ => by simp [sameMembers]
  | (key, value) :: rest, hreadable => by
    simp only [readableMembers, Bool.and_eq_true, sameMembers, beq_self_eq_true, true_and]
      at hreadable ⊢
    exact ⟨same_self hreadable.1, sameMembers_self hreadable.2⟩

end

mutual

theorem same_comm : ∀ a b : Json, a.same b = b.same a
  | .null, b | .unreadable, b => by cases b <;> rfl
  | .bool _, b | .string _, b => by cases b <;> simp only [same, Bool.beq_comm]
  | .number _, b => by cases b <;> simp only [same, Number.same_comm]
  | .array items, b => by
    cases b with
    | array others => exact sameItems_comm items others
    | _ => rfl
  | .object members, b => by
    cases b with
    | object others => exact sameMembers_comm members others
    | _ => rfl

theorem sameItems_comm : ∀ a b : List Json, sameItems a b = sameItems b a
  | [], [] | [], _ :: _ | _ :: _, [] => by simp only [sameItems]
  | item :: rest, other :: others => by
    rw [sameItems, sameItems, same_comm item other, sameItems_comm rest others]

theorem sameMembers_comm : ∀ a b : List (String × Json), sameMembers a b = sameMembers b a
  | [], [] | [], _ :: _ | _ :: _, [] => by simp only [sameMembers]
  | (key, value) :: rest, (other, found) :: others => by
    rw [sameMembers, sameMembers, Bool.beq_comm, same_comm value found,
      sameMembers_comm rest others]

end

theorem keys_eq_of_sameMembers {a b : List (String × Json)} (hsame : sameMembers a b = true) :
    a.map (·.1) = b.map (·.1) := by
  induction a generalizing b with
  | nil =>
    cases b with
    | nil => rfl
    | cons => simp [sameMembers] at hsame
  | cons first rest ih =>
    cases b with
    | nil => simp [sameMembers] at hsame
    | cons other others =>
      simp only [sameMembers, Bool.and_eq_true, beq_iff_eq] at hsame
      rw [List.map_cons, List.map_cons, hsame.1.1, ih hsame.2]

/-! ### Keys of sorted objects -/

/-- Keys in ascending order, so that none stands twice. -/
def Ascending (members : List (String × Json)) : Prop :=
  (members.map (·.1)).Pairwise (· < ·)

theorem Ascending.nodup {members : List (String × Json)} (hascending : Ascending members) :
    (members.map (·.1)).Nodup :=
  List.Pairwise.imp ne_of_lt hascending

theorem Ascending.putSorted {members : List (String × Json)} (hascending : Ascending members)
    (key : String) (value : Json) : Ascending (putSorted key value members) := by
  fun_induction Json.putSorted key value members with
  | case1 => exact List.pairwise_singleton ..
  | case2 k v rest hless =>
    refine List.pairwise_cons.2 ⟨fun other hother => ?_, hascending⟩
    rcases List.mem_cons.1 hother with rfl | hrest
    · exact hless
    · exact hless.trans ((List.pairwise_cons.1 hascending).1 other hrest)
  | case3 v rest => exact hascending
  | case4 k v rest hless hne ih =>
    obtain ⟨hfirst, hrest⟩ := List.pairwise_cons.1 hascending
    refine List.pairwise_cons.2 ⟨fun other hother => ?_, ih hrest⟩
    obtain ⟨entry, hentry, rfl⟩ := List.mem_map.1 hother
    rcases mem_putSorted hentry with rfl | hold
    · exact lt_of_le_of_ne (not_lt.1 hless) (Ne.symm hne)
    · exact hfirst entry.1 (List.mem_map_of_mem hold)

theorem Ascending.sortedMembers {done : List (String × Json)} (hdone : Ascending done)
    (members : List (String × Json)) : Ascending (sortedMembers done members) := by
  induction members generalizing done with
  | nil => exact hdone
  | cons member rest ih => exact ih (hdone.putSorted member.1 member.2.sorted)

/-! ### Values of texts -/

theorem readable_of_readValue? {text : String} {json : Json} (hread : readValue? text = some json) :
    json.readable = true := by
  obtain ⟨tree, _, htree⟩ := Option.bind_eq_some_iff.1 hread
  unfold canonical? at htree
  split at htree
  · next hreadable =>
    obtain rfl := Option.some.inj htree
    exact readable_sorted hreadable
  · cases htree

theorem ascending_of_readValue? {text : String} {members : List (String × Json)}
    (hread : readValue? text = some (.object members)) : Ascending members := by
  obtain ⟨tree, _, htree⟩ := Option.bind_eq_some_iff.1 hread
  unfold canonical? at htree
  split at htree
  · have hsorted := Option.some.inj htree
    cases tree with
    | object unordered =>
      obtain rfl := Json.object.inj hsorted
      have hempty : Ascending [] := List.Pairwise.nil
      exact hempty.sortedMembers unordered
    | _ => cases hsorted
  · cases htree

end Json

end ApiManual
