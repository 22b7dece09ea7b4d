import ApiManual.Annotation.Block
import ApiManual.Annotation.Draft

/-!
# Reading a block

The tags of a block are read first to last. A tag that uses a fragment puts the tags of the fragment at
the end of what is left to read, so they are read after the block's own tags, and the tags they splice
in turn after all of those. Every spliced tag remembers the fragments it came through and none of them
is spliced into itself, so the number of fragments a tag can still use goes down with every splice and
the reading ends.
-/

namespace ApiManual

/-- A draft in the making, and the warnings so far. -/
structure Reading where
  draft : Draft
  warnings : List Warning
deriving DecidableEq, Repr

/-- What reading a block gives: an endpoint's draft, if the block describes one, and warnings. -/
structure BlockOutcome where
  draft : Option Draft
  warnings : List Warning
deriving DecidableEq, Repr

namespace Reading

def take (table : FragmentTable) (reading : Reading) (pending : PendingTag) : Reading :=
  let complaints := pending.complaints table reading.draft.description.isSome
  { draft := pending.apply reading.draft
    warnings := reading.warnings
      ++ complaints.map fun complaint => ⟨complaint, reading.draft.file, pending.tag.line⟩ }

/-- How many fragments of the table are not in a chain yet. -/
def unused (table : FragmentTable) (chain : List String) : Nat :=
  table.keys.countP fun name => !chain.contains name

def mostTags (table : FragmentTable) : Nat :=
  ((table.items.map fun fragment => (TagLine.ofText id fragment.content).length).max?).getD 0

/-- A bound on how many tags come of a pending tag, itself included. -/
def weight (table : FragmentTable) (pending : PendingTag) : Nat :=
  Nat.pow (mostTags table + 1) (unused table pending.chain)

def totalWeight (table : FragmentTable) (queue : List PendingTag) : Nat :=
  queue.foldr (fun pending total => weight table pending + total) 0

theorem length_group (lineOf lineOf' : Nat → Nat) (offset offset' : Nat)
    (lines : List (List Char)) :
    (TagLine.group lineOf offset lines).length = (TagLine.group lineOf' offset' lines).length := by
  induction lines generalizing offset offset' with
  | nil => rfl
  | cons line rest ih =>
    unfold TagLine.group
    split
    · simp only [List.length_cons, Nat.add_right_cancel_iff]
      exact ih ..
    · exact ih ..

theorem length_ofText_le_mostTags {table : FragmentTable} {fragment : Fragment}
    (mem : fragment ∈ table.items) (lineOf : Nat → Nat) :
    (TagLine.ofText lineOf fragment.content).length ≤ mostTags table := by
  have same : (TagLine.ofText lineOf fragment.content).length =
      (TagLine.ofText id fragment.content).length := length_group ..
  have mem' : (TagLine.ofText id fragment.content).length ∈
      table.items.map fun fragment => (TagLine.ofText id fragment.content).length :=
    List.mem_map.2 ⟨fragment, mem, rfl⟩
  unfold mostTags
  rw [same]
  cases greatest : (table.items.map fun fragment =>
      (TagLine.ofText id fragment.content).length).max? with
  | none => simp [List.max?_eq_none_iff] at greatest; simp [greatest] at mem
  | some n => exact (List.max?_eq_some_iff.1 greatest).2 _ mem'

theorem countP_lt_countP {α : Type} {p q : α → Bool} {list : List α} {x : α} (mem : x ∈ list)
    (le : ∀ y ∈ list, p y = true → q y = true) (gained : q x = true) (lost : p x = false) :
    list.countP p < list.countP q := by
  induction list with
  | nil => simp at mem
  | cons y rest ih =>
    have rest_le : rest.countP p ≤ rest.countP q :=
      List.countP_mono_left fun z hz => le z (List.mem_cons_of_mem _ hz)
    rcases List.mem_cons.1 mem with rfl | mem
    · simp only [List.countP_cons, gained, lost]
      simp
      omega
    · have rest_lt := ih mem fun z hz => le z (List.mem_cons_of_mem _ hz)
      rw [List.countP_cons, List.countP_cons]
      by_cases hp : p y = true
      · rw [if_pos hp, if_pos (le y (List.mem_cons_self ..) hp)]
        exact Nat.add_lt_add_right rest_lt 1
      · rw [if_neg hp]
        exact Nat.lt_of_lt_of_le rest_lt (Nat.le_add_right _ _)

/-- Going through one more fragment leaves fewer to use. -/
theorem unused_append_lt {table : FragmentTable} {chain : List String} {name : String}
    (known : name ∈ table.keys) (fresh : chain.contains name = false) :
    unused table (chain ++ [name]) < unused table chain := by
  refine countP_lt_countP known ?_ (by simp_all) (by simp)
  intro other _ h
  simp_all

theorem totalWeight_le {table : FragmentTable} {bound : Nat} {queue : List PendingTag}
    (le : ∀ pending ∈ queue, weight table pending ≤ bound) :
    totalWeight table queue ≤ queue.length * bound := by
  induction queue with
  | nil => exact Nat.zero_le _
  | cons pending rest ih =>
    rw [List.length_cons, Nat.succ_mul, Nat.add_comm]
    exact Nat.add_le_add (le pending (List.mem_cons_self ..))
      (ih fun other mem => le other (List.mem_cons_of_mem _ mem))

/-- Splicing replaces a tag by tags that weigh less than it all together. -/
theorem totalWeight_splice_lt (table : FragmentTable) (pending : PendingTag) :
    totalWeight table (pending.splice table) < weight table pending := by
  have positive : 0 < weight table pending := Nat.pow_pos (Nat.succ_pos _)
  unfold PendingTag.splice
  split
  · next rest _ =>
    simp only
    split
    · next fragment found =>
      split
      · simpa [totalWeight] using positive
      · next fresh =>
        have mem := List.mem_of_find?_eq_some found
        have named : fragment.name = PendingTag.usedName rest := by
          simpa using List.find?_some found
        have known : PendingTag.usedName rest ∈ table.keys :=
          List.mem_map.2 ⟨fragment, mem, named⟩
        have fewer := unused_append_lt known (by simpa using fresh)
        have length := length_ofText_le_mostTags mem (fun _ => pending.tag.line)
        generalize TagLine.ofText (fun _ => pending.tag.line) fragment.content = tags at length
        let left := unused table (pending.chain ++ [PendingTag.usedName rest])
        have each : ∀ other ∈ tags.map fun tag =>
              (⟨tag, pending.chain ++ [PendingTag.usedName rest]⟩ : PendingTag),
            weight table other ≤ Nat.pow (mostTags table + 1) left := by
          intro other found
          obtain ⟨tag, _, rfl⟩ := List.mem_map.1 found
          exact Nat.le_refl _
        calc
          _ ≤ (tags.map _).length * Nat.pow (mostTags table + 1) left := totalWeight_le each
          _ ≤ mostTags table * Nat.pow (mostTags table + 1) left :=
              Nat.mul_le_mul_right _ (by rw [List.length_map]; exact length)
          _ < (mostTags table + 1) * Nat.pow (mostTags table + 1) left :=
              Nat.mul_lt_mul_of_pos_right (Nat.lt_succ_self _) (Nat.pow_pos (Nat.succ_pos _))
          _ = Nat.pow (mostTags table + 1) (left + 1) := Nat.mul_comm _ _
          _ ≤ weight table pending := Nat.pow_le_pow_right (Nat.succ_pos _) fewer
    · simpa [totalWeight] using positive
  · simpa [totalWeight] using positive

theorem totalWeight_append (table : FragmentTable) (a b : List PendingTag) :
    totalWeight table (a ++ b) = totalWeight table a + totalWeight table b := by
  induction a with
  | nil => exact (Nat.zero_add _).symm
  | cons pending rest ih =>
    change weight table pending + totalWeight table (rest ++ b) =
      weight table pending + totalWeight table rest + totalWeight table b
    rw [ih, Nat.add_assoc]

/-- Reads what is left of a block. The block describes no endpoint when an `@api` tag lacks a path. -/
def run (table : FragmentTable) (reading : Reading) : List PendingTag → BlockOutcome
  | [] => ⟨some reading.draft, reading.warnings⟩
  | pending :: rest =>
    let after := reading.take table pending
    if pending.endsBlock then ⟨none, after.warnings⟩
    else run table after (rest ++ pending.splice table)
termination_by queue => totalWeight table queue
decreasing_by
  rw [totalWeight_append, Nat.add_comm]
  exact Nat.add_lt_add_right (totalWeight_splice_lt table pending) _

end Reading

namespace Block

def ownTags (block : Block) : List PendingTag :=
  (TagLine.ofText (block.line + ·) block.text).map fun tag => ⟨tag, []⟩

/-- Reads a block. A block that announces no endpoint gives nothing at all. -/
def read (block : Block) (file : String) (table : FragmentTable) : BlockOutcome :=
  if block.announcesEndpoint then
    Reading.run table ⟨Draft.blank file block.line, []⟩ block.ownTags
  else ⟨none, []⟩

end Block

end ApiManual
