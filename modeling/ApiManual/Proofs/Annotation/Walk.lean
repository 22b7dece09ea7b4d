import ApiManual.Proofs.Annotation.Unrolling
import Mathlib.Data.List.Infix

/-!
# Reading as a walk along a growing queue

A block can be read in rounds: a queue holds every tag queued so far, a position tells how many of
them have been read, and each round reads the tag at the position and queues what it splices in. The
end of the queue moves away while the walk goes on, so nothing in a single round tells that the walk
comes to an end.

It does, because the queue is a beginning of the unrolling of the block at every point, and the
unrolling is a finite list: the chains in it hold distinct names of the table. The main result
`ends_within_unrolling` counts the rounds.
-/

namespace ApiManual

open Unrolling

/-- All tags queued so far, how many of them have been read, and what has come of those. -/
structure Walk where
  queue : List PendingTag
  position : Nat
  reading : Reading

namespace Walk

variable {table : FragmentTable}

def start (block : Block) (file : String) : Walk :=
  ⟨block.ownTags, 0, ⟨Draft.blank file block.line, []⟩⟩

/-- One round: the next walk, or the outcome when the queue is through or a tag ends the block. -/
def step (table : FragmentTable) (walk : Walk) : Walk ⊕ BlockOutcome :=
  match walk.queue[walk.position]? with
  | none => .inr ⟨some walk.reading.draft, walk.reading.warnings⟩
  | some pending =>
    let after := walk.reading.take table pending
    if pending.endsBlock then .inr ⟨none, after.warnings⟩
    else .inl ⟨walk.queue ++ pending.splice table, walk.position + 1, after⟩

/-- At most so many rounds: the walk they lead to, or the outcome when it comes before. -/
def rounds (table : FragmentTable) : Nat → Walk → Walk ⊕ BlockOutcome
  | 0, walk => .inl walk
  | count + 1, walk =>
    match rounds table count walk with
    | .inl reached => reached.step table
    | .inr outcome => .inr outcome

/-! ### One round -/

/-- A round that leads on reads one tag and appends what it splices in. -/
theorem exists_of_step {walk next : Walk} (hstep : walk.step table = .inl next) :
    ∃ pending, walk.queue[walk.position]? = some pending ∧ pending.endsBlock = false ∧
      next = ⟨walk.queue ++ pending.splice table, walk.position + 1,
        walk.reading.take table pending⟩ := by
  unfold step at hstep
  split at hstep
  · cases hstep
  · next pending hnext =>
    split at hstep
    · cases hstep
    · next hends =>
      cases hstep
      exact ⟨pending, hnext, by simpa using hends, rfl⟩

theorem drop_eq_cons {walk : Walk} {pending : PendingTag}
    (hnext : walk.queue[walk.position]? = some pending) :
    walk.queue.drop walk.position = pending :: walk.queue.drop (walk.position + 1) := by
  obtain ⟨hlt, rfl⟩ := List.getElem?_eq_some_iff.1 hnext
  exact List.drop_eq_getElem_cons hlt

/-- What a walk has before it is read the same way after one more round. -/
theorem run_drop_of_step {walk next : Walk} (hstep : walk.step table = .inl next) :
    Reading.run table walk.reading (walk.queue.drop walk.position) =
      Reading.run table next.reading (next.queue.drop next.position) := by
  obtain ⟨pending, hnext, hends, rfl⟩ := exists_of_step hstep
  have hlt := (List.getElem?_eq_some_iff.1 hnext).1
  rw [drop_eq_cons hnext, Reading.run, if_neg (by simp [hends]),
    List.drop_append_of_le_length hlt]

theorem run_drop_of_step_eq_inr {walk : Walk} {outcome : BlockOutcome}
    (hstep : walk.step table = .inr outcome) :
    Reading.run table walk.reading (walk.queue.drop walk.position) = outcome := by
  unfold step at hstep
  split at hstep
  · next hnext =>
    cases hstep
    rw [List.drop_eq_nil_of_le (List.getElem?_eq_none_iff.1 hnext), Reading.run]
  · next pending hnext =>
    split at hstep
    · next hends =>
      cases hstep
      rw [drop_eq_cons hnext, Reading.run, if_pos hends]
    · cases hstep

/-- Reading what a walk has before it gives the outcome that the rounds end with. -/
theorem run_eq_of_rounds {count : Nat} {walk : Walk} :
    (∀ reached, rounds table count walk = .inl reached →
      Reading.run table walk.reading (walk.queue.drop walk.position) =
        Reading.run table reached.reading (reached.queue.drop reached.position)) ∧
    ∀ outcome, rounds table count walk = .inr outcome →
      Reading.run table walk.reading (walk.queue.drop walk.position) = outcome := by
  induction count with
  | zero =>
    refine ⟨fun reached hreached => ?_, fun outcome houtcome => ?_⟩
    · cases hreached
      rfl
    · cases houtcome
  | succ count ih =>
    rw [rounds]
    cases hrounds : rounds table count walk with
    | inl reached =>
      have hsame := ih.1 reached hrounds
      exact ⟨fun next hstep => hsame.trans (run_drop_of_step hstep),
        fun outcome hstep => hsame.trans (run_drop_of_step_eq_inr hstep)⟩
    | inr outcome =>
      refine ⟨fun next hnext => ?_, fun other hother => ?_⟩
      · cases hnext
      · cases hother
        exact ih.2 outcome hrounds

/-! ### The queue at every point of a walk -/

/-- The unrolling is the block's own tags and what the tags of the unrolling splice in. -/
theorem unrolling_eq {own : List PendingTag} (hown : ∀ pending ∈ own, pending.chain = []) :
    unrolling table own = own ++ below table (unrolling table own) := by
  have hlast : level table own (table.size + 1) = [] := level_eq_nil hown (Nat.lt_succ_self _)
  have hbelow : below table (unrolling table own) =
      (List.range (table.size + 1)).flatMap fun depth => level table own (depth + 1) := by
    rw [unrolling, below, List.flatMap_assoc]
    rfl
  calc
    unrolling table own = (List.range (table.size + 2)).flatMap (level table own) := by
      rw [List.range_succ (n := table.size + 1), List.flatMap_append, List.flatMap_singleton,
        hlast, List.append_nil, unrolling]
    _ = own ++ below table (unrolling table own) := by
      rw [List.range_succ_eq_map, List.flatMap_cons, List.flatMap_map, hbelow]
      rfl

/-- What holds after so many rounds that began with a block's own tags: as many tags have been read,
the queue holds the own tags and what the tags read so far have spliced in, and it is a beginning of
the unrolling. -/
structure After (table : FragmentTable) (own : List PendingTag) (count : Nat) (walk : Walk) :
    Prop where
  position : walk.position = count
  read : count ≤ walk.queue.length
  history : walk.queue = own ++ below table (walk.queue.take count)
  inside : walk.queue <+: unrolling table own

variable {own : List PendingTag} {count : Nat}

theorem after_start (block : Block) (file : String) :
    After table block.ownTags 0 (start block file) where
  position := rfl
  read := Nat.zero_le _
  history := by simp [start, below]
  inside := by
    rw [unrolling_eq fun _ => chain_of_mem_ownTags]
    exact List.prefix_append ..

theorem After.step (hown : ∀ pending ∈ own, pending.chain = []) {walk next : Walk}
    (hafter : After table own count walk) (hstep : walk.step table = .inl next) :
    After table own (count + 1) next := by
  obtain ⟨pending, hnext, -, rfl⟩ := exists_of_step hstep
  rw [hafter.position] at hnext
  have hread : count + 1 ≤ walk.queue.length := (List.getElem?_eq_some_iff.1 hnext).1
  have htake : walk.queue.take (count + 1) = walk.queue.take count ++ [pending] := by
    rw [List.take_add_one, hnext, Option.toList_some]
  have hhistory : walk.queue ++ pending.splice table =
      own ++ below table (walk.queue.take (count + 1)) := by
    rw [htake, below, List.flatMap_append, List.flatMap_singleton, ← List.append_assoc]
    exact congrArg (· ++ pending.splice table) hafter.history
  refine ⟨congrArg (· + 1) hafter.position, ?_, ?_, ?_⟩
  · exact hread.trans (by simp)
  · dsimp only
    rw [List.take_append_of_le_length hread]
    exact hhistory
  · -- The tags read so far are a beginning of the unrolling, so what they splice in comes first
    -- among what the unrolling splices in.
    have hbegins : walk.queue.take (count + 1) <+: unrolling table own :=
      (List.take_prefix _ _).trans hafter.inside
    dsimp only
    rw [hhistory, unrolling_eq hown]
    exact (List.prefix_append_right_inj own).2 (hbegins.flatMap _)

theorem after_rounds {block : Block} {file : String} {walk : Walk}
    (hrounds : rounds table count (start block file) = .inl walk) :
    After table block.ownTags count walk := by
  induction count generalizing walk with
  | zero =>
    cases hrounds
    exact after_start block file
  | succ count ih =>
    rw [rounds] at hrounds
    cases hbefore : rounds table count (start block file) with
    | inl before =>
      rw [hbefore] at hrounds
      exact (ih hbefore).step (fun _ => chain_of_mem_ownTags) hrounds
    | inr outcome =>
      rw [hbefore] at hrounds
      cases hrounds

/-! ### How long the unrolling is -/

/-- Every tag weighs more than all that it splices in. -/
theorem totalWeight_below_add_length_le (table : FragmentTable) (tags : List PendingTag) :
    Reading.totalWeight table (below table tags) + tags.length ≤ Reading.totalWeight table tags := by
  induction tags with
  | nil => exact Nat.le_refl 0
  | cons pending tags ih =>
    have hlt := Reading.totalWeight_splice_lt table pending
    have hbelow : below table (pending :: tags) = pending.splice table ++ below table tags := rfl
    have hcons : Reading.totalWeight table (pending :: tags) =
        Reading.weight table pending + Reading.totalWeight table tags := rfl
    rw [hbelow, Reading.totalWeight_append, List.length_cons, hcons]
    omega

theorem length_levels_add_totalWeight_le (table : FragmentTable) (tags : List PendingTag)
    (depth : Nat) :
    ((List.range depth).flatMap (level table tags)).length +
      Reading.totalWeight table (level table tags depth) ≤ Reading.totalWeight table tags := by
  induction depth with
  | zero => simp [level]
  | succ depth ih =>
    have hnext := totalWeight_below_add_length_le table (level table tags depth)
    rw [List.range_succ, List.flatMap_append, List.flatMap_singleton, List.length_append, level]
    omega

theorem totalWeight_of_chain_eq_nil (hown : ∀ pending ∈ own, pending.chain = []) :
    Reading.totalWeight table own =
      own.length * Nat.pow (Reading.mostTags table + 1) table.size := by
  induction own with
  | nil => simp [Reading.totalWeight]
  | cons pending own ih =>
    have hunused : Reading.unused table [] = table.size := by
      simp [Reading.unused, Keyed.keys, Keyed.size]
    have hweight : Reading.weight table pending =
        Nat.pow (Reading.mostTags table + 1) table.size := by
      rw [Reading.weight, hown pending (List.mem_cons_self ..), hunused]
    have hrest := ih fun other hmem => hown other (List.mem_cons_of_mem _ hmem)
    calc
      Reading.totalWeight table (pending :: own) =
          Reading.weight table pending + Reading.totalWeight table own := rfl
      _ = (pending :: own).length * Nat.pow (Reading.mostTags table + 1) table.size := by
        rw [hweight, hrest, List.length_cons, Nat.succ_mul, Nat.add_comm]

theorem length_unrolling_le (hown : ∀ pending ∈ own, pending.chain = []) :
    (unrolling table own).length ≤
      own.length * Nat.pow (Reading.mostTags table + 1) table.size := by
  have hlevels := length_levels_add_totalWeight_le table own (table.size + 1)
  rw [totalWeight_of_chain_eq_nil hown] at hlevels
  exact (Nat.le_add_right _ _).trans hlevels

/-! ### The end of the walk -/

/-- The chain of a tag holds distinct names of the table, one for each level that the tag lies below
the block's own tags. -/
structure Spliced (table : FragmentTable) (own : List PendingTag) (pending : PendingTag) :
    Prop where
  distinct : pending.chain.Nodup
  defined : ∀ name ∈ pending.chain, (table.find? name).isSome = true
  depth : pending ∈ level table own pending.chain.length
  shallow : pending.chain.length ≤ table.size

theorem spliced_of_mem_unrolling (hown : ∀ pending ∈ own, pending.chain = [])
    {pending : PendingTag} (hmem : pending ∈ unrolling table own) :
    Spliced table own pending := by
  obtain ⟨depth, -, hlevel⟩ := List.mem_flatMap.1 hmem
  obtain ⟨hchained, rfl⟩ := chained_of_mem_level hown hlevel
  refine ⟨hchained.1, fun name hname => ?_, hlevel, length_chain_le hchained⟩
  obtain ⟨fragment, hfragment, hnamed⟩ := Keyed.mem_keys_iff.1 (hchained.2 name hname)
  rw [Keyed.find?_eq_some_iff.2 ⟨hfragment, hnamed⟩]
  rfl

/-- There are no more rounds than tags in the unrolling. -/
theorem rounds_eq_inr (block : Block) (file : String) (table : FragmentTable) :
    ∃ outcome, rounds table ((unrolling table block.ownTags).length + 1) (start block file) =
      .inr outcome := by
  cases hrounds : rounds table ((unrolling table block.ownTags).length + 1)
      (start block file) with
  | inr outcome => exact ⟨outcome, rfl⟩
  | inl walk =>
    have hafter := after_rounds hrounds
    have hread := hafter.read
    have hinside := hafter.inside.length_le
    omega

/-- **Reading ends, whatever fragments use each other.** At every point of the walk the queue is a
beginning of the unrolling, of which each tag stands at the depth of its chain, and the chain holds
distinct names of the table, so that no tag lies deeper than there are fragments. The unrolling has
at most as many tags as the block, times one more than the tags of the longest fragment for each
fragment. After one round for each of its tags and one more, the walk has ended with what the block
reads as. -/
theorem ends_within_unrolling (block : Block) (file : String) (table : FragmentTable) :
    (∀ count walk, rounds table count (start block file) = .inl walk →
      walk.position = count ∧ walk.queue <+: unrolling table block.ownTags ∧
        ∀ pending ∈ walk.queue, Spliced table block.ownTags pending) ∧
      (unrolling table block.ownTags).length ≤
        block.ownTags.length * Nat.pow (Reading.mostTags table + 1) table.size ∧
      ∃ outcome, rounds table ((unrolling table block.ownTags).length + 1) (start block file) =
          .inr outcome ∧
        block.read file table = if block.announcesEndpoint then outcome else ⟨none, []⟩ := by
  refine ⟨fun count walk hrounds => ?_, length_unrolling_le fun _ => chain_of_mem_ownTags, ?_⟩
  · have hafter := after_rounds hrounds
    refine ⟨hafter.position, hafter.inside, fun pending hmem => ?_⟩
    exact spliced_of_mem_unrolling (fun _ => chain_of_mem_ownTags) (hafter.inside.subset hmem)
  · obtain ⟨outcome, houtcome⟩ := rounds_eq_inr block file table
    have hrun : Reading.run table (start block file).reading block.ownTags = outcome :=
      run_eq_of_rounds.2 outcome houtcome
    refine ⟨outcome, houtcome, ?_⟩
    rw [Block.read, ← hrun]
    rfl

/-- The circle is gone through once for each of the two tags that enter it. -/
theorem ends_pingBlock :
    ∃ walk, rounds pingPong 9 (start pingBlock "ping.py") = .inl walk ∧
      (∃ pending ∈ walk.queue, pending.chain = ["Ping", "Pong"] ∧
        Spliced pingPong pingBlock.ownTags pending) ∧
      (unrolling pingPong pingBlock.ownTags).length = 9 ∧
      ∃ outcome, rounds pingPong 10 (start pingBlock "ping.py") = .inr outcome ∧
        pingBlock.read "ping.py" pingPong = outcome := by
  obtain ⟨hpoints, -, outcome, houtcome, hread⟩ :=
    ends_within_unrolling pingBlock "ping.py" pingPong
  have hlength : (unrolling pingPong pingBlock.ownTags).length = 9 := by decide
  have hannounces : pingBlock.announcesEndpoint = true := by decide
  rw [hlength] at houtcome
  rw [if_pos hannounces] at hread
  refine ⟨_, rfl, ⟨_, List.mem_of_getElem? (i := 8) rfl, rfl, ?_⟩, hlength, outcome, houtcome, hread⟩
  exact (hpoints 9 _ rfl).2.2 _ (List.mem_of_getElem? (i := 8) rfl)

end Walk

end ApiManual
