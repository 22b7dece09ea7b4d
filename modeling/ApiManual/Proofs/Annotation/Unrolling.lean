import ApiManual.Annotation.Reading
import ApiManual.Proofs.Keyed
import Mathlib.Data.List.Perm.Subperm

/-!
# The level-order unrolling of a block

Reading a block keeps one queue, and a tag that uses a fragment appends the tags of the fragment to
it while it is being read. The same tags have a description without a queue: the block's own tags
are level zero, and each level is followed by the one that its tags splice in, in their order. A
chain never holds a name twice, so no level lies deeper than there are fragments.

The main result `read_eq_foldTags_unrolling` says that reading a block is folding the rules of the
single tags over the levels, one after the other.
-/

namespace ApiManual

open Text

namespace Unrolling

variable (table : FragmentTable)

/-- The tags that the tags of a level splice in. -/
def below (tags : List PendingTag) : List PendingTag :=
  tags.flatMap (PendingTag.splice table)

/-- The tags that are reached through `depth` fragments. -/
def level (own : List PendingTag) : Nat → List PendingTag
  | 0 => own
  | depth + 1 => below table (level own depth)

/-- The levels one after the other, down to as many as there are fragments. -/
def unrolling (own : List PendingTag) : List PendingTag :=
  (List.range (table.size + 1)).flatMap (level table own)

/-- The rules of single tags, one after the other. An `@api` tag without a path is the last tag
whose rule counts, and then there is no draft. -/
def foldTags (reading : Reading) : List PendingTag → BlockOutcome
  | [] => ⟨some reading.draft, reading.warnings⟩
  | pending :: rest =>
    if pending.endsBlock then ⟨none, (reading.take table pending).warnings⟩
    else foldTags (reading.take table pending) rest

variable {table}

theorem level_succ (own : List PendingTag) (depth : Nat) :
    level table own (depth + 1) = level table (below table own) depth := by
  induction depth with
  | zero => rfl
  | succ depth ih => exact congrArg (below table) ih

/-- The levels under some tags are the tags and the levels under what they splice in. -/
theorem levels_succ (own : List PendingTag) (depth : Nat) :
    (List.range (depth + 1)).flatMap (level table own) =
      own ++ (List.range depth).flatMap (level table (below table own)) := by
  rw [List.range_succ_eq_map, List.flatMap_cons, List.flatMap_map]
  simp only [level_succ]
  rfl

/-! ### Chains -/

/-- The chain of a tag names fragments of the table, each at most once. -/
def Chained (table : FragmentTable) (pending : PendingTag) : Prop :=
  pending.chain.Nodup ∧ ∀ name ∈ pending.chain, name ∈ table.keys

theorem length_chain_le {pending : PendingTag} (hchained : Chained table pending) :
    pending.chain.length ≤ table.size := by
  have hsub : pending.chain.Subperm table.keys :=
    List.subperm_of_subset hchained.1 hchained.2
  have hlength := hsub.length_le
  rwa [Keyed.keys, List.length_map] at hlength

/-- A spliced tag stands in the fragment that its parent uses, one name further down the chain. -/
theorem mem_splice_iff {pending spliced : PendingTag} :
    spliced ∈ pending.splice table ↔
      ∃ rest fragment, Tag.split? pending.tag.text = some (.use, rest) ∧
        table.find? (PendingTag.usedName rest) = some fragment ∧
        PendingTag.usedName rest ∉ pending.chain ∧
        spliced.tag ∈ TagLine.ofText (fun _ => pending.tag.line) fragment.content ∧
        spliced.chain = pending.chain ++ [PendingTag.usedName rest] := by
  unfold PendingTag.splice
  split
  · next rest hsplit =>
    simp only [hsplit]
    cases hfind : table.find? (PendingTag.usedName rest) with
    | none => simp [hfind]
    | some fragment =>
      by_cases hused : PendingTag.usedName rest ∈ pending.chain
      · simp [hused]
      · simp only [List.contains_eq_mem, hused, decide_false, Bool.false_eq_true, if_false,
          List.mem_map]
        constructor
        · rintro ⟨tag, htag, rfl⟩
          exact ⟨rest, fragment, rfl, hfind, hused, htag, rfl⟩
        · rintro ⟨rest', fragment', hrest, hfragment, _, htag, hchain⟩
          cases hrest
          cases hfind.symm.trans hfragment
          exact ⟨spliced.tag, htag, by rw [← hchain]⟩
  · next hother =>
    constructor
    · intro hmem
      cases hmem
    · rintro ⟨rest, _, hsplit, _⟩
      exact absurd hsplit (hother rest)

theorem chained_of_mem_splice {pending spliced : PendingTag} (hchained : Chained table pending)
    (hmem : spliced ∈ pending.splice table) : Chained table spliced := by
  obtain ⟨rest, fragment, _, hfind, hfresh, _, hchain⟩ := mem_splice_iff.1 hmem
  obtain ⟨hfragment, hname⟩ := Keyed.find?_eq_some_iff.1 hfind
  refine ⟨?_, ?_⟩
  · rw [hchain, List.nodup_append]
    refine ⟨hchained.1, List.nodup_singleton _, ?_⟩
    rintro name hold _ hnew rfl
    rw [List.mem_singleton] at hnew
    exact hfresh (hnew ▸ hold)
  · intro name hold
    rw [hchain, List.mem_append, List.mem_singleton] at hold
    rcases hold with hold | rfl
    · exact hchained.2 name hold
    · exact List.mem_map.2 ⟨fragment, hfragment, hname⟩

/-- The chain of a tag tells how deep its level is. -/
theorem chained_of_mem_level {own : List PendingTag} (hown : ∀ pending ∈ own, pending.chain = [])
    {depth : Nat} {pending : PendingTag} (hmem : pending ∈ level table own depth) :
    Chained table pending ∧ pending.chain.length = depth := by
  induction depth generalizing pending with
  | zero =>
    have hchain := hown pending hmem
    simp [Chained, hchain]
  | succ depth ih =>
    obtain ⟨parent, hparent, hspliced⟩ := List.mem_flatMap.1 hmem
    obtain ⟨hchained, hlength⟩ := ih hparent
    obtain ⟨rest, _, _, _, _, _, hchain⟩ := mem_splice_iff.1 hspliced
    refine ⟨chained_of_mem_splice hchained hspliced, ?_⟩
    rw [hchain, List.length_append, hlength, List.length_singleton]

theorem level_eq_nil {own : List PendingTag} (hown : ∀ pending ∈ own, pending.chain = [])
    {depth : Nat} (hdepth : table.size < depth) : level table own depth = [] := by
  rw [List.eq_nil_iff_forall_not_mem]
  intro pending hmem
  obtain ⟨hchained, hlength⟩ := chained_of_mem_level hown hmem
  have hle := length_chain_le hchained
  omega

/-! ### The queue

While a level is read, the queue holds what is left of it and, behind that, what its tags read so
far have spliced in. When the level is through, the queue is the next level. -/

theorem run_append_eq_foldTags {rest : List PendingTag} :
    ∀ (tags next : List PendingTag) (reading : Reading),
      (∀ reading, Reading.run table reading (next ++ below table tags) =
        foldTags table reading rest) →
      Reading.run table reading (tags ++ next) = foldTags table reading (tags ++ rest)
  | [], next, reading, hrest => by
    simpa [below] using hrest reading
  | pending :: tags, next, reading, hrest => by
    have hnext : ∀ reading, Reading.run table reading
        ((next ++ pending.splice table) ++ below table tags) = foldTags table reading rest := by
      intro reading
      rw [List.append_assoc]
      exact hrest reading
    rw [List.cons_append, Reading.run, List.cons_append, foldTags, List.append_assoc]
    split
    · rfl
    · exact run_append_eq_foldTags tags (next ++ pending.splice table) _ hnext

/-- Reading a level is folding over it and over everything below it. -/
theorem run_level_eq_foldTags {depth : Nat} {tags : List PendingTag} (reading : Reading)
    (hend : level table tags depth = []) :
    Reading.run table reading tags =
      foldTags table reading ((List.range depth).flatMap (level table tags)) := by
  induction depth generalizing tags reading with
  | zero =>
    have htags : tags = [] := hend
    rw [htags, Reading.run]
    rfl
  | succ depth ih =>
    rw [level_succ] at hend
    -- Nothing is behind the level yet, so the next level is what its tags splice in.
    calc
      Reading.run table reading tags = Reading.run table reading (tags ++ []) := by
        rw [List.append_nil]
      _ = foldTags table reading (tags ++
          (List.range depth).flatMap (level table (below table tags))) :=
        run_append_eq_foldTags tags [] reading fun reading => ih reading hend
      _ = foldTags table reading ((List.range (depth + 1)).flatMap (level table tags)) := by
        rw [levels_succ]

theorem chain_of_mem_ownTags {block : Block} {pending : PendingTag}
    (hmem : pending ∈ block.ownTags) : pending.chain = [] := by
  obtain ⟨_, _, rfl⟩ := List.mem_map.1 hmem
  rfl

theorem read_eq_foldTags {block : Block} (hannounces : block.announcesEndpoint = true)
    (file : String) :
    block.read file table =
      foldTags table ⟨Draft.blank file block.line, []⟩ (unrolling table block.ownTags) := by
  rw [Block.read, if_pos hannounces]
  exact run_level_eq_foldTags _
    (level_eq_nil (fun _ => chain_of_mem_ownTags) (Nat.lt_succ_self _))

/-! ### The rule of a tag that uses a fragment -/

/-- What a tag that uses a fragment does, and that no other tag splices anything in. The tag is read
without a trace when the fragment is known and not in the chain yet. Otherwise it splices nothing in
and leaves one warning. -/
structure UseRule (table : FragmentTable) (pending : PendingTag) : Prop where
  spliced : ∀ rest fragment, Tag.split? pending.tag.text = some (.use, rest) →
    table.find? (PendingTag.usedName rest) = some fragment →
    PendingTag.usedName rest ∉ pending.chain →
    pending.splice table = (TagLine.ofText (fun _ => pending.tag.line) fragment.content).map
        (⟨·, pending.chain ++ [PendingTag.usedName rest]⟩) ∧
      ∀ reading : Reading, reading.take table pending = reading
  refused : ∀ rest, Tag.split? pending.tag.text = some (.use, rest) →
    table.find? (PendingTag.usedName rest) = none ∨ PendingTag.usedName rest ∈ pending.chain →
    pending.splice table = [] ∧
      ∃ complaint : Complaint, complaint.kind = .invalidDefinition ∧
        ∀ reading : Reading, reading.take table pending =
          ⟨reading.draft, reading.warnings ++ [⟨complaint, reading.draft.file, pending.tag.line⟩]⟩
  others : (∀ rest, Tag.split? pending.tag.text ≠ some (.use, rest)) → pending.splice table = []

theorem useRule (pending : PendingTag) : UseRule table pending where
  spliced rest fragment hsplit hfind hfresh := by
    have hknown : table.contains (PendingTag.usedName rest) = true := by
      rw [Keyed.contains_eq_isSome, hfind, Option.isSome_some]
    refine ⟨by simp [PendingTag.splice, hsplit, hfind, hfresh], fun reading => ?_⟩
    simp [Reading.take, PendingTag.complaints, PendingTag.apply, hsplit, hknown, hfresh]
  refused rest hsplit hrefused := by
    by_cases hknown : table.contains (PendingTag.usedName rest) = true
    · have hused : PendingTag.usedName rest ∈ pending.chain := by
        refine hrefused.resolve_left fun hnone => ?_
        rw [Keyed.contains_eq_false_iff.2 hnone] at hknown
        exact Bool.false_ne_true hknown
      refine ⟨?_, .fragmentUsesItself (PendingTag.usedName rest), rfl, fun reading => ?_⟩
      · simp only [PendingTag.splice, hsplit]
        split <;> simp [hused]
      · simp [Reading.take, PendingTag.complaints, PendingTag.apply, hsplit, hknown, hused]
    · rw [Bool.not_eq_true] at hknown
      refine ⟨?_, .unknownFragment (PendingTag.usedName rest), rfl, fun reading => ?_⟩
      · simp [PendingTag.splice, hsplit, Keyed.contains_eq_false_iff.1 hknown]
      · simp [Reading.take, PendingTag.complaints, PendingTag.apply, hsplit, hknown]
  others hother := by
    unfold PendingTag.splice
    split
    · next rest hsplit => exact absurd hsplit (hother rest)
    · rfl

/-- **Reading is level-order expansion.** A block that announces an endpoint reads as the rules of
its tags, level after level: its own tags, then the tags that those splice in, and so on. The levels
end after as many as there are fragments, whatever fragments use each other. -/
theorem read_eq_foldTags_unrolling (block : Block) (file : String) (table : FragmentTable)
    (hannounces : block.announcesEndpoint = true) :
    block.read file table =
        foldTags table ⟨Draft.blank file block.line, []⟩ (unrolling table block.ownTags) ∧
      (∀ depth, table.size < depth → level table block.ownTags depth = []) ∧
      ∀ pending, UseRule table pending :=
  ⟨read_eq_foldTags hannounces file,
    fun _ => level_eq_nil fun _ => chain_of_mem_ownTags, useRule⟩

def pingPong : FragmentTable :=
  Keyed.ofList _ [⟨"Ping", none, none, "@apiUse Pong\n@apiPermission player\n".toList⟩,
    ⟨"Pong", none, none, "@apiUse Ping\n".toList⟩]

def pingBlock : Block := ⟨"@api {get} /ping Ping\n@apiUse Ping\n@apiUse Ping\n".toList, 1⟩

/-- The two tags splice the fragments in separately. Each gives the permission, and each time the circle
is noticed once. -/
theorem read_pingBlock :
    pingBlock.announcesEndpoint = true ∧
      pingBlock.read "ping.py" pingPong =
        ⟨some { Draft.blank "ping.py" 1 with
            method := some "get", path := "/ping", title := some "Ping"
            permissions := ["player", "player"] },
          [⟨.fragmentUsesItself "Ping", "ping.py", 2⟩,
            ⟨.fragmentUsesItself "Ping", "ping.py", 3⟩]⟩ := by
  have hannounces : pingBlock.announcesEndpoint = true := by decide
  refine ⟨hannounces, ?_⟩
  rw [(read_eq_foldTags_unrolling pingBlock "ping.py" pingPong hannounces).1]
  decide +kernel

end Unrolling

end ApiManual
