import ApiManual.Proofs.Annotation.Unrolling
import Mathlib.Data.List.Flatten

/-!
# Splicing at the end and splicing on the spot

Reading puts the tags of a fragment at the end of what is left to read. A reader of the source would
rather put them where the fragment is used, and the tags of the fragments that those use in turn at
their places. The two orders differ, but they hold the same tags: the level-order unrolling without
the tags that were spliced away is a permutation of the inline expansion.

What a tag adds to the parameters and permissions does not depend on the tags before it, and of its
complaints only that about a repeated description does. So the two readings agree in everything that
is gathered, up to order.
-/

namespace ApiManual

open Text

namespace Inlining

open Unrolling

variable {table : FragmentTable}

/-- The tag uses a fragment of the table that is not in its chain. -/
def expands (table : FragmentTable) (pending : PendingTag) : Bool :=
  match Tag.split? pending.tag.text with
  | some (.use, rest) =>
    table.contains (PendingTag.usedName rest) && !pending.chain.contains (PendingTag.usedName rest)
  | _ => false

theorem take_of_expands {pending : PendingTag} (hexpands : expands table pending = true)
    (reading : Reading) : reading.take table pending = reading := by
  unfold expands at hexpands
  split at hexpands
  · next rest hsplit =>
    rw [Bool.and_eq_true, Bool.not_eq_true'] at hexpands
    obtain ⟨hknown, hfresh⟩ := hexpands
    simp [Reading.take, PendingTag.complaints, PendingTag.apply, hsplit, hknown,
      (by simpa using hfresh : PendingTag.usedName rest ∉ pending.chain)]
  · cases hexpands

theorem splice_of_not_expands {pending : PendingTag} (hexpands : expands table pending = false) :
    pending.splice table = [] := by
  rw [List.eq_nil_iff_forall_not_mem]
  intro spliced hmem
  obtain ⟨rest, fragment, hsplit, hfind, hfresh, -, -⟩ := mem_splice_iff.1 hmem
  have hknown : table.contains (PendingTag.usedName rest) = true := by
    rw [Keyed.contains_eq_isSome, hfind, Option.isSome_some]
  simp [expands, hsplit, hknown, hfresh] at hexpands

theorem weight_lt_of_mem_splice {pending spliced : PendingTag}
    (hmem : spliced ∈ pending.splice table) :
    Reading.weight table spliced < Reading.weight table pending := by
  obtain ⟨before, after, hsplice⟩ := List.append_of_mem hmem
  have hless := Reading.totalWeight_splice_lt table pending
  have hcons : Reading.totalWeight table (spliced :: after) =
      Reading.weight table spliced + Reading.totalWeight table after := rfl
  rw [hsplice, Reading.totalWeight_append, hcons] at hless
  omega

/-- The tag, or what stands in its place when the fragment that it uses is written out on the spot,
and those that the tags of the fragment use as well. -/
def inlined (table : FragmentTable) (pending : PendingTag) : List PendingTag :=
  if expands table pending then
    (pending.splice table).attach.flatMap fun spliced => inlined table spliced.1
  else [pending]
termination_by Reading.weight table pending
decreasing_by exact weight_lt_of_mem_splice spliced.2

theorem inlined_of_expands {pending : PendingTag} (hexpands : expands table pending = true) :
    inlined table pending = (pending.splice table).flatMap (inlined table) := by
  have hchildren : (pending.splice table).attach.flatMap (fun spliced => inlined table spliced.1) =
      (pending.splice table).attach.unattach.flatMap (inlined table) :=
    List.flatMap_subtype fun _ _ => rfl
  rw [inlined, if_pos hexpands, hchildren, List.unattach_attach]

theorem inlined_of_not_expands {pending : PendingTag} (hexpands : expands table pending = false) :
    inlined table pending = [pending] := by
  rw [inlined, hexpands]
  rfl

/-! ### The two orders -/

/-- Writing out the tags of a level leaves those that do not expand where they are, and puts what
stands below the others in between. -/
theorem flatMap_inlined_perm (tags : List PendingTag) :
    (tags.flatMap (inlined table)).Perm
      (tags.filter (!expands table ·) ++ (below table tags).flatMap (inlined table)) := by
  induction tags with
  | nil => exact List.Perm.refl _
  | cons pending tags ih =>
    have hbelow : below table (pending :: tags) = pending.splice table ++ below table tags := rfl
    rw [List.flatMap_cons, hbelow, List.flatMap_append]
    cases hexpands : expands table pending with
    | true =>
      have hkept : (pending :: tags).filter (!expands table ·) =
          tags.filter (!expands table ·) := by
        rw [List.filter_cons_of_neg]
        simp [hexpands]
      rw [hkept, inlined_of_expands hexpands]
      calc
        List.Perm _ ((pending.splice table).flatMap (inlined table) ++
            (tags.filter (!expands table ·) ++ (below table tags).flatMap (inlined table))) :=
          ih.append_left _
        List.Perm _ (tags.filter (!expands table ·) ++
            ((pending.splice table).flatMap (inlined table) ++
              (below table tags).flatMap (inlined table))) := by
          rw [← List.append_assoc, ← List.append_assoc]
          exact List.perm_append_comm.append_right _
    | false =>
      have hkept : (pending :: tags).filter (!expands table ·) =
          pending :: tags.filter (!expands table ·) := by
        rw [List.filter_cons_of_pos]
        simp [hexpands]
      rw [hkept, inlined_of_not_expands hexpands, splice_of_not_expands hexpands, List.flatMap_nil,
        List.nil_append, List.singleton_append, List.cons_append]
      exact ih.cons pending

/-- The levels without the tags that expand are the inline expansion in another order. -/
theorem levels_perm_inlined {depth : Nat} {tags : List PendingTag}
    (hend : level table tags depth = []) :
    (((List.range depth).flatMap (level table tags)).filter (!expands table ·)).Perm
      (tags.flatMap (inlined table)) := by
  induction depth generalizing tags with
  | zero =>
    have htags : tags = [] := hend
    rw [htags]
    exact List.Perm.refl _
  | succ depth ih =>
    rw [level_succ] at hend
    rw [levels_succ, List.filter_append]
    exact ((ih hend).append_left _).trans (flatMap_inlined_perm tags).symm

/-! ### What a tag adds -/

/-- The parameters that a tag adds to those of any draft. -/
def addedParams (pending : PendingTag) : List DraftParam :=
  (pending.apply (Draft.blank "" 0)).params

/-- The permissions that a tag adds to those of any draft. -/
def addedPermissions (pending : PendingTag) : List String :=
  (pending.apply (Draft.blank "" 0)).permissions

/-- What a tag does to the parts of a draft that are gathered and not replaced. -/
theorem gathered_apply (pending : PendingTag) (draft : Draft) :
    (pending.apply draft).params = draft.params ++ addedParams pending ∧
      (pending.apply draft).permissions = draft.permissions ++ addedPermissions pending ∧
      (pending.apply draft).file = draft.file := by
  cases hsplit : Tag.split? pending.tag.text with
  | none => simp [addedParams, addedPermissions, PendingTag.apply, Draft.blank, hsplit]
  | some found =>
    obtain ⟨tag, rest⟩ := found
    cases tag with
    | api =>
      cases hpath : (ApiTokens.ofLine pending.tag.text).path <;>
        simp [addedParams, addedPermissions, PendingTag.apply, Draft.blank, hsplit, hpath]
    | param carrier =>
      cases hname : (ParamTokens.ofLine pending.tag.text).name <;>
        simp [addedParams, addedPermissions, PendingTag.apply, Draft.blank, hsplit, hname]
    | _ => simp [addedParams, addedPermissions, PendingTag.apply, Draft.blank, hsplit]

/-- The warnings of one kind about a tag, when nothing is described before it. -/
def warningsOf (table : FragmentTable) (file : String) (kind : WarningKind)
    (pending : PendingTag) : List Warning :=
  ((pending.complaints table false).filter (·.kind = kind)).map (⟨·, file, pending.tag.line⟩)

/-- Only a repeated description depends on the tags before. -/
theorem filter_complaints (pending : PendingTag) (described : Bool) {kind : WarningKind}
    (hkind : kind ≠ .duplicateApiName) :
    (pending.complaints table described).filter (·.kind = kind) =
      (pending.complaints table false).filter (·.kind = kind) := by
  cases hsplit : Tag.split? pending.tag.text with
  | none => simp [PendingTag.complaints, hsplit]
  | some found =>
    obtain ⟨tag, rest⟩ := found
    cases tag with
    | description =>
      cases described <;> simp [PendingTag.complaints, hsplit, Complaint.kind, Ne.symm hkind]
    | _ => simp [PendingTag.complaints, hsplit]

/-- Tags that are read one after the other, whatever ends their block. -/
def takeAll (table : FragmentTable) (reading : Reading) (tags : List PendingTag) : Reading :=
  tags.foldl (Reading.take table) reading

theorem foldTags_eq_takeAll {tags : List PendingTag}
    (hpaths : ∀ pending ∈ tags, pending.endsBlock = false) (reading : Reading) :
    foldTags table reading tags =
      ⟨some (takeAll table reading tags).draft, (takeAll table reading tags).warnings⟩ := by
  induction tags generalizing reading with
  | nil => rfl
  | cons pending tags ih =>
    rw [List.forall_mem_cons] at hpaths
    rw [foldTags, hpaths.1, if_neg Bool.false_ne_true]
    exact ih hpaths.2 (reading.take table pending)

/-- What is gathered from some tags is what each of them adds, in their order. -/
theorem gathered_takeAll (reading : Reading) (tags : List PendingTag) :
    (takeAll table reading tags).draft.params =
        reading.draft.params ++ tags.flatMap addedParams ∧
      (takeAll table reading tags).draft.permissions =
        reading.draft.permissions ++ tags.flatMap addedPermissions ∧
      ∀ kind, kind ≠ WarningKind.duplicateApiName →
        (takeAll table reading tags).warnings.filter (·.complaint.kind = kind) =
          reading.warnings.filter (·.complaint.kind = kind) ++
            tags.flatMap (warningsOf table reading.draft.file kind) := by
  induction tags generalizing reading with
  | nil => simp [takeAll]
  | cons pending tags ih =>
    obtain ⟨hparams, hpermissions, hfile⟩ := gathered_apply pending reading.draft
    obtain ⟨ihparams, ihpermissions, ihwarnings⟩ := ih (reading.take table pending)
    refine ⟨?_, ?_, fun kind hkind => ?_⟩
    · calc
        (takeAll table reading (pending :: tags)).draft.params =
            (pending.apply reading.draft).params ++ tags.flatMap addedParams := ihparams
        _ = reading.draft.params ++ (pending :: tags).flatMap addedParams := by
          rw [hparams, List.append_assoc, List.flatMap_cons]
    · calc
        (takeAll table reading (pending :: tags)).draft.permissions =
            (pending.apply reading.draft).permissions ++ tags.flatMap addedPermissions :=
          ihpermissions
        _ = reading.draft.permissions ++ (pending :: tags).flatMap addedPermissions := by
          rw [hpermissions, List.append_assoc, List.flatMap_cons]
    · have hfirst : (reading.take table pending).warnings.filter (·.complaint.kind = kind) =
          reading.warnings.filter (·.complaint.kind = kind) ++
            warningsOf table reading.draft.file kind pending := by
        rw [Reading.take, List.filter_append, List.filter_map, warningsOf,
          ← filter_complaints pending reading.draft.description.isSome hkind]
        rfl
      have hsame : (reading.take table pending).draft.file = reading.draft.file := hfile
      calc
        (takeAll table reading (pending :: tags)).warnings.filter (·.complaint.kind = kind) =
            (reading.take table pending).warnings.filter (·.complaint.kind = kind) ++
              tags.flatMap (warningsOf table (reading.take table pending).draft.file kind) :=
          ihwarnings kind hkind
        _ = reading.warnings.filter (·.complaint.kind = kind) ++
            (pending :: tags).flatMap (warningsOf table reading.draft.file kind) := by
          rw [hfirst, hsame, List.append_assoc, List.flatMap_cons]

/-- A tag that expands leaves no trace, so reading may pass it over. -/
theorem takeAll_filter (reading : Reading) (tags : List PendingTag) :
    takeAll table reading (tags.filter (!expands table ·)) = takeAll table reading tags := by
  induction tags generalizing reading with
  | nil => rfl
  | cons pending tags ih =>
    cases hexpands : expands table pending with
    | true =>
      rw [List.filter_cons_of_neg (by simp [hexpands]), ih]
      exact congrArg (takeAll table · tags) (take_of_expands hexpands reading).symm
    | false =>
      rw [List.filter_cons_of_pos (by simp [hexpands])]
      exact ih (reading.take table pending)

/-! ### Reading with fragments written out -/

/-- Reads a block in which every use of a fragment is replaced on the spot. -/
def readInline (block : Block) (file : String) (table : FragmentTable) : BlockOutcome :=
  foldTags table ⟨Draft.blank file block.line, []⟩ (block.ownTags.flatMap (inlined table))

/-- The tags of a block in the two orders, those that expand left out of the first. -/
theorem unrolling_perm_inlined (block : Block) (table : FragmentTable) :
    ((unrolling table block.ownTags).filter (!expands table ·)).Perm
      (block.ownTags.flatMap (inlined table)) :=
  levels_perm_inlined (level_eq_nil (fun _ => chain_of_mem_ownTags) (Nat.lt_succ_self _))

/-- **Splicing at the end gathers what inlining gathers.** When no `@api` tag without a path is
reached, a block gives a draft in both ways, with the same parameters, the same permissions and the
same warnings, but those about repeated descriptions, each as often. -/
theorem read_perm_readInline (block : Block) (file : String) (table : FragmentTable)
    (hannounces : block.announcesEndpoint = true)
    (hpaths : ∀ pending ∈ unrolling table block.ownTags, pending.endsBlock = false) :
    ∃ spliced inline : Draft,
      (block.read file table).draft = some spliced ∧
      (readInline block file table).draft = some inline ∧
      spliced.params.Perm inline.params ∧
      spliced.permissions.Perm inline.permissions ∧
      ∀ kind, kind ≠ WarningKind.duplicateApiName →
        ((block.read file table).warnings.filter (·.complaint.kind = kind)).Perm
          ((readInline block file table).warnings.filter (·.complaint.kind = kind)) := by
  let start : Reading := ⟨Draft.blank file block.line, []⟩
  let kept := (unrolling table block.ownTags).filter (!expands table ·)
  have hperm : kept.Perm (block.ownTags.flatMap (inlined table)) :=
    unrolling_perm_inlined block table
  have hinlinePaths : ∀ pending ∈ block.ownTags.flatMap (inlined table),
      pending.endsBlock = false := by
    intro pending hmem
    exact hpaths pending (List.mem_filter.1 (hperm.mem_iff.2 hmem)).1
  have hread : block.read file table =
      ⟨some (takeAll table start kept).draft, (takeAll table start kept).warnings⟩ := by
    rw [read_eq_foldTags hannounces, foldTags_eq_takeAll hpaths, ← takeAll_filter]
  have hinline : readInline block file table = ⟨_, _⟩ := foldTags_eq_takeAll hinlinePaths start
  obtain ⟨hparams, hpermissions, hwarnings⟩ := @gathered_takeAll table start kept
  obtain ⟨hparams', hpermissions', hwarnings'⟩ := @gathered_takeAll table start
    (block.ownTags.flatMap (inlined table))
  rw [hread, hinline]
  refine ⟨_, _, rfl, rfl, ?_, ?_, fun kind hkind => ?_⟩
  · rw [hparams, hparams']
    exact (hperm.flatMap_right addedParams).append_left _
  · rw [hpermissions, hpermissions']
    exact (hperm.flatMap_right addedPermissions).append_left _
  · rw [hwarnings kind hkind, hwarnings' kind hkind]
    exact (hperm.flatMap_right (warningsOf table file kind)).append_left _

/-- Two fragments use each other, and both use a third. -/
def listings : FragmentTable :=
  Keyed.ofList _ [
    ⟨"Sorted", none, none, "@apiUse Paged\n@apiQueryParam order\n@apiUse Found\n".toList⟩,
    ⟨"Paged", none, none, "@apiQueryParam page\n@apiPermission reader\n".toList⟩,
    ⟨"Found", none, none, "@apiUse Paged\n@apiUse Sorted\n@apiQueryParam\n".toList⟩]

def listingBlock : Block :=
  ⟨("@api {get} /photo Photos\n@apiUse Sorted\n" ++
    "@apiQueryParam owner\n@apiPermission owner\n").toList, 1⟩

/-- The page and its permission stand in both orders twice, at different places. -/
theorem read_listingBlock :
    listingBlock.announcesEndpoint = true ∧
      (∀ pending ∈ unrolling listings listingBlock.ownTags, pending.endsBlock = false) ∧
      ∃ spliced inline : Draft,
        listingBlock.read "photo.py" listings =
          ⟨some spliced, [⟨.fragmentUsesItself "Sorted", "photo.py", 2⟩,
            ⟨.missingParamName, "photo.py", 2⟩]⟩ ∧
        (readInline listingBlock "photo.py" listings).draft = some inline ∧
        spliced.params.map (·.name) = ["owner", "order", "page", "page"] ∧
        spliced.params.Perm inline.params ∧
        spliced.permissions = ["owner", "reader", "reader"] ∧
        spliced.permissions.Perm inline.permissions ∧
        ∀ kind, kind ≠ WarningKind.duplicateApiName →
          ((listingBlock.read "photo.py" listings).warnings.filter (·.complaint.kind = kind)).Perm
            ((readInline listingBlock "photo.py" listings).warnings.filter
              (·.complaint.kind = kind)) := by
  have hannounces : listingBlock.announcesEndpoint = true := by decide
  have hpaths : ∀ pending ∈ unrolling listings listingBlock.ownTags,
      pending.endsBlock = false := by
    decide
  obtain ⟨spliced, inline, hspliced, hinline, hparams, hpermissions, hwarnings⟩ :=
    read_perm_readInline listingBlock "photo.py" listings hannounces hpaths
  have hread : (listingBlock.read "photo.py" listings).draft.map (·.params.map (·.name)) =
        some ["owner", "order", "page", "page"] ∧
      (listingBlock.read "photo.py" listings).draft.map (·.permissions) =
        some ["owner", "reader", "reader"] ∧
      (listingBlock.read "photo.py" listings).warnings =
        [⟨.fragmentUsesItself "Sorted", "photo.py", 2⟩, ⟨.missingParamName, "photo.py", 2⟩] := by
    rw [read_eq_foldTags hannounces]
    decide +kernel
  rw [hspliced] at hread
  obtain ⟨hnames, hgranted, hcomplaints⟩ := hread
  refine ⟨hannounces, hpaths, spliced, inline, ?_, hinline, Option.some.inj hnames, hparams,
    Option.some.inj hgranted, hpermissions, hwarnings⟩
  rw [← hspliced, ← hcomplaints]

end Inlining

end ApiManual
