import ApiManual.Proofs.Annotation.TokenSearch
import ApiManual.Proofs.Annotation.Unrolling
import ApiManual.Settings
import Mathlib.Data.List.TakeWhile

/-!
# Announced endpoints

A block whose first word is `@api` announces an endpoint. Whether the reading gets to see that tag
is another matter: tags stand at the left edge of the dedented block, and the line of the
announcement may be indented deeper than the lines after it. When no warning is raised, the draft
can be registered exactly if some `@api` tag is reached, and an announcement at the left edge is
reached.
-/

namespace ApiManual

open Text Unrolling

def PendingTag.IsApi (pending : PendingTag) : Prop :=
  ∃ rest, Tag.split? pending.tag.text = some (.api, rest)

/-- A draft of which an endpoint with a proper path can be made. -/
structure Draft.Registrable (draft : Draft) : Prop where
  path : draft.path.toList.head? = some '/'
  endpoint : draft.toEndpoint?.isSome = true

/-- The announcement is indented no deeper than any line of the block, so it stands at the left
edge. -/
def Block.AnnouncesAtEdge (block : Block) : Prop :=
  ∃ line ∈ ((lines block.text).dropWhile Block.isBlankLine).head?, TagLine.startsTag line = true

namespace Announcement

variable {table : FragmentTable}

theorem head?_path_ofLine {line : List Char} {path : String}
    (hpath : (ApiTokens.ofLine line).path = some path) : path.toList.head? = some '/' := by
  obtain ⟨span, hspan, rfl⟩ := Option.map_eq_some_iff.1 hpath
  obtain ⟨-, chars, -, -, rfl⟩ := Span.exists_append_of_pathFrom? hspan
  rw [String.toList_ofList, List.head?_cons]

theorem isSome_toEndpoint? (draft : Draft) :
    draft.toEndpoint?.isSome = draft.method.isSome := by
  rw [Draft.toEndpoint?, Option.isSome_map]

/-! ### One tag -/

/-- An `@api` tag that raises no complaint makes the draft registrable, whatever it was before. -/
theorem registrable_apply_of_isApi {pending : PendingTag} (hapi : pending.IsApi) {described : Bool}
    (hclean : pending.complaints table described = []) (draft : Draft) :
    (pending.apply draft).Registrable := by
  obtain ⟨rest, hsplit⟩ := hapi
  simp only [PendingTag.complaints, hsplit, List.append_eq_nil_iff, ite_eq_right_iff,
    List.cons_ne_nil, imp_false, Bool.not_eq_true, Option.isNone_eq_false_iff] at hclean
  obtain ⟨hmethod, hsome⟩ := hclean
  obtain ⟨path, hpath⟩ := Option.isSome_iff_exists.1 hsome
  have hdraft : pending.apply draft =
      { draft with
        method := (ApiTokens.ofLine pending.tag.text).method
        path
        title := (ApiTokens.ofLine pending.tag.text).title
        line := pending.tag.line } := by
    simp only [PendingTag.apply, hsplit, hpath]
  rw [hdraft]
  refine ⟨head?_path_ofLine hpath, ?_⟩
  rw [isSome_toEndpoint?]
  exact hmethod

/-- All other tags leave method and path as they are. -/
theorem registrable_apply_iff {pending : PendingTag} (hother : ¬ pending.IsApi) (draft : Draft) :
    (pending.apply draft).Registrable ↔ draft.Registrable := by
  have hsame : (pending.apply draft).method = draft.method ∧
      (pending.apply draft).path = draft.path := by
    cases hsplit : Tag.split? pending.tag.text with
    | none => simp [PendingTag.apply, hsplit]
    | some split =>
      obtain ⟨tag, rest⟩ := split
      cases tag with
      | api => exact absurd ⟨rest, hsplit⟩ hother
      | param carrier =>
        simp only [PendingTag.apply, hsplit]
        split <;> exact ⟨rfl, rfl⟩
      | _ => simp [PendingTag.apply, hsplit]
  constructor
  · rintro ⟨hpath, hendpoint⟩
    rw [hsame.2] at hpath
    rw [isSome_toEndpoint?, hsame.1] at hendpoint
    exact ⟨hpath, by rwa [isSome_toEndpoint?]⟩
  · rintro ⟨hpath, hendpoint⟩
    rw [isSome_toEndpoint?] at hendpoint
    refine ⟨by rwa [hsame.2], ?_⟩
    rwa [isSome_toEndpoint?, hsame.1]

theorem complaints_ne_nil_of_endsBlock {pending : PendingTag} (hends : pending.endsBlock = true)
    (described : Bool) : pending.complaints table described ≠ [] := by
  unfold PendingTag.endsBlock at hends
  split at hends
  · next rest hsplit => simp [PendingTag.complaints, hsplit, hends]
  · cases hends

/-! ### A whole reading -/

theorem warnings_foldTags (table : FragmentTable) (reading : Reading) (tags : List PendingTag) :
    ∃ more, (foldTags table reading tags).warnings = reading.warnings ++ more := by
  induction tags generalizing reading with
  | nil => exact ⟨[], (List.append_nil _).symm⟩
  | cons pending rest ih =>
    rw [foldTags]
    split
    · exact ⟨_, rfl⟩
    · obtain ⟨more, hmore⟩ := ih (reading.take table pending)
      rw [hmore, Reading.take, List.append_assoc]
      exact ⟨_, rfl⟩

theorem complaints_eq_nil {reading : Reading} {pending : PendingTag} {more : List Warning}
    (hclean : (reading.take table pending).warnings ++ more = reading.warnings) :
    pending.complaints table reading.draft.description.isSome = [] := by
  rw [Reading.take, List.append_assoc, List.append_right_eq_self, List.append_eq_nil_iff,
    List.map_eq_nil_iff] at hclean
  exact hclean.1

/-- When folding raises no warning, there is a draft, and it can be registered if it could be before
or an `@api` tag was read. -/
theorem registrable_foldTags_iff {reading : Reading} {tags : List PendingTag}
    (hclean : (foldTags table reading tags).warnings = reading.warnings) :
    ∃ draft, (foldTags table reading tags).draft = some draft ∧
      (draft.Registrable ↔ reading.draft.Registrable ∨ ∃ pending ∈ tags, pending.IsApi) := by
  induction tags generalizing reading with
  | nil => exact ⟨reading.draft, rfl, by simp⟩
  | cons pending rest ih =>
    rw [foldTags] at hclean ⊢
    by_cases hends : pending.endsBlock = true
    · rw [if_pos hends] at hclean
      have hnone := complaints_eq_nil (by rwa [List.append_nil] : _ ++ [] = reading.warnings)
      exact absurd hnone (complaints_ne_nil_of_endsBlock hends _)
    · rw [if_neg hends] at hclean ⊢
      obtain ⟨more, hmore⟩ := warnings_foldTags table (reading.take table pending) rest
      have hnone := complaints_eq_nil (hmore.symm.trans hclean)
      have htake : (reading.take table pending).warnings = reading.warnings := by
        simp [Reading.take, hnone]
      obtain ⟨draft, hdraft, hiff⟩ := ih (hclean.trans htake.symm)
      refine ⟨draft, hdraft, hiff.trans ?_⟩
      by_cases hapi : pending.IsApi
      · have hread := registrable_apply_of_isApi hapi hnone reading.draft
        simp only [List.mem_cons, exists_eq_or_imp, hapi, true_or, or_true, iff_true]
        exact Or.inl hread
      · have hkept := registrable_apply_iff hapi reading.draft
        simp only [List.mem_cons, exists_eq_or_imp, hapi, false_or]
        exact or_congr_left hkept

/-! ### Announcements at the left edge -/

theorem group_append {lineOf : Nat → Nat} {offset : Nat} {skipped : List (List Char)}
    (hskipped : ∀ line ∈ skipped, TagLine.startsTag line = false) (rest : List (List Char)) :
    TagLine.group lineOf offset (skipped ++ rest) =
      TagLine.group lineOf (offset + skipped.length) rest := by
  induction skipped generalizing offset with
  | nil => rfl
  | cons line skipped ih =>
    have hline := hskipped line (List.mem_cons_self ..)
    rw [List.cons_append, TagLine.group, if_neg (by simp [hline]),
      ih fun other hother => hskipped other (List.mem_cons_of_mem _ hother), List.length_cons,
      Nat.add_assoc, Nat.add_comm 1]

theorem startsTag_eq_false_of_isBlankLine {line : List Char}
    (hblank : Block.isBlankLine line = true) :
    TagLine.startsTag line = false := by
  unfold TagLine.startsTag
  split
  · next rest =>
    simp only [Block.isBlankLine, List.all_cons, Bool.and_eq_true] at hblank
    exact absurd hblank.1 (by decide)
  · rfl

theorem endsWord_flatMap_continuation (rest : List (List Char)) :
    EndsWord (rest.flatMap TagLine.continuation) := by
  intro c hc
  cases rest with
  | nil => cases hc
  | cons line rest =>
    simp only [List.flatMap_cons, TagLine.continuation, List.cons_append, List.head?_cons,
      Option.mem_some_iff] at hc
    subst hc
    decide

theorem isApi_of_takeWhile {line after : List Char} (hafter : EndsWord after) {number : Nat}
    {chain : List String} (hword : line.takeWhile (!isBlank ·) = "@api".toList) :
    PendingTag.IsApi ⟨⟨line ++ after, number⟩, chain⟩ := by
  refine ⟨(line ++ after).dropWhile (!isBlank ·), ?_⟩
  rw [Tag.split?, takeWhile_append_of_endsWord line hafter, hword]
  rfl

theorem exists_isApi_of_announcesAtEdge {block : Block}
    (hannounces : block.announcesEndpoint = true)
    (hedge : block.AnnouncesAtEdge) : ∃ pending ∈ block.ownTags, pending.IsApi := by
  obtain ⟨line, hline, htag⟩ := hedge
  obtain ⟨rest, hdropped⟩ := List.head?_eq_some_iff.1 (Option.mem_def.1 hline)
  let blanks := (lines block.text).takeWhile Block.isBlankLine
  have hblanks : ∀ blank ∈ blanks, Block.isBlankLine blank = true := fun blank hmem =>
    List.mem_takeWhile_imp hmem
  have hlines : lines block.text = blanks ++ line :: rest := by
    rw [← hdropped]
    exact (List.takeWhile_append_dropWhile ..).symm
  have htext : block.text = unlines (blanks ++ line :: rest) := by
    rw [← hlines]
    exact (List.intercalate_splitOn '\n').symm
  obtain ⟨tail, rfl⟩ : ∃ tail, line = '@' :: tail := by
    unfold TagLine.startsTag at htag
    split at htag
    · exact ⟨_, rfl⟩
    · cases htag
  obtain ⟨after, hafter, hends⟩ := trimStart_unlines ('@' :: tail) rest hblanks
    (by rintro c ⟨⟩; decide) (List.cons_ne_nil _ _)
  -- The line is what the block starts with when it is trimmed, and also its first tag.
  have hword : ('@' :: tail).takeWhile (!isBlank ·) = "@api".toList := by
    have hfirst := head?_words_trimStart (beq_iff_eq.1 hannounces)
    rwa [htext, hafter, takeWhile_append_of_endsWord _ hends] at hfirst
  refine ⟨⟨⟨('@' :: tail) ++ (rest.takeWhile (!TagLine.startsTag ·)).flatMap TagLine.continuation,
    block.line + (0 + blanks.length)⟩, []⟩, ?_, ?_⟩
  · refine List.mem_map.2 ⟨_, ?_, rfl⟩
    rw [TagLine.ofText, hlines, group_append fun blank hmem =>
      startsTag_eq_false_of_isBlankLine (hblanks blank hmem), TagLine.group, if_pos htag]
    exact List.mem_cons_self ..
  · exact isApi_of_takeWhile (endsWord_flatMap_continuation _) hword

theorem mem_unrolling_of_mem_own {own : List PendingTag} {pending : PendingTag}
    (hmem : pending ∈ own) : pending ∈ unrolling table own := by
  refine List.mem_flatMap.2 ⟨0, ?_, hmem⟩
  exact List.mem_range.2 (Nat.succ_pos _)

theorem not_registrable_blank (file : String) (line : Nat) :
    ¬ (Draft.blank file line).Registrable := by
  rintro ⟨hpath, _⟩
  cases hpath

/-- **No announced endpoint is lost but below the left edge.** If reading a block that announces an
endpoint raises no warning, there is a draft, and it can be registered exactly if an `@api` tag is
reached. An announcement at the left edge is reached, one that is indented deeper is no tag. -/
theorem registrable_iff_isApi_reached (block : Block) (file : String) (table : FragmentTable)
    (hannounces : block.announcesEndpoint = true)
    (hclean : (block.read file table).warnings = []) :
    ∃ draft, (block.read file table).draft = some draft ∧
      (draft.Registrable ↔ ∃ pending ∈ unrolling table block.ownTags, pending.IsApi) ∧
      (block.AnnouncesAtEdge → draft.Registrable) := by
  rw [read_eq_foldTags hannounces file] at hclean ⊢
  obtain ⟨draft, hdraft, hiff⟩ := registrable_foldTags_iff hclean
  have hreached : draft.Registrable ↔
      ∃ pending ∈ unrolling table block.ownTags, pending.IsApi :=
    hiff.trans (or_iff_right (not_registrable_blank file block.line))
  refine ⟨draft, hdraft, hreached, fun hedge => hreached.2 ?_⟩
  obtain ⟨pending, hown, hapi⟩ := exists_isApi_of_announcesAtEdge hannounces hedge
  exact ⟨pending, mem_unrolling_of_mem_own hown, hapi⟩

def evenBlock : Block := ⟨"\n@api {get} /photo Photos\n@apiGroup Photo\n".toList, 1⟩

theorem registrable_evenBlock :
    evenBlock.announcesEndpoint = true ∧ (evenBlock.read "photo.py" .empty).warnings = [] ∧
      ∃ draft, (evenBlock.read "photo.py" .empty).draft = some draft ∧ draft.Registrable := by
  have hannounces : evenBlock.announcesEndpoint = true := by decide
  have hclean : (evenBlock.read "photo.py" .empty).warnings = [] := by
    rw [read_eq_foldTags hannounces]
    decide
  have hedge : evenBlock.AnnouncesAtEdge :=
    ⟨"@api {get} /photo Photos".toList, by decide, by decide⟩
  obtain ⟨draft, hdraft, _, hregistrable⟩ :=
    registrable_iff_isApi_reached evenBlock "photo.py" .empty hannounces hclean
  exact ⟨hannounces, hclean, draft, hdraft, hregistrable hedge⟩

/-- A source whose only block is indented deeper in the line of its announcement than in the next.
-/
def unevenSource : String :=
  "\"\"\"\n    @api {get} /photo Photos\n  @apiGroup Photo\n\"\"\"\n"

/-- The endpoint that the source announces is lost: the draft has neither path nor method, and
nobody is warned. -/
theorem endpoint_lost_in_unevenSource :
    ∃ block ∈ Block.scan Settings.standardDelimiters unevenSource,
      block.announcesEndpoint = true ∧ (block.read "photo.py" .empty).warnings = [] ∧
        ∃ draft, (block.read "photo.py" .empty).draft = some draft ∧ draft.path = "" ∧
          draft.toEndpoint? = none := by
  have hscan : Block.scan Settings.standardDelimiters unevenSource =
      [⟨"\n  @api {get} /photo Photos\n@apiGroup Photo\n".toList, 1⟩] := by
    decide +kernel
  refine ⟨_, by rw [hscan]; exact List.mem_singleton_self _, by decide, ?_⟩
  rw [read_eq_foldTags (by decide)]
  exact ⟨by decide, _, rfl, rfl, rfl⟩

end Announcement

end ApiManual
