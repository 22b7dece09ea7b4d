import ApiManual.Proofs.Annotation.Announcement
import ApiManual.Proofs.Annotation.Inlining
import Mathlib.Data.List.Induction

/-!
# What single tags leave in the outcome of a block

The outcome of a block comes of all its tags together, but much of it can be traced to one tag. Each
warning is a complaint about one of the tags that are reached, that is, of those up to the first `@api`
tag without a path. Method, path, title and line of the draft are set by the last `@api` tag, all of
them at once.
-/

namespace ApiManual

open Text Unrolling

variable {table : FragmentTable} {reading : Reading} {tags : List PendingTag}

/-! ### Warnings -/

namespace Unrolling

/-- The tags that are read: a tag that ends its block is the last one. -/
def reached : List PendingTag → List PendingTag
  | [] => []
  | pending :: rest => if pending.endsBlock then [pending] else pending :: reached rest

theorem mem_of_mem_reached {pending : PendingTag} (hmem : pending ∈ reached tags) :
    pending ∈ tags := by
  fun_induction reached tags with
  | case1 => exact hmem
  | case2 first rest hends => exact List.mem_singleton.1 hmem ▸ List.mem_cons_self ..
  | case3 first rest hends ih =>
    rcases List.mem_cons.1 hmem with rfl | hrest
    · exact List.mem_cons_self ..
    · exact List.mem_cons_of_mem _ (ih hrest)

theorem reached_eq_self (hends : ∀ pending ∈ tags, pending.endsBlock = false) :
    reached tags = tags := by
  induction tags with
  | nil => rfl
  | cons pending rest ih =>
    rw [List.forall_mem_cons] at hends
    rw [reached, hends.1, if_neg Bool.false_ne_true, ih hends.2]

/-- The warning is a complaint about the tag. -/
structure About (table : FragmentTable) (file : String) (pending : PendingTag)
    (warning : Warning) : Prop where
  complaint : ∃ described, warning.complaint ∈ pending.complaints table described
  file : warning.file = file
  line : warning.line = pending.tag.line

theorem mem_warnings_take_iff {pending : PendingTag} {warning : Warning} :
    warning ∈ (reading.take table pending).warnings ↔ warning ∈ reading.warnings ∨
      ∃ complaint ∈ pending.complaints table reading.draft.description.isSome,
        ⟨complaint, reading.draft.file, pending.tag.line⟩ = warning := by
  rw [Reading.take, List.mem_append, List.mem_map]

/-- Every new warning is about a tag that is read. -/
theorem exists_about_of_mem_warnings {warning : Warning}
    (hmem : warning ∈ (foldTags table reading tags).warnings) :
    warning ∈ reading.warnings ∨
      ∃ pending ∈ reached tags, About table reading.draft.file pending warning := by
  have htake : ∀ (reading : Reading) (pending : PendingTag),
      warning ∈ (reading.take table pending).warnings →
        warning ∈ reading.warnings ∨ About table reading.draft.file pending warning := by
    intro reading pending hwarning
    rcases mem_warnings_take_iff.1 hwarning with hold | ⟨complaint, hcomplaint, rfl⟩
    · exact Or.inl hold
    · exact Or.inr ⟨⟨_, hcomplaint⟩, rfl, rfl⟩
  induction tags generalizing reading with
  | nil => exact Or.inl hmem
  | cons pending rest ih =>
    rw [foldTags] at hmem
    rw [reached]
    split at hmem
    · next hends =>
      rw [if_pos hends]
      exact (htake reading pending hmem).imp_right fun habout =>
        ⟨pending, List.mem_singleton_self _, habout⟩
    · next hends =>
      rw [if_neg hends]
      have hfile : (reading.take table pending).draft.file = reading.draft.file :=
        (Inlining.gathered_apply pending reading.draft).2.2
      rcases ih hmem with hfirst | ⟨later, hlater, habout⟩
      · exact (htake reading pending hfirst).imp_right fun habout =>
          ⟨pending, List.mem_cons_self .., habout⟩
      · exact Or.inr ⟨later, List.mem_cons_of_mem _ hlater, hfile ▸ habout⟩

/-- All complaints about a tag that is read become warnings. -/
theorem exists_warnings_of_mem_reached {pending : PendingTag} (hmem : pending ∈ reached tags) :
    ∃ described, ∀ complaint ∈ pending.complaints table described,
      ⟨complaint, reading.draft.file, pending.tag.line⟩ ∈ (foldTags table reading tags).warnings := by
  induction tags generalizing reading with
  | nil => cases hmem
  | cons first rest ih =>
    rw [reached] at hmem
    rw [foldTags]
    split at hmem
    · next hends =>
      obtain rfl := List.mem_singleton.1 hmem
      rw [if_pos hends]
      exact ⟨_, fun complaint hcomplaint =>
        mem_warnings_take_iff.2 (Or.inr ⟨complaint, hcomplaint, rfl⟩)⟩
    · next hends =>
      rw [if_neg hends]
      rcases List.mem_cons.1 hmem with rfl | hrest
      · obtain ⟨more, hmore⟩ :=
          Announcement.warnings_foldTags table (reading.take table pending) rest
        refine ⟨reading.draft.description.isSome, fun complaint hcomplaint => ?_⟩
        rw [hmore]
        exact List.mem_append_left _ (mem_warnings_take_iff.2 (Or.inr ⟨complaint, hcomplaint, rfl⟩))
      · have hfile : (reading.take table first).draft.file = reading.draft.file :=
          (Inlining.gathered_apply first reading.draft).2.2
        rw [← hfile]
        exact ih hrest

end Unrolling

/-! ### Headings -/

/-- What an `@api` tag sets in a draft. -/
structure Heading where
  method : Option String
  path : String
  title : Option String
  line : Nat

def Draft.heading (draft : Draft) : Heading :=
  ⟨draft.method, draft.path, draft.title, draft.line⟩

/-- The heading that an `@api` tag with a path sets. -/
def PendingTag.heading? (pending : PendingTag) : Option Heading :=
  match Tag.split? pending.tag.text with
  | some (.api, _) =>
    let tokens := ApiTokens.ofLine pending.tag.text
    tokens.path.map fun path => ⟨tokens.method, path, tokens.title, pending.tag.line⟩
  | _ => none

namespace PendingTag

theorem heading?_eq_some_iff {pending : PendingTag} {heading : Heading} :
    pending.heading? = some heading ↔
      pending.IsApi ∧ ∃ path, (ApiTokens.ofLine pending.tag.text).path = some path ∧
        heading = ⟨(ApiTokens.ofLine pending.tag.text).method, path,
          (ApiTokens.ofLine pending.tag.text).title, pending.tag.line⟩ := by
  unfold heading? IsApi
  split
  · next rest hsplit =>
    have hapi : ∃ after, Tag.split? pending.tag.text = some (.api, after) := ⟨rest, hsplit⟩
    rw [Option.map_eq_some_iff, and_iff_right hapi]
    exact exists_congr fun path => and_congr_right fun _ => eq_comm
  · next hother =>
    refine iff_of_false (Option.some_ne_none heading).symm ?_
    rintro ⟨⟨rest, hsplit⟩, -⟩
    exact hother rest hsplit

theorem heading?_eq_none_iff {pending : PendingTag} (hends : pending.endsBlock = false) :
    pending.heading? = none ↔ ¬ pending.IsApi := by
  rw [Option.eq_none_iff_forall_ne_some]
  constructor
  · rintro hnone ⟨rest, hsplit⟩
    simp only [endsBlock, hsplit, Option.isNone_eq_false_iff] at hends
    obtain ⟨path, hpath⟩ := Option.isSome_iff_exists.1 hends
    exact hnone _ (heading?_eq_some_iff.2 ⟨⟨rest, hsplit⟩, path, hpath, rfl⟩)
  · intro hother heading hsome
    exact hother (heading?_eq_some_iff.1 hsome).1

theorem heading_apply {pending : PendingTag} (hends : pending.endsBlock = false) (draft : Draft) :
    (pending.apply draft).heading = pending.heading?.getD draft.heading := by
  cases hsplit : Tag.split? pending.tag.text with
  | none => simp [heading?, apply, hsplit]
  | some split =>
    obtain ⟨tag, rest⟩ := split
    cases tag with
    | api =>
      simp only [endsBlock, hsplit, Option.isNone_eq_false_iff] at hends
      obtain ⟨path, hpath⟩ := Option.isSome_iff_exists.1 hends
      simp [heading?, apply, hsplit, hpath, Draft.heading]
    | param carrier =>
      cases hname : (ParamTokens.ofLine pending.tag.text).name <;>
        simp [heading?, apply, hsplit, hname, Draft.heading]
    | _ => simp [heading?, apply, hsplit, Draft.heading]

end PendingTag

namespace Unrolling

/-- When there is a draft, no tag ends the block, and the last heading counts. -/
theorem heading_foldTags {draft : Draft}
    (hdraft : (foldTags table reading tags).draft = some draft) :
    (∀ pending ∈ tags, pending.endsBlock = false) ∧
      draft.heading =
        (tags.reverse.findSome? PendingTag.heading?).getD reading.draft.heading := by
  induction tags generalizing reading with
  | nil =>
    cases hdraft
    exact ⟨fun _ hmem => absurd hmem List.not_mem_nil, rfl⟩
  | cons pending rest ih =>
    rw [foldTags] at hdraft
    split at hdraft
    · cases hdraft
    · next hends =>
      rw [Bool.not_eq_true] at hends
      obtain ⟨hrest, hheading⟩ := ih hdraft
      refine ⟨List.forall_mem_cons.2 ⟨hends, hrest⟩, ?_⟩
      have hfirst : (reading.take table pending).draft.heading =
          pending.heading?.getD reading.draft.heading := PendingTag.heading_apply hends _
      rw [hheading, hfirst, List.reverse_cons, List.findSome?_append, List.findSome?_singleton,
        Option.getD_or]

/-- The tag is the last `@api` tag among some tags. -/
def LastApi (tags : List PendingTag) (pending : PendingTag) : Prop :=
  pending.IsApi ∧ ∃ before after, tags = before ++ pending :: after ∧
    ∀ later ∈ after, ¬ later.IsApi

theorem LastApi.mem {pending : PendingTag} (hlast : LastApi tags pending) : pending ∈ tags := by
  obtain ⟨-, before, after, rfl, -⟩ := hlast
  simp

theorem exists_lastApi (hapi : ∃ pending ∈ tags, pending.IsApi) :
    ∃ pending, LastApi tags pending := by
  induction tags using List.reverseRecOn with
  | nil =>
    obtain ⟨pending, hmem, -⟩ := hapi
    cases hmem
  | append_singleton tags last ih =>
    by_cases hlast : last.IsApi
    · exact ⟨last, hlast, tags, [], rfl, fun _ hmem => absurd hmem List.not_mem_nil⟩
    · obtain ⟨pending, hmem, hpending⟩ := hapi
      have hbefore : pending ∈ tags := by
        rcases List.mem_append.1 hmem with hmem | hmem
        · exact hmem
        · exact absurd (List.mem_singleton.1 hmem ▸ hpending) hlast
      obtain ⟨found, hfound, before, after, rfl, hlater⟩ := ih ⟨pending, hbefore, hpending⟩
      refine ⟨found, hfound, before, after ++ [last], by simp, fun later hmem => ?_⟩
      rcases List.mem_append.1 hmem with hmem | hmem
      · exact hlater later hmem
      · exact List.mem_singleton.1 hmem ▸ hlast

/-- A draft is headed by the last `@api` tag. -/
theorem heading_of_lastApi {draft : Draft} {pending : PendingTag}
    (hdraft : (foldTags table reading tags).draft = some draft) (hlast : LastApi tags pending) :
    pending.heading? = some draft.heading := by
  obtain ⟨hends, hheading⟩ := heading_foldTags hdraft
  obtain ⟨heading, hsome⟩ : ∃ heading, pending.heading? = some heading := by
    refine Option.ne_none_iff_exists'.1 fun hnone => ?_
    exact (PendingTag.heading?_eq_none_iff (hends pending hlast.mem)).1 hnone hlast.1
  obtain ⟨-, before, after, rfl, hlater⟩ := hlast
  have hafter : after.reverse.findSome? PendingTag.heading? = none := by
    rw [List.findSome?_eq_none_iff]
    intro later hmem
    rw [List.mem_reverse] at hmem
    exact (PendingTag.heading?_eq_none_iff (hends later (by simp [hmem]))).2 (hlater later hmem)
  have hfound : (before ++ pending :: after).reverse.findSome? PendingTag.heading? =
      some heading := by
    simp [List.findSome?_append, hafter, hsome]
  rw [hsome, hheading, hfound, Option.getD_some]

/-- Without an `@api` tag a draft keeps its heading. -/
theorem heading_of_not_isApi {draft : Draft}
    (hdraft : (foldTags table reading tags).draft = some draft)
    (hnone : ∀ pending ∈ tags, ¬ pending.IsApi) : draft.heading = reading.draft.heading := by
  obtain ⟨hends, hheading⟩ := heading_foldTags hdraft
  have hfound : tags.reverse.findSome? PendingTag.heading? = none := by
    rw [List.findSome?_eq_none_iff]
    intro pending hmem
    rw [List.mem_reverse] at hmem
    exact (PendingTag.heading?_eq_none_iff (hends pending hmem)).2 (hnone pending hmem)
  rw [hheading, hfound, Option.getD_none]

end Unrolling

end ApiManual
