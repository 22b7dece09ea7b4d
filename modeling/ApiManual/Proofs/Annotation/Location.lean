import ApiManual.Proofs.Annotation.Outcome
import Mathlib.Logic.Relation

/-!
# Where warnings point

A tag carries the line that it is reported at along with it, and hands it on to the tags that it
splices in. Those stand in fragments, perhaps of other files, and where they stand there is lost. So
whatever tag a warning is about, and however many fragments it came through, its line is that of one
of the block's own tags: the tag itself, or the one that uses the first of the fragments.
-/

namespace ApiManual

open Text Unrolling

/-- A line of the block's own text begins the tag, and the tag is reported there. -/
def Block.Begins (block : Block) (tag : TagLine) : Prop :=
  ∃ offset line, (lines block.text)[offset]? = some line ∧ TagLine.startsTag line = true ∧
    line <+: tag.text ∧ tag.line = block.line + offset

/-- The one tag splices in the other. -/
def PendingTag.Splices (table : FragmentTable) (pending spliced : PendingTag) : Prop :=
  spliced ∈ pending.splice table

/-- The tag is an own tag of the block, or came through the fragment that an own tag uses, and it is
reported at the line of the own tag. -/
def Block.Locates (block : Block) (table : FragmentTable) (pending : PendingTag) : Prop :=
  ∃ own ∈ block.ownTags, block.Begins own.tag ∧
    Relation.ReflTransGen (PendingTag.Splices table) own pending ∧
    pending.tag.line = own.tag.line ∧
    (pending = own ∨ ∃ rest names, Tag.split? own.tag.text = some (.use, rest) ∧
      pending.chain = PendingTag.usedName rest :: names)

namespace Location

variable {table : FragmentTable} {block : Block} {pending : PendingTag}

/-! ### Own tags -/

theorem exists_line_of_mem_group {lineOf : Nat → Nat} {offset : Nat} {texts : List (List Char)}
    {tag : TagLine} (hmem : tag ∈ TagLine.group lineOf offset texts) :
    ∃ index line, texts[index]? = some line ∧ TagLine.startsTag line = true ∧
      line <+: tag.text ∧ tag.line = lineOf (offset + index) := by
  induction texts generalizing offset with
  | nil => cases hmem
  | cons line rest ih =>
    have hlater : tag ∈ TagLine.group lineOf (offset + 1) rest →
        ∃ index text, (line :: rest)[index]? = some text ∧ TagLine.startsTag text = true ∧
          text <+: tag.text ∧ tag.line = lineOf (offset + index) := by
      intro hrest
      obtain ⟨index, text, hindex, hstarts, hbegins, hline⟩ := ih hrest
      refine ⟨index + 1, text, hindex, hstarts, hbegins, ?_⟩
      rw [hline, Nat.add_assoc, Nat.add_comm 1]
    unfold TagLine.group at hmem
    split at hmem
    · next hstarts =>
      rcases List.mem_cons.1 hmem with rfl | hrest
      · exact ⟨0, line, rfl, hstarts, List.prefix_append .., rfl⟩
      · exact hlater hrest
    · exact hlater hmem

theorem begins_of_mem_ownTags (hmem : pending ∈ block.ownTags) : block.Begins pending.tag := by
  obtain ⟨tag, htag, rfl⟩ := List.mem_map.1 hmem
  obtain ⟨offset, line, hoffset, hstarts, hbegins, hline⟩ := exists_line_of_mem_group htag
  rw [Nat.zero_add] at hline
  exact ⟨offset, line, hoffset, hstarts, hbegins, hline⟩

/-! ### Spliced tags -/

theorem line_of_mem_ofText {number : Nat} {text : List Char} {tag : TagLine}
    (hmem : tag ∈ TagLine.ofText (fun _ => number) text) : tag.line = number := by
  obtain ⟨-, -, -, -, -, hline⟩ := exists_line_of_mem_group hmem
  exact hline

/-- Every tag of a level goes back to a tag that the levels start with. -/
theorem exists_own_of_mem_level {own : List PendingTag} {depth : Nat}
    (hmem : pending ∈ level table own depth) :
    ∃ first ∈ own, Relation.ReflTransGen (PendingTag.Splices table) first pending := by
  induction depth generalizing pending with
  | zero => exact ⟨pending, hmem, .refl⟩
  | succ depth ih =>
    obtain ⟨parent, hparent, hspliced⟩ := List.mem_flatMap.1 hmem
    obtain ⟨first, hfirst, hsplices⟩ := ih hparent
    exact ⟨first, hfirst, hsplices.tail hspliced⟩

/-- Along splices the line stays, and so does the first name of the chain once there is one. -/
theorem line_and_chain_of_splices {own : PendingTag} (hown : own.chain = [])
    (hsplices : Relation.ReflTransGen (PendingTag.Splices table) own pending) :
    pending.tag.line = own.tag.line ∧
      (pending = own ∨ ∃ rest names, Tag.split? own.tag.text = some (.use, rest) ∧
        pending.chain = PendingTag.usedName rest :: names) := by
  induction hsplices with
  | refl => exact ⟨rfl, Or.inl rfl⟩
  | tail _ hspliced ih =>
    obtain ⟨rest, fragment, hsplit, -, -, htag, hchain⟩ := mem_splice_iff.1 hspliced
    obtain ⟨hline, horigin⟩ := ih
    refine ⟨(line_of_mem_ofText htag).trans hline, Or.inr ?_⟩
    rcases horigin with rfl | ⟨first, names, huses, hnames⟩
    · exact ⟨rest, [], hsplit, by rw [hchain, hown, List.nil_append]⟩
    · exact ⟨first, names ++ [PendingTag.usedName rest], huses, by
        rw [hchain, hnames, List.cons_append]⟩

theorem locates_of_mem_unrolling (hmem : pending ∈ unrolling table block.ownTags) :
    block.Locates table pending := by
  obtain ⟨depth, -, hlevel⟩ := List.mem_flatMap.1 hmem
  obtain ⟨own, hown, hsplices⟩ := exists_own_of_mem_level hlevel
  obtain ⟨hline, horigin⟩ := line_and_chain_of_splices (chain_of_mem_ownTags hown) hsplices
  exact ⟨own, hown, begins_of_mem_ownTags hown, hsplices, hline, horigin⟩

/-- **Every line that is reported is a line of the block itself.** Each warning is about a tag and has
the line of that tag, and the draft has the line of the last `@api` tag, when there is one. These
lines, at any depth of fragments, are lines of the block's own text that begin with an at sign: that
of the tag, or that of the `@apiUse` tag by which the first of its fragments was used. -/
theorem read_located (block : Block) (file : String) (table : FragmentTable) :
    (∀ warning ∈ (block.read file table).warnings,
      ∃ pending ∈ unrolling table block.ownTags,
        About table file pending warning ∧ block.Locates table pending) ∧
    ∀ draft ∈ (block.read file table).draft,
      (∃ pending ∈ unrolling table block.ownTags, pending.IsApi) →
        ∃ pending, LastApi (unrolling table block.ownTags) pending ∧
          draft.line = pending.tag.line ∧ block.Locates table pending := by
  by_cases hannounces : block.announcesEndpoint = true
  · rw [read_eq_foldTags hannounces file]
    constructor
    · intro warning hwarning
      obtain ⟨pending, hreached, habout⟩ :=
        (exists_about_of_mem_warnings hwarning).resolve_left List.not_mem_nil
      have hmem := mem_of_mem_reached hreached
      exact ⟨pending, hmem, habout, locates_of_mem_unrolling hmem⟩
    · intro draft hdraft hapi
      obtain ⟨pending, hlast⟩ := exists_lastApi hapi
      obtain ⟨-, path, -, heq⟩ :=
        PendingTag.heading?_eq_some_iff.1 (heading_of_lastApi hdraft hlast)
      exact ⟨pending, hlast, congrArg Heading.line heq, locates_of_mem_unrolling hlast.mem⟩
  · rw [Block.read, if_neg hannounces]
    refine ⟨fun warning hwarning => ?_, fun draft hdraft => ?_⟩
    · cases hwarning
    · cases hdraft

def relays : FragmentTable :=
  Keyed.ofList _ [⟨"Relay", none, none, "@apiUse Pong\n".toList⟩,
    ⟨"Pong", none, none, "\n\n@api {put} /pong Pong\n@apiUse Nothing\n".toList⟩]

/-- The tag on the sixth line of a source brings in another `@api` tag and an unknown fragment. -/
def relayBlock : Block := ⟨"@api {get} /ping Ping\n\n@apiUse Relay\n".toList, 4⟩

theorem read_relayBlock :
    (relayBlock.read "ping.py" relays).warnings = [⟨.unknownFragment "Nothing", "ping.py", 6⟩] ∧
      (∃ pending, About relays "ping.py" pending ⟨.unknownFragment "Nothing", "ping.py", 6⟩ ∧
        relayBlock.Locates relays pending) ∧
      ∃ draft, (relayBlock.read "ping.py" relays).draft = some draft ∧ draft.path = "/pong" ∧
        draft.line = 6 ∧ ∃ pending, draft.line = pending.tag.line ∧
          relayBlock.Locates relays pending := by
  have hannounces : relayBlock.announcesEndpoint = true := by decide
  have hwarnings : (relayBlock.read "ping.py" relays).warnings =
      [⟨.unknownFragment "Nothing", "ping.py", 6⟩] := by
    decide +kernel
  have hheading : (relayBlock.read "ping.py" relays).draft.map (fun draft =>
      (draft.path, draft.line)) = some ("/pong", 6) := by
    decide +kernel
  have hedge : relayBlock.AnnouncesAtEdge :=
    ⟨"@api {get} /ping Ping".toList, by decide, by decide⟩
  obtain ⟨draft, hdraft, heq⟩ := Option.map_eq_some_iff.1 hheading
  obtain ⟨hpath, hline⟩ := Prod.mk.inj heq
  obtain ⟨api, hown, hapi⟩ := Announcement.exists_isApi_of_announcesAtEdge hannounces hedge
  obtain ⟨hwarned, hheaded⟩ := read_located relayBlock "ping.py" relays
  obtain ⟨pending, -, habout, hlocates⟩ :=
    hwarned ⟨.unknownFragment "Nothing", "ping.py", 6⟩ (hwarnings ▸ List.mem_singleton_self _)
  obtain ⟨last, -, hlast, hlocates'⟩ :=
    hheaded draft hdraft ⟨api, Announcement.mem_unrolling_of_mem_own hown, hapi⟩
  exact ⟨hwarnings, ⟨pending, habout, hlocates⟩, draft, hdraft, hpath, hline, last, hlast,
    hlocates'⟩

end Location

end ApiManual
