import ApiManual.Proofs.Annotation.Outcome
import ApiManual.Proofs.Manual.Built

/-!
# What gets into a built manual

The documented endpoints of a built manual are those of blocks whose last `@api` tag has a path and,
before the path, a pair of braces. The path starts with a slash, and the method, which is what is
between the braces, is in small letters. But braces are a method even when they hold nothing but
blanks: only when there are none a warning is raised and the block left out. So an endpoint is given
the empty method exactly if the braces are blank.
-/

namespace ApiManual

open Text Unrolling

/-- The text between the first braces of an `@api` tag, when they end before the path starts. -/
def ApiTokens.braces? (line : List Char) : Option (List Char) :=
  ((Span.bracketed? '{' '}' line).filter fun braces =>
    (Span.path? line).all fun path => braces.stop ≤ path.start).map (·.text)

theorem ApiTokens.method_ofLine (line : List Char) :
    (ofLine line).method =
      (braces? line).map fun braces => lowercase (String.ofList (trim braces)) := by
  rw [braces?, Option.map_map]
  cases hpath : Span.path? line <;> simp [ofLine, hpath, Function.comp_def]

/-- Lowering and trimming leave nothing of a text exactly if it is blank. -/
theorem lowercase_trim_eq_empty_iff {text : List Char} :
    lowercase (String.ofList (trim text)) = "" ↔ ∀ c ∈ text, isBlank c = true := by
  rw [lowercase, String.toList_ofList, ← trim_eq_nil_iff, ← lower_eq_nil_iff]
  exact String.ofList_inj

namespace PendingTag

def braces? (pending : PendingTag) : Option (List Char) :=
  ApiTokens.braces? pending.tag.text

theorem method_eq_none_iff {pending : PendingTag} :
    (ApiTokens.ofLine pending.tag.text).method = none ↔ pending.braces? = none := by
  rw [ApiTokens.method_ofLine, Option.map_eq_none_iff, braces?]

theorem missingMethod_mem_complaints {pending : PendingTag} (hapi : pending.IsApi)
    (hbraces : pending.braces? = none) (table : FragmentTable) (described : Bool) :
    Complaint.missingMethod ∈ pending.complaints table described := by
  obtain ⟨rest, hsplit⟩ := hapi
  simp [complaints, hsplit, method_eq_none_iff.2 hbraces]

end PendingTag

/-! ### Endpoints of drafts -/

theorem Endpoint.place_addParams (endpoint : Endpoint) (params : List Param) :
    (endpoint.addParams params).path = endpoint.path ∧
      (endpoint.addParams params).method = endpoint.method := by
  induction params generalizing endpoint with
  | nil => exact ⟨rfl, rfl⟩
  | cons param params ih =>
    obtain ⟨hpath, hmethod⟩ := ih (endpoint.addParam param)
    refine ⟨hpath.trans ?_, hmethod.trans ?_⟩
    · unfold addParam
      split <;> rfl
    · unfold addParam
      split <;> rfl

theorem Draft.toEndpoint?_eq_none_iff {draft : Draft} :
    draft.toEndpoint? = none ↔ draft.method = none :=
  Option.map_eq_none_iff

theorem Draft.toEndpoint?_eq_some {draft : Draft} {endpoint : Endpoint}
    (hendpoint : draft.toEndpoint? = some endpoint) :
    endpoint.path = draft.path ∧ ∃ method, draft.method = some method ∧
      endpoint.method = lowercase method := by
  obtain ⟨method, hmethod, rfl⟩ := Option.map_eq_some_iff.1 hendpoint
  obtain ⟨hpath, hlower⟩ := Endpoint.place_addParams
    { Endpoint.bare draft.path method with
      tags := draft.group.toList
      displayName := draft.title
      description := draft.description
      roles := draft.permissions } (draft.params.map DraftParam.toParam)
  exact ⟨hpath, method, hmethod, hlower⟩

/-! ### Blocks of sources -/

namespace SourceFile

variable {delimiters : Delimiters} {sources : List SourceFile}

theorem exists_block_of_mem_drafts {draft : Draft}
    (hmem : draft ∈ (readAll delimiters sources).drafts) :
    ∃ source ∈ sources, ∃ block ∈ Block.scan delimiters source.content,
      (block.read source.name (collectFragments delimiters sources)).draft = some draft := by
  obtain ⟨outcome, houtcome, hdraft⟩ := List.mem_flatMap.1 hmem
  obtain ⟨source, hsource, rfl⟩ := List.mem_map.1 houtcome
  obtain ⟨result, hresult, hsome⟩ := List.mem_filterMap.1 hdraft
  obtain ⟨block, hblock, rfl⟩ := List.mem_map.1 hresult
  exact ⟨source, hsource, block, hblock, hsome⟩

theorem mem_warnings_of_block {source : SourceFile} (hsource : source ∈ sources) {block : Block}
    (hblock : block ∈ Block.scan delimiters source.content) {warning : Warning}
    (hwarning : warning ∈
      (block.read source.name (collectFragments delimiters sources)).warnings) :
    warning ∈ (readAll delimiters sources).warnings :=
  List.mem_flatMap.2 ⟨_, List.mem_map_of_mem hsource,
    List.mem_flatMap.2 ⟨_, List.mem_map_of_mem hblock, hwarning⟩⟩

end SourceFile

/-- The tags of a block and of all that is spliced into it from the sources. -/
def Block.tagsIn (settings : Settings) (sources : List SourceFile) (block : Block) :
    List PendingTag :=
  unrolling (SourceFile.collectFragments settings.delimiters sources) block.ownTags

namespace Report

variable {settings : Settings} {sources : List SourceFile}

/-- Where a documented endpoint comes from: the last `@api` tag of a block has its path, and between
its braces the method. -/
theorem exists_api_of_documented {endpoint : Endpoint}
    (hmem : endpoint ∈ Registry.documented (ofSources settings sources).manual.registry) :
    ∃ source ∈ sources, ∃ block ∈ Block.scan settings.delimiters source.content,
      ∃ api braces, LastApi (block.tagsIn settings sources) api ∧
        (ApiTokens.ofLine api.tag.text).path = some endpoint.path ∧
        api.braces? = some braces ∧
        endpoint.method = lowercase (String.ofList (trim braces)) := by
  obtain ⟨draft, hdraft, hendpoint⟩ := exists_draft_of_documented hmem
  obtain ⟨source, hsource, block, hblock, hread⟩ := SourceFile.exists_block_of_mem_drafts hdraft
  obtain ⟨hpath, method, hmethod, hlower⟩ := Draft.toEndpoint?_eq_some hendpoint
  refine ⟨source, hsource, block, hblock, ?_⟩
  have hannounces : block.announcesEndpoint = true := by
    by_contra hnone
    rw [Block.read, if_neg hnone] at hread
    cases hread
  rw [read_eq_foldTags hannounces] at hread
  by_cases hreached : ∃ pending ∈ block.tagsIn settings sources, pending.IsApi
  · obtain ⟨api, hlast⟩ := exists_lastApi hreached
    obtain ⟨-, path, hsome, heq⟩ :=
      PendingTag.heading?_eq_some_iff.1 (heading_of_lastApi hread hlast)
    have hsamePath : draft.path = path := congrArg Heading.path heq
    have hsameMethod : draft.method = (ApiTokens.ofLine api.tag.text).method :=
      congrArg Heading.method heq
    rw [hmethod, ApiTokens.method_ofLine, eq_comm, Option.map_eq_some_iff] at hsameMethod
    obtain ⟨braces, hbraces, rfl⟩ := hsameMethod
    rw [lowercase_lowercase] at hlower
    exact ⟨api, braces, hlast, by rw [hsome, hpath, hsamePath], hbraces, hlower⟩
  · -- without any such tag the draft has no method, and makes no endpoint
    have hblank := heading_of_not_isApi hread fun pending hmem hapi =>
      hreached ⟨pending, hmem, hapi⟩
    have hnone : draft.method = none := congrArg Heading.method hblank
    rw [hnone] at hmethod
    cases hmethod

variable {source : SourceFile} {block : Block}

/-- An `@api` tag without braces is warned about when it is read. -/
theorem missingMethod_mem_warnings (hsource : source ∈ sources)
    (hblock : block ∈ Block.scan settings.delimiters source.content)
    (hannounces : block.announcesEndpoint = true) {api : PendingTag}
    (hreached : api ∈ reached (block.tagsIn settings sources)) (hapi : api.IsApi)
    (hbraces : api.braces? = none) :
    ⟨.missingMethod, source.name, api.tag.line⟩ ∈ (ofSources settings sources).warnings := by
  refine SourceFile.mem_warnings_of_block hsource hblock ?_
  rw [read_eq_foldTags hannounces]
  obtain ⟨described, hwarnings⟩ := exists_warnings_of_mem_reached hreached
  exact hwarnings _ (PendingTag.missingMethod_mem_complaints hapi hbraces _ described)

/-- The last `@api` tag of a block decides whether an endpoint is made of it. If none is made, the tag
has been warned about. -/
theorem toEndpoint?_of_lastApi (hsource : source ∈ sources)
    (hblock : block ∈ Block.scan settings.delimiters source.content)
    (hannounces : block.announcesEndpoint = true) {draft : Draft}
    (hdraft : (block.read source.name
      (SourceFile.collectFragments settings.delimiters sources)).draft = some draft)
    {api : PendingTag} (hlast : LastApi (block.tagsIn settings sources) api) :
    (draft.toEndpoint? = none ↔ api.braces? = none) ∧
      (draft.toEndpoint? = none →
        ⟨.missingMethod, source.name, draft.line⟩ ∈ (ofSources settings sources).warnings) := by
  rw [read_eq_foldTags hannounces] at hdraft
  obtain ⟨-, path, -, heq⟩ := PendingTag.heading?_eq_some_iff.1 (heading_of_lastApi hdraft hlast)
  have hmethod : draft.method = (ApiTokens.ofLine api.tag.text).method :=
    congrArg Heading.method heq
  have hline : draft.line = api.tag.line := congrArg Heading.line heq
  have hbraces : draft.toEndpoint? = none ↔ api.braces? = none := by
    rw [Draft.toEndpoint?_eq_none_iff, hmethod, PendingTag.method_eq_none_iff]
  refine ⟨hbraces, fun hnone => ?_⟩
  have hreached : api ∈ reached (block.tagsIn settings sources) := by
    rw [Block.tagsIn, reached_eq_self (heading_foldTags hdraft).1]
    exact hlast.mem
  rw [hline]
  exact missingMethod_mem_warnings hsource hblock hannounces hreached hlast.1 (hbraces.1 hnone)

/-- **Documented endpoints have a path and what stands between braces.** Every documented endpoint of
a built manual has a path that starts with a slash and a method in small letters, the one between the
braces of the last `@api` tag of a block. That method is empty exactly when the braces are blank. An
`@api` tag without braces is warned about when it is read. No endpoint is made of a block exactly when
its last `@api` tag is such a tag, and then the warning has the line of the draft. -/
theorem documented_admitted (settings : Settings) (sources : List SourceFile) :
    (∀ endpoint ∈ Registry.documented (ofSources settings sources).manual.registry,
      endpoint.path.toList.head? = some '/' ∧ lowercase endpoint.method = endpoint.method ∧
        ∃ source ∈ sources, ∃ block ∈ Block.scan settings.delimiters source.content,
          ∃ api braces, LastApi (block.tagsIn settings sources) api ∧
            api.braces? = some braces ∧
            endpoint.method = lowercase (String.ofList (trim braces)) ∧
            (endpoint.method = "" ↔ ∀ c ∈ braces, isBlank c = true)) ∧
    ∀ source ∈ sources, ∀ block ∈ Block.scan settings.delimiters source.content,
      block.announcesEndpoint = true →
        (∀ api ∈ reached (block.tagsIn settings sources), api.IsApi → api.braces? = none →
          ⟨.missingMethod, source.name, api.tag.line⟩ ∈ (ofSources settings sources).warnings) ∧
        ∀ draft ∈ (block.read source.name
            (SourceFile.collectFragments settings.delimiters sources)).draft,
          ∀ api, LastApi (block.tagsIn settings sources) api →
            (draft.toEndpoint? = none ↔ api.braces? = none) ∧
              (draft.toEndpoint? = none →
                ⟨.missingMethod, source.name, draft.line⟩ ∈
                  (ofSources settings sources).warnings) := by
  constructor
  · intro endpoint hmem
    obtain ⟨source, hsource, block, hblock, api, braces, hlast, hpath, hbraces, hmethod⟩ :=
      exists_api_of_documented hmem
    refine ⟨Announcement.head?_path_ofLine hpath, ?_, source, hsource, block, hblock, api, braces,
      hlast, hbraces, hmethod, ?_⟩
    · rw [hmethod, lowercase_lowercase]
    · rw [hmethod, lowercase_trim_eq_empty_iff]
  · intro source hsource block hblock hannounces
    refine ⟨fun api hreached hapi hbraces => ?_, fun draft hdraft api hlast => ?_⟩
    · exact missingMethod_mem_warnings hsource hblock hannounces hreached hapi hbraces
    · exact toEndpoint?_of_lastApi hsource hblock hannounces hdraft hlast

/-- A source with a block whose `@api` tag has its method in capitals, and a block without one. -/
def albumSource : SourceFile :=
  ⟨"photo.py", "\"\"\"\n@api {GET} /photo Photos\n\"\"\"\n\"\"\"\n@api /album Albums\n\"\"\"\n"⟩

def albumBlock : Block := ⟨"\n@api /album Albums\n".toList, 4⟩

/-- The one endpoint is documented with its method in small letters, and the tag without a method is
warned about at its line. -/
theorem documented_albumSource :
    (∃ endpoint ∈ Registry.documented
        (ofSources (Settings.standard "/tmp") [albumSource]).manual.registry,
      endpoint.method = "get" ∧ endpoint.path.toList.head? = some '/' ∧
        lowercase endpoint.method = endpoint.method) ∧
      ⟨.missingMethod, "photo.py", 5⟩ ∈
        (ofSources (Settings.standard "/tmp") [albumSource]).warnings := by
  obtain ⟨hdocumented, hblocks⟩ := documented_admitted (Settings.standard "/tmp") [albumSource]
  have hdrafts : (SourceFile.readAll (Settings.standard "/tmp").delimiters [albumSource]).drafts =
      [{ Draft.blank "photo.py" 2 with
          method := some "get", path := "/photo", title := some "Photos" },
        { Draft.blank "photo.py" 5 with path := "/album", title := some "Albums" }] := by
    decide +kernel
  obtain ⟨endpoint, hmem, hmethod⟩ : ∃ endpoint ∈ Registry.documented
      (ofSources (Settings.standard "/tmp") [albumSource]).manual.registry,
        endpoint.method = "get" := by
    rw [ofSources, hdrafts]
    exact ⟨_, List.mem_cons_self .., rfl⟩
  obtain ⟨hpath, hlower, -⟩ := hdocumented endpoint hmem
  refine ⟨⟨endpoint, hmem, hmethod, hpath, hlower⟩, ?_⟩
  have hblock : albumBlock ∈
      Block.scan (Settings.standard "/tmp").delimiters albumSource.content := by
    decide +kernel
  have hreached : ⟨⟨"@api /album Albums \n".toList, 5⟩, []⟩ ∈
      reached (albumBlock.tagsIn (Settings.standard "/tmp") [albumSource]) := by
    decide +kernel
  have hwarned := (hblocks albumSource (List.mem_singleton_self _) albumBlock hblock (by decide)).1
  exact hwarned _ hreached ⟨" /album Albums \n".toList, by decide⟩ (by decide)

/-- A source whose only block has braces with nothing between them. -/
def blankSource : SourceFile :=
  ⟨"photo.py", "\"\"\"\n@api {} /photo Photos\n\"\"\"\n"⟩

/-- The braces without a method pass for a method: nobody is warned, and the endpoint is documented
with the empty method. -/
theorem documented_blankSource :
    (ofSources (Settings.standard "/tmp") [blankSource]).warnings = [] ∧
      ∃ endpoint ∈ Registry.documented
          (ofSources (Settings.standard "/tmp") [blankSource]).manual.registry,
        endpoint.path = "/photo" ∧ endpoint.method = "" := by
  have hread : SourceFile.readAll (Settings.standard "/tmp").delimiters [blankSource] =
      ⟨[{ Draft.blank "photo.py" 2 with
          method := some "", path := "/photo", title := some "Photos" }], []⟩ := by
    decide +kernel
  rw [ofSources, hread]
  exact ⟨rfl, _, List.mem_cons_self .., rfl, rfl⟩

end Report

end ApiManual
