import ApiManual.Proofs.Publish.Files
import ApiManual.Proofs.Registry.Grouping

/-!
# The pages of a published manual

The page of an article is named after its title, that of an endpoint after its path and method, and
in both many characters are written as hyphens. Different entities can so get pages of one name, and
then the page that is written later takes the place of the earlier one: its entity has no page any
more, and its link in the index leads to the page of the other one. Whether a page is lost in this way
is decided by the names alone.
-/

namespace ApiManual

namespace Page

open Registry Workspace

/-! ### Names of pages -/

/-- The files of all entities that have a page, in the order of the index. -/
def entityFiles (manual : Manual) : List String :=
  manual.articles.map articleFile ++ (documented manual.registry).map endpointFile

theorem slash_not_mem_snakeCase (afterSmall : Bool) (title : List Char) :
    '/' ∉ Article.snakeCase afterSmall title := by
  have hkept : ∀ c, Article.keptInName c ≠ '/' := by
    intro c heq
    have hslash : Article.isAlphanumeric '/' = false := by decide +kernel
    unfold Article.keptInName at heq
    split at heq
    · next hc =>
      rw [heq, hslash] at hc
      cases hc
    · cases heq
  induction title generalizing afterSmall with
  | nil => exact List.not_mem_nil
  | cons c rest ih =>
    rw [Article.snakeCase, List.mem_append, List.mem_append]
    rintro ((hmem | hmem) | hmem)
    · split at hmem <;> simp at hmem
    · obtain ⟨small, _, hsmall⟩ := List.mem_map.1 hmem
      exact hkept small hsmall
    · exact ih _ hmem

theorem toList_articleFile (article : Article) :
    (articleFile article).toList = '-' :: article.pageName.toList ++ ".md".toList := by
  rw [articleFile, String.toList_append, String.toList_append]
  rfl

theorem toList_endpointFile (endpoint : Endpoint) :
    (endpointFile endpoint).toList = endpoint.pageName.toList ++ ".md".toList := by
  rw [endpointFile, String.toList_append]

/-- Every letter is a letter of the key, with hyphens for slashes. -/
theorem toList_pageName (endpoint : Endpoint) : ∃ front,
    endpoint.pageName.toList = (front ++ '-' :: endpoint.method.toList).map fun c =>
      if c = '/' then '-' else c := by
  have hkey : endpoint.key.toList = endpoint.path.toList ++ '-' :: endpoint.method.toList := by
    have hhyphen : "-".toList = ['-'] := by decide
    rw [Endpoint.key, String.toList_append, String.toList_append, hhyphen, List.append_assoc,
      List.singleton_append]
  rw [Endpoint.pageName, String.toList_ofList, hkey]
  cases hpath : endpoint.path.toList with
  | nil => exact ⟨[], rfl⟩
  | cons c rest =>
    by_cases hc : c = '/'
    · rw [hc]
      exact ⟨rest, rfl⟩
    · refine ⟨c :: rest, ?_⟩
      simp [Text.stripStart?, Ne.symm hc]

theorem fileName_of_md {name : String} {front : List Char}
    (hname : name.toList = front ++ ".md".toList) (hslash : '/' ∉ front) : FileName name := by
  have hm : 'm' ∈ name.toList := by
    rw [hname]
    exact List.mem_append_right _ (by decide)
  refine ⟨?_, ?_, ?_⟩
  · rw [hname, List.mem_append, not_or]
    exact ⟨hslash, by decide⟩
  · have hstay : ¬ (name = "" ∨ name = ".") := by
      rintro (rfl | rfl)
      · exact absurd hm (by decide)
      · exact absurd hm (by decide)
    rw [stepOf, if_neg hstay]
  · rintro rfl
    exact absurd hm (by decide)

theorem fileName_articleFile (article : Article) : FileName (articleFile article) := by
  refine fileName_of_md (toList_articleFile article) ?_
  rw [List.mem_cons, not_or, Article.pageName, String.toList_ofList]
  exact ⟨by decide, slash_not_mem_snakeCase _ _⟩

theorem fileName_endpointFile (endpoint : Endpoint) : FileName (endpointFile endpoint) := by
  refine fileName_of_md (toList_endpointFile endpoint) fun hmem => ?_
  obtain ⟨front, hfront⟩ := toList_pageName endpoint
  obtain ⟨c, _, hc⟩ := List.mem_map.1 (hfront ▸ hmem)
  split at hc
  · cases hc
  · next hne => exact hne hc

theorem fileName_indexFile : FileName indexFile := by
  have hname : indexFile.toList = "index".toList ++ ".md".toList := by decide
  exact fileName_of_md hname (by decide)

/-- The index has a name of its own: all other names have a hyphen. -/
theorem indexFile_not_mem_entityFiles (manual : Manual) : indexFile ∉ entityFiles manual := by
  have hindex : '-' ∉ indexFile.toList := by decide
  rw [entityFiles, List.mem_append, List.mem_map, List.mem_map]
  rintro (⟨article, _, heq⟩ | ⟨endpoint, _, heq⟩)
  · refine hindex (heq ▸ ?_)
    rw [toList_articleFile]
    exact List.mem_cons_self
  · obtain ⟨front, hfront⟩ := toList_pageName endpoint
    refine hindex (heq ▸ ?_)
    rw [toList_endpointFile, hfront]
    refine List.mem_append_left _ (List.mem_map.2 ⟨'-', ?_, rfl⟩)
    exact List.mem_append_right _ List.mem_cons_self

/-! ### All pages -/

theorem mem_all_iff {manual : Manual} {file : String × String} :
    file ∈ all manual ↔
      (∃ article ∈ manual.articles, (articleFile article, ofArticle article) = file) ∨
      (∃ endpoint ∈ documented manual.registry,
        (endpointFile endpoint, ofEndpoint endpoint) = file) ∨
      file = (indexFile, index manual) := by
  have hendpoints : ∀ endpoint,
      endpoint ∈ documented manual.registry ↔
        ∃ node ∈ tree manual.registry, endpoint ∈ node.2.filter (!·.companion) := fun endpoint => by
    rw [← (flatMap_tree_documented_perm manual.registry).mem_iff, List.mem_flatMap]
  rw [all, List.mem_append, List.mem_append, List.mem_map, List.mem_flatMap, List.mem_singleton,
    or_assoc]
  refine or_congr Iff.rfl (or_congr ?_ Iff.rfl)
  constructor
  · rintro ⟨node, hnode, hmem⟩
    obtain ⟨endpoint, hendpoint, heq⟩ := List.mem_map.1 hmem
    exact ⟨endpoint, (hendpoints endpoint).2 ⟨node, hnode, hendpoint⟩, heq⟩
  · rintro ⟨endpoint, hmem, heq⟩
    obtain ⟨node, hnode, hendpoint⟩ := (hendpoints endpoint).1 hmem
    exact ⟨node, hnode, List.mem_map.2 ⟨endpoint, hendpoint, heq⟩⟩

theorem files_all_perm (manual : Manual) :
    ((all manual).map (·.1)).Perm (indexFile :: entityFiles manual) := by
  have hendpoints : ((tree manual.registry).flatMap fun node =>
      (node.2.filter (!·.companion)).map endpointFile).Perm
        ((documented manual.registry).map endpointFile) := by
    have hall := (flatMap_tree_documented_perm manual.registry).map endpointFile
    rwa [List.map_flatMap] at hall
  rw [all, List.map_append, List.map_append, List.map_flatMap, List.map_map]
  simp only [List.map_map]
  exact ((hendpoints.append_left _).append_right _).trans (List.perm_append_singleton ..)

theorem fileName_of_mem_all {manual : Manual} {file : String × String} (hmem : file ∈ all manual) :
    FileName file.1 := by
  rcases mem_all_iff.1 hmem with ⟨article, _, rfl⟩ | ⟨endpoint, _, rfl⟩ | rfl
  · exact fileName_articleFile article
  · exact fileName_endpointFile endpoint
  · exact fileName_indexFile

/-- Articles are listed in the index first, endpoints after them, and each once. -/
theorem index_lists (manual : Manual) : ∃ opening between,
    index manual = opening ++ String.join (manual.articles.map articleEntry) ++ between
      ++ String.join ((documented manual.registry).map endpointEntry) := by
  have harticles : ∃ before after,
      (if manual.articles.isEmpty then ""
        else "## Documents\n\n" ++ String.join (manual.articles.map articleEntry) ++ "\n") =
        before ++ String.join (manual.articles.map articleEntry) ++ after := by
    cases manual.articles with
    | nil => exact ⟨"", "", rfl⟩
    | cons => exact ⟨_, _, rfl⟩
  have hendpoints : ∃ before,
      (if (documented manual.registry).isEmpty then ""
        else "## Resources\n\n"
          ++ String.join ((documented manual.registry).map endpointEntry)) =
        before ++ String.join ((documented manual.registry).map endpointEntry) := by
    cases documented manual.registry with
    | nil => exact ⟨"", rfl⟩
    | cons => exact ⟨_, rfl⟩
  obtain ⟨before, after, harticles⟩ := harticles
  obtain ⟨between, hendpoints⟩ := hendpoints
  have hjoin : ∀ head a b c d e : String,
      head ++ (a ++ b ++ c) ++ (d ++ e) = head ++ a ++ b ++ (c ++ d) ++ e := by
    simp only [String.append_assoc, implies_true]
  rw [index, harticles, hendpoints]
  exact ⟨_, _, hjoin ..⟩

end Page

namespace Publish

open Page Registry Workspace

variable {workspace : Workspace} {folder : String} {manual : Manual}

/-! ### Pages that are kept -/

/-- The file holds the page of an entity, and the entity's entry in the index links to the file. The
target of a link is the name of the file as it is written there. How a reader of Markdown follows a
target with a blank, a closing parenthesis or a percent sign is not looked at. -/
structure Shown (workspace : Workspace) (folder file page label entry : String) : Prop where
  holds : workspace.read (joinPath folder file) = .ok page.toUTF8
  links : ∃ rest, entry = "- [" ++ label ++ "](" ++ file ++ ")" ++ rest

/-- The folder holds an index and a file for each article and each documented endpoint, and nothing
else. The index has an entry for each of them, which links to the file with its page. -/
structure EveryPageKept (workspace : Workspace) (folder : String) (manual : Manual) : Prop where
  files : (workspace.filesUnder folder).Perm (indexFile :: entityFiles manual)
  distinct : (workspace.filesUnder folder).Nodup
  noFolder : ∀ place item, workspace.locate folder = .ok place → item ∈ workspace.items →
    place <+: item.1 → item.1 ≠ place → item.2.isFolder = false
  index : workspace.read (joinPath folder indexFile) = .ok (Page.index manual).toUTF8
  entries : ∃ opening between,
    Page.index manual = opening ++ String.join (manual.articles.map articleEntry) ++ between
      ++ String.join ((documented manual.registry).map endpointEntry)
  article : ∀ article ∈ manual.articles,
    Shown workspace folder (articleFile article) (ofArticle article) article.title
      (articleEntry article)
  endpoint : ∀ endpoint ∈ documented manual.registry,
    Shown workspace folder (endpointFile endpoint) (ofEndpoint endpoint)
      ("`" ++ uppercase endpoint.method ++ "` `" ++ endpoint.path ++ "`") (endpointEntry endpoint)

theorem EveryPageKept.nodup_entityFiles (hkept : EveryPageKept workspace folder manual) :
    (entityFiles manual).Nodup :=
  (List.nodup_cons.1 (hkept.files.nodup_iff.1 hkept.distinct)).2

theorem HoldsOnly.read {files : List (String × String)} (hholds : HoldsOnly workspace folder files)
    (hnames : (files.map (·.1)).Nodup) {name text : String} (hmem : (name, text) ∈ files) :
    workspace.read (joinPath folder name) = .ok text.toUTF8 := by
  obtain ⟨last, hthere, hname, hlast⟩ := exists_last hmem
  obtain rfl := List.inj_on_of_nodup_map hnames hthere hmem hname
  exact hholds.read_last _ _ hlast

theorem everyPageKept_of_holdsOnly (hholds : HoldsOnly workspace folder (all manual))
    (hnames : (entityFiles manual).Nodup) : EveryPageKept workspace folder manual := by
  have hperm := files_all_perm manual
  have hfiles : ((all manual).map (·.1)).Nodup :=
    hperm.nodup_iff.2 (List.nodup_cons.2 ⟨indexFile_not_mem_entityFiles manual, hnames⟩)
  refine ⟨?_, hholds.nodup, hholds.noFolder, ?_, index_lists manual, fun article hmem => ⟨?_, ?_⟩,
    fun endpoint hmem => ⟨?_, ?_⟩⟩
  · exact ((List.perm_ext_iff_of_nodup hholds.nodup hfiles).2 hholds.mem_iff).trans hperm
  · exact hholds.read hfiles (mem_all_iff.2 (Or.inr (Or.inr rfl)))
  · exact hholds.read hfiles (mem_all_iff.2 (Or.inl ⟨article, hmem, rfl⟩))
  · have hclose : ")\n" = ")" ++ "\n" := by decide
    exact ⟨"\n", by simp only [articleEntry, hclose, String.append_assoc]⟩
  · exact hholds.read hfiles (mem_all_iff.2 (Or.inr (Or.inl ⟨endpoint, hmem, rfl⟩)))
  · have hopen : "- [`" = "- [" ++ "`" := by decide
    have hmiddle : "`](" = "`" ++ "](" := by decide
    have hclose : ") " = ")" ++ " " := by decide
    refine ⟨" " ++ endpoint.displayName.getD "" ++ "\n", ?_⟩
    simp only [endpointEntry, hopen, hmiddle, hclose, String.append_assoc]

theorem pages_eq_refill (manual : Manual) (folder : String) :
    pages manual folder = refill folder (all manual) :=
  rfl

/-- **No page is lost** exactly when the names of the pages differ. Whatever the folder held before,
it then holds the index and the page of each entity under the name that the index links to. -/
theorem every_page_kept_iff {session after : Session} {paths : List String}
    (hgrounded : session.workspace.Grounded) (hsome : folder ≠ "") (hdown : Downward folder)
    (hends : (pages manual folder).Ends session paths after) :
    EveryPageKept after.workspace folder manual ↔ (entityFiles manual).Nodup := by
  rw [pages_eq_refill] at hends
  have hholds : HoldsOnly after.workspace folder (all manual) :=
    holdsOnly_of_refill hgrounded hsome hdown (fun file hmem => fileName_of_mem_all hmem) hends
  exact ⟨EveryPageKept.nodup_entityFiles, everyPageKept_of_holdsOnly hholds⟩

/-- An article and two endpoints of one path. -/
def photoManual : Manual where
  title := "Photos"
  version := none
  baseUri := none
  mediaType := none
  protocols := []
  articles := [⟨"Getting started", some "Ask for a photo."⟩]
  registry := insertAll .empty [.bare "/photo" "get", .bare "/photo" "post"]

theorem every_page_kept_photoManual :
    ∃ paths after, (pages photoManual "site").Ends (Session.on .empty) paths after ∧
      EveryPageKept after.workspace "site" photoManual := by
  have hok :
      ((pages photoManual "site" : Task SessionM _).run (Session.on .empty)).1.isOk = true := by
    decide +kernel
  have hdown : Downward "site" := by
    unfold Downward
    decide
  obtain ⟨paths, after, hends⟩ := Task.exists_ends hok
  exact ⟨paths, after, hends,
    (every_page_kept_iff grounded_empty (by decide) hdown hends).2 (by decide +kernel)⟩

/-- Endpoints of two paths that differ in nothing but a hyphen for a slash. -/
def albumManual : Manual :=
  { photoManual with
    registry := insertAll .empty [.bare "/photo/album" "get", .bare "/photo-album" "get"] }

theorem page_lost_albumManual :
    ∃ paths after, (pages albumManual "site").Ends (Session.on .empty) paths after ∧
      ¬ EveryPageKept after.workspace "site" albumManual := by
  have hok :
      ((pages albumManual "site" : Task SessionM _).run (Session.on .empty)).1.isOk = true := by
    decide +kernel
  obtain ⟨paths, after, hends⟩ := Task.exists_ends hok
  have hclash : ¬ (entityFiles albumManual).Nodup := by decide +kernel
  exact ⟨paths, after, hends, fun hkept => hclash hkept.nodup_entityFiles⟩

end Publish

end ApiManual
