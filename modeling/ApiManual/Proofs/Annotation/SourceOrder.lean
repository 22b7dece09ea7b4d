import ApiManual.Annotation.Source
import ApiManual.Proofs.Keyed
import ApiManual.Settings

/-!
# The order of sources

All fragments are collected before any endpoint is read, so a source has no part in how another one
is read but for the fragments it declares. Reading looks fragments up by name and in no other way.
Hence what matters about the declarations is only which of them is found under each name: the last
one with that name, be it in a source before or behind the one that uses it. When no name is declared
twice, that does not depend on the order of the sources, and neither does the reading of any of them.
-/

namespace ApiManual

/-! ### Reading looks fragments up by name

Two tables in which the same fragment is found under every name are as good as each other. -/

section Lookup

variable {table other : FragmentTable} (hsame : ∀ name, table.find? name = other.find? name)

include hsame

theorem PendingTag.complaints_congr (described : Bool) (pending : PendingTag) :
    pending.complaints table described = pending.complaints other described := by
  simp only [complaints, Keyed.contains_eq_isSome, hsame]

theorem PendingTag.splice_congr (pending : PendingTag) :
    pending.splice table = pending.splice other := by
  simp only [splice, hsame]

theorem Reading.take_congr (reading : Reading) (pending : PendingTag) :
    reading.take table pending = reading.take other pending := by
  rw [take, take, PendingTag.complaints_congr hsame]

theorem Reading.run_congr (reading : Reading) (queue : List PendingTag) :
    run table reading queue = run other reading queue := by
  induction reading, queue using run.induct table with
  | case1 reading => rw [run, run]
  | case2 reading pending rest hends =>
    rw [run, run, if_pos hends, if_pos hends, take_congr hsame]
  | case3 reading pending rest after hends ih =>
    rw [run, if_neg hends, ih, run, if_neg hends, ← take_congr hsame,
      ← PendingTag.splice_congr hsame]

theorem Block.read_congr (block : Block) (file : String) :
    block.read file table = block.read file other := by
  rw [read, read, Reading.run_congr hsame]

theorem SourceFile.read_congr (delimiters : Delimiters) :
    SourceFile.read delimiters table = SourceFile.read delimiters other := by
  funext source
  simp only [read, Block.read_congr hsame]

end Lookup

/-- The fragment that a block declares. -/
def Block.declares? (block : Block) : Option Fragment :=
  Fragment.ofBlock? block.text

/-- Outcomes one after the other. -/
def SourceOutcome.join (outcomes : List SourceOutcome) : SourceOutcome :=
  ⟨outcomes.flatMap (·.drafts), outcomes.flatMap (·.warnings)⟩

namespace SourceFile

variable {delimiters : Delimiters} {sources : List SourceFile}

/-- The blocks of all sources, source by source. -/
def blocks (delimiters : Delimiters) (sources : List SourceFile) : List Block :=
  sources.flatMap fun source => Block.scan delimiters source.content

/-- What the blocks of all sources declare, in their order. -/
def declared (delimiters : Delimiters) (sources : List SourceFile) : List Fragment :=
  (blocks delimiters sources).filterMap Block.declares?

/-- The last block that declares a fragment of the name declares this one. -/
def LastDeclares (delimiters : Delimiters) (sources : List SourceFile) (name : String)
    (fragment : Fragment) : Prop :=
  ∃ before block after, blocks delimiters sources = before ++ block :: after ∧
    block.declares? = some fragment ∧ fragment.name = name ∧
    ∀ other ∈ after, ∀ later ∈ other.declares?, later.name ≠ name

theorem collectFragments_eq (delimiters : Delimiters) (sources : List SourceFile) :
    collectFragments delimiters sources = Keyed.ofList _ (declared delimiters sources) := by
  rw [declared, blocks, List.filterMap_flatMap]
  rfl

theorem declared_perm {other : List SourceFile} (hperm : sources.Perm other) :
    (declared delimiters sources).Perm (declared delimiters other) :=
  (hperm.flatMap_right _).filterMap _

/-- Under a name stands what the last block with a declaration of the name declares. -/
theorem find?_collectFragments_iff {name : String} {fragment : Fragment} :
    (collectFragments delimiters sources).find? name = some fragment ↔
      LastDeclares delimiters sources name fragment := by
  rw [collectFragments_eq, Keyed.find?_ofList, List.find?_eq_some_iff_append, decide_eq_true_eq]
  constructor
  · rintro ⟨hname, later, earlier, hreverse, hnone⟩
    have hdeclared : declared delimiters sources = earlier.reverse ++ fragment :: later.reverse := by
      rw [← List.reverse_reverse (declared delimiters sources), hreverse]
      simp
    obtain ⟨front, back, hblocks, -, hback⟩ := List.filterMap_eq_append_iff.1 hdeclared
    obtain ⟨silent, block, after, rfl, -, hblock, hafter⟩ := List.filterMap_eq_cons_iff.1 hback
    refine ⟨front ++ silent, block, after, by rw [hblocks, List.append_assoc], hblock, hname, ?_⟩
    intro other hother last hlast
    have hmem : last ∈ later.reverse := hafter ▸ List.mem_filterMap.2 ⟨other, hother, hlast⟩
    simpa using hnone last (List.mem_reverse.1 hmem)
  · rintro ⟨before, block, after, hblocks, hblock, hname, hnone⟩
    refine ⟨hname, (after.filterMap Block.declares?).reverse,
      (before.filterMap Block.declares?).reverse, ?_, ?_⟩
    · rw [declared, hblocks, List.filterMap_append, List.filterMap_cons_some hblock]
      simp
    · intro last hlast
      obtain ⟨other, hother, hdeclares⟩ := List.mem_filterMap.1 (List.mem_reverse.1 hlast)
      simpa using hnone other hother last hdeclares

theorem find?_collectFragments_of_perm {other : List SourceFile} (hperm : sources.Perm other)
    (hdistinct : ((declared delimiters sources).map Fragment.name).Nodup) (name : String) :
    (collectFragments delimiters other).find? name =
      (collectFragments delimiters sources).find? name := by
  have hdeclared : (declared delimiters sources).Perm (declared delimiters other) :=
    declared_perm hperm
  rw [collectFragments_eq, collectFragments_eq]
  refine Keyed.find?_congr ?_ name
  rw [Keyed.items_ofList hdistinct, Keyed.items_ofList ((hdeclared.map _).nodup hdistinct)]
  exact hdeclared.symm

theorem readAll_eq_join {table : FragmentTable}
    (hsame : ∀ name, (collectFragments delimiters sources).find? name = table.find? name) :
    readAll delimiters sources = .join (sources.map (read delimiters table)) := by
  rw [← read_congr hsame]
  rfl

/-- How the sources are read one by one when they are read together. -/
def readAmong (delimiters : Delimiters) (sources : List SourceFile) : SourceFile → SourceOutcome :=
  read delimiters (collectFragments delimiters sources)

/-- **The order of sources does not matter.** Every source is read with the last declaration of each
name, wherever that stands. When no two blocks declare the same name, then in any other order of the
sources the same fragment is found under each name, and the sources are read one by one as before:
the outcome is that of the same readings in the other order. -/
theorem readAll_perm (delimiters : Delimiters) (sources : List SourceFile) :
    (∀ name fragment, (collectFragments delimiters sources).find? name = some fragment ↔
        LastDeclares delimiters sources name fragment) ∧
      (∀ table : FragmentTable,
        (∀ name fragment, table.find? name = some fragment ↔
          LastDeclares delimiters sources name fragment) →
        readAll delimiters sources = .join (sources.map (read delimiters table))) ∧
      (((declared delimiters sources).map Fragment.name).Nodup →
        readAll delimiters sources = .join (sources.map (readAmong delimiters sources)) ∧
          ∀ other, sources.Perm other →
            (∀ name, (collectFragments delimiters other).find? name =
              (collectFragments delimiters sources).find? name) ∧
            readAll delimiters other = .join (other.map (readAmong delimiters sources))) := by
  refine ⟨fun name fragment => find?_collectFragments_iff, fun table htable => ?_,
    fun hdistinct => ⟨readAll_eq_join fun _ => rfl, fun other hperm => ?_⟩⟩
  · refine readAll_eq_join fun name => Option.ext fun fragment => ?_
    rw [find?_collectFragments_iff, htable]
  · have hsame := find?_collectFragments_of_perm hperm hdistinct
    exact ⟨hsame, readAll_eq_join hsame⟩

def usingFile : SourceFile :=
  ⟨"photo.py", "\"\"\"\n@api {get} /photo Photos\n@apiUse Auth\n\"\"\"\n"⟩

def declaringFile : SourceFile :=
  ⟨"auth.py", "\"\"\"\n@apiDefine Auth\n@apiHeadParam token\n\"\"\"\n"⟩

/-- Another declaration of the name that `declaringFile` declares. -/
def overridingFile : SourceFile :=
  ⟨"strict.py", "\"\"\"\n@apiDefine Auth\n@apiHeadParam key\n\"\"\"\n"⟩

theorem readAll_usingFile :
    ((declared Settings.standardDelimiters [usingFile, declaringFile]).map Fragment.name).Nodup ∧
      readAll Settings.standardDelimiters [declaringFile, usingFile] =
        .join ([declaringFile, usingFile].map
          (readAmong Settings.standardDelimiters [usingFile, declaringFile])) ∧
      (readAmong Settings.standardDelimiters [usingFile, declaringFile] usingFile).warnings = [] ∧
      LastDeclares Settings.standardDelimiters [usingFile, declaringFile, overridingFile] "Auth"
        ⟨"Auth", none, none, "@apiHeadParam key\n\n".toList⟩ := by
  have hdistinct : ((declared Settings.standardDelimiters
      [usingFile, declaringFile]).map Fragment.name).Nodup := by
    decide +kernel
  obtain ⟨-, -, hperm⟩ := readAll_perm Settings.standardDelimiters [usingFile, declaringFile]
  obtain ⟨hlast, -⟩ :=
    readAll_perm Settings.standardDelimiters [usingFile, declaringFile, overridingFile]
  refine ⟨hdistinct, ((hperm hdistinct).2 _ (.swap ..)).2, ?_, (hlast _ _).1 ?_⟩
  · decide +kernel
  · decide +kernel

end SourceFile

end ApiManual
