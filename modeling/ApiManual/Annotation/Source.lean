import ApiManual.Annotation.Reading

/-!
# Reading sources

Sources are read twice. The first pass collects the fragments of all files, the second reads the
endpoints of each file with all fragments at hand, so a fragment may be used before it is declared
and from any file.
-/

namespace ApiManual

structure SourceFile where
  name : String
  content : String
deriving DecidableEq, Repr

/-- The drafts and warnings of some sources, in the order of the sources. -/
structure SourceOutcome where
  drafts : List Draft
  warnings : List Warning
deriving DecidableEq, Repr

namespace SourceFile

def fragmentsIn (delimiters : Delimiters) (content : String) : List Fragment :=
  (Block.scan delimiters content).filterMap fun block => Fragment.ofBlock? block.text

/-- The fragments of all sources. Of fragments with the same name the last one counts. -/
def collectFragments (delimiters : Delimiters) (sources : List SourceFile) : FragmentTable :=
  Keyed.ofList _ (sources.flatMap fun source => fragmentsIn delimiters source.content)

def read (delimiters : Delimiters) (table : FragmentTable) (source : SourceFile) : SourceOutcome :=
  let outcomes := (Block.scan delimiters source.content).map fun block =>
    block.read source.name table
  ⟨outcomes.filterMap (·.draft), outcomes.flatMap (·.warnings)⟩

/-- Reads every source with the fragments of all of them. -/
def readAll (delimiters : Delimiters) (sources : List SourceFile) : SourceOutcome :=
  let table := collectFragments delimiters sources
  let outcomes := sources.map (read delimiters table)
  ⟨outcomes.flatMap (·.drafts), outcomes.flatMap (·.warnings)⟩

end SourceFile

end ApiManual
