import ApiManual.Proofs.Archive
import ApiManual.Proofs.Archive.Naming
import Mathlib.Logic.Equiv.Basic

/-!
# What a folder lists

A folder lists its files in any order. Sorting their names brings the same texts into the same places,
so another listing gives the same records with the same texts of names. Which of two files comes first
whose names are the same text is left to the listing, and only their exchanges can tell. The exchanges
that are read are therefore the same for all listings exactly if such files hold the same exchange.
-/

namespace ApiManual.Archive

/-! ### Files -/

theorem content?_put (archive : Archive) (name : ByteName) (content : ByteArray)
    (other : ByteName) : (archive.put name content).content? other =
      if name = other then some content else archive.content? other := by
  have hfiles : ((archive.files.getD .empty).find? other).map (·.2) = archive.content? other := by
    cases hfiles : archive.files <;> rw [content?, hfiles] <;> rfl
  rw [put, content?, Option.bind_some, Keyed.find?_put]
  split
  · rfl
  · exact hfiles

theorem mem_fileNames_iff {archive : Archive} {name : ByteName} :
    name ∈ archive.fileNames ↔ ∃ content, archive.content? name = some content := by
  cases hfiles : archive.files with
  | none => simp [fileNames, content?, hfiles]
  | some files =>
    simp only [fileNames, content?, hfiles, Option.map_some, Option.getD_some, Option.bind_some,
      ← Keyed.isSome_find?_iff, Option.isSome_iff_exists, Option.map_eq_some_iff]
    constructor
    · rintro ⟨file, hfile⟩
      exact ⟨file.2, file, hfile, rfl⟩
    · rintro ⟨_, file, hfile, _⟩
      exact ⟨file, hfile⟩

theorem nodup_fileNames (archive : Archive) : archive.fileNames.Nodup := by
  cases hfiles : archive.files with
  | none => simp [fileNames, hfiles]
  | some files =>
    simp only [fileNames, hfiles, Option.map_some, Option.getD_some]
    exact files.distinct

theorem fileNames_put_of_mem {archive : Archive} {name : ByteName}
    (hmem : name ∈ archive.fileNames) (content : ByteArray) :
    (archive.put name content).fileNames = archive.fileNames := by
  cases hfiles : archive.files with
  | none => simp [fileNames, hfiles] at hmem
  | some files =>
    simp only [fileNames, hfiles, Option.map_some, Option.getD_some] at hmem
    simp only [put, fileNames, hfiles, Option.map_some, Option.getD_some]
    exact Keyed.keys_put_of_mem hmem

theorem fileNames_put_of_not_mem {archive : Archive} {name : ByteName}
    (hfresh : name ∉ archive.fileNames) (content : ByteArray) :
    (archive.put name content).fileNames = archive.fileNames ++ [name] := by
  cases hfiles : archive.files with
  | none =>
    simp only [put, fileNames, hfiles, Option.map_some, Option.getD_some, Option.getD_none,
      Option.map_none]
    rfl
  | some files =>
    simp only [fileNames, hfiles, Option.map_some, Option.getD_some] at hfresh
    simp only [put, fileNames, hfiles, Option.map_some, Option.getD_some]
    exact Keyed.keys_put_of_not_mem hfresh

theorem recordCount_le_put (archive : Archive) (name : ByteName) (content : ByteArray) :
    archive.recordCount ≤ (archive.put name content).recordCount := by
  by_cases hmem : name ∈ archive.fileNames
  · rw [recordCount, recordCount, fileNames_put_of_mem hmem]
  · rw [recordCount, recordCount, fileNames_put_of_not_mem hmem, List.filter_append,
      List.length_append]
    omega

theorem recordCount_put_of_not_mem {archive : Archive} {name : ByteName}
    (hfresh : name ∉ archive.fileNames) (hrecord : isRecordName name = true)
    (content : ByteArray) : (archive.put name content).recordCount = archive.recordCount + 1 := by
  rw [recordCount, recordCount, fileNames_put_of_not_mem hfresh, List.filter_append,
    List.length_append, List.filter_cons_of_pos hrecord]
  rfl

theorem recordCount_put_le (archive : Archive) (name : ByteName) (content : ByteArray) :
    (archive.put name content).recordCount ≤ archive.recordCount + 1 := by
  by_cases hmem : name ∈ archive.fileNames
  · rw [recordCount, recordCount, fileNames_put_of_mem hmem]
    omega
  · rw [recordCount, recordCount, fileNames_put_of_not_mem hmem, List.filter_append,
      List.length_append]
    exact Nat.add_le_add_left (List.length_filter_le ..) _

/-! ### Records -/

/-- The exchange in the file of a name, if there is one. -/
def exchangeAt? (archive : Archive) (name : ByteName) : Option Exchange :=
  (archive.content? name).bind exchangeOf?

/-- The exchanges that are read, with the names of their files. -/
def records (archive : Archive) : List (ByteName × Exchange) :=
  (recordNames archive.fileNames).filterMap fun name => (archive.exchangeAt? name).map (name, ·)

theorem exchanges_eq_filterMap (archive : Archive) :
    archive.exchanges = (recordNames archive.fileNames).filterMap archive.exchangeAt? := rfl

theorem exchanges_eq_map_records (archive : Archive) :
    archive.exchanges = archive.records.map (·.2) := by
  rw [exchanges_eq_filterMap, records, List.map_filterMap]
  simp [Function.comp_def]

theorem mem_records_iff {archive : Archive} {record : ByteName × Exchange} :
    record ∈ archive.records ↔
      isRecordName record.1 = true ∧ archive.exchangeAt? record.1 = some record.2 := by
  rw [records, List.mem_filterMap]
  constructor
  · rintro ⟨name, hname, hrecord⟩
    obtain ⟨exchange, hexchange, rfl⟩ := Option.map_eq_some_iff.1 hrecord
    exact ⟨(mem_recordNames.1 hname).2, hexchange⟩
  · rintro ⟨hname, hexchange⟩
    obtain ⟨content, hcontent, _⟩ := Option.bind_eq_some_iff.1 hexchange
    refine ⟨record.1, mem_recordNames.2 ⟨mem_fileNames_iff.2 ⟨content, hcontent⟩, hname⟩, ?_⟩
    rw [hexchange]
    rfl

theorem mem_fileNames_of_mem_records {archive : Archive} {record : ByteName × Exchange}
    (hmem : record ∈ archive.records) : record.1 ∈ archive.fileNames := by
  obtain ⟨content, hcontent, -⟩ := Option.bind_eq_some_iff.1 (mem_records_iff.1 hmem).2
  exact mem_fileNames_iff.2 ⟨content, hcontent⟩

theorem pairwise_records {archive : Archive} {relation : ByteName → ByteName → Prop}
    (hnames : (recordNames archive.fileNames).Pairwise relation) :
    archive.records.Pairwise fun a b => relation a.1 b.1 := by
  refine hnames.filterMap _ fun a b hrelation first hfirst second hsecond => ?_
  obtain ⟨_, _, rfl⟩ := Option.map_eq_some_iff.1 hfirst
  obtain ⟨_, _, rfl⟩ := Option.map_eq_some_iff.1 hsecond
  exact hrelation

theorem nodup_map_records (archive : Archive) : (archive.records.map (·.1)).Nodup := by
  have hnames : (recordNames archive.fileNames).Nodup :=
    (List.mergeSort_perm ..).nodup_iff.2 ((nodup_fileNames archive).filter _)
  exact List.pairwise_map.2 (pairwise_records hnames)

/-! ### Other listings -/

/-- The first archive is the second one with its files listed in some order. -/
def Relists (archive original : Archive) : Prop :=
  Option.Rel (fun files others : Listing => files.items.Perm others.items) archive.files
    original.files

variable {archive original : Archive}

theorem Relists.refl (archive : Archive) : archive.Relists archive := by
  unfold Relists
  cases archive.files with
  | none => exact .none
  | some files => exact .some (.refl _)

theorem Relists.content?_eq (hrelists : archive.Relists original) (name : ByteName) :
    archive.content? name = original.content? name := by
  obtain ⟨files⟩ := archive
  obtain ⟨others⟩ := original
  cases hrelists with
  | none => rfl
  | some hperm =>
    rw [content?, content?, Option.bind_some, Option.bind_some, Keyed.find?_congr hperm]

theorem Relists.exchangeAt?_eq (hrelists : archive.Relists original) :
    archive.exchangeAt? = original.exchangeAt? := by
  funext name
  rw [exchangeAt?, exchangeAt?, hrelists.content?_eq]

theorem Relists.fileNames_perm (hrelists : archive.Relists original) :
    archive.fileNames.Perm original.fileNames := by
  obtain ⟨files⟩ := archive
  obtain ⟨others⟩ := original
  cases hrelists with
  | none => exact .refl _
  | some hperm => exact hperm.map _

theorem Relists.records_perm (hrelists : archive.Relists original) :
    archive.records.Perm original.records := by
  rw [records, records, hrelists.exchangeAt?_eq]
  exact (recordNames_perm hrelists.fileNames_perm).filterMap _

/-- In every listing the texts of names are in the same places. -/
theorem Relists.map_text_records (hrelists : archive.Relists original) :
    archive.records.map (·.1.text) = original.records.map (·.1.text) := by
  have hsorted : ∀ archive : Archive,
      (archive.records.map (·.1.text)).Pairwise fun a b => precedes a b = true := fun archive =>
    List.pairwise_map.2 (pairwise_records (pairwise_recordNames archive.fileNames))
  exact (hrelists.records_perm.map _).eq_of_pairwise (fun _ _ _ _ => eq_of_precedes)
    (hsorted archive) (hsorted original)

/-! ### Files that change places -/

section Swap

variable [DecidableEq (ByteName × ByteArray)] {files : Listing} {a b : ByteName × ByteArray}

theorem map_swap_perm (ha : a ∈ files.items) (hb : b ∈ files.items) :
    (files.items.map (Equiv.swap a b)).Perm files.items := by
  have hnodup : files.items.Nodup := files.distinct.of_map
  refine (List.perm_ext_iff_of_nodup (hnodup.map (Equiv.injective _)) hnodup).2 fun file => ?_
  have hmem : file ∈ files.items.map (Equiv.swap a b) ↔ Equiv.swap a b file ∈ files.items := by
    conv_lhs => rw [← Equiv.swap_apply_self a b file]
    exact List.mem_map_of_injective (Equiv.injective _)
  rw [hmem, Equiv.swap_apply_def]
  split
  · next hfile => simp [hfile, ha, hb]
  split
  · next hfile => simp [hfile, ha, hb]
  · rfl

/-- The names of two files change places with them, since no other file has one of the names. -/
theorem map_fst_map_swap (ha : a ∈ files.items) (hb : b ∈ files.items) :
    (files.items.map (Equiv.swap a b)).map (·.1) = files.keys.map (Equiv.swap a.1 b.1) := by
  rw [Keyed.keys, List.map_map, List.map_map]
  refine List.map_congr_left fun file hfile => ?_
  have hname : ∀ other ∈ files.items, file.1 = other.1 ↔ file = other := fun other hother =>
    ⟨Keyed.eq_of_key_eq hfile hother, congrArg Prod.fst⟩
  simp only [Function.comp_apply, Equiv.swap_apply_def, hname a ha, hname b hb]
  split
  · rfl
  · split <;> rfl

/-- The listing in which two files have changed places. -/
def swapped (ha : a ∈ files.items) (hb : b ∈ files.items) : Listing where
  items := files.items.map (Equiv.swap a b)
  distinct := ((map_swap_perm ha hb).map _).nodup_iff.2 files.distinct

end Swap

/-- What is kept of the items of a list, item by item. -/
theorem eq_of_filterMap_eq {α β : Type} {items : List α} {f g : α → Option β}
    (hsome : ∀ item ∈ items, (f item).isSome = (g item).isSome)
    (heq : items.filterMap f = items.filterMap g) : ∀ item ∈ items, f item = g item := by
  induction items with
  | nil => simp
  | cons item items ih =>
    rw [List.forall_mem_cons] at hsome ⊢
    obtain ⟨hfirst, hrest⟩ := hsome
    rw [List.filterMap_cons, List.filterMap_cons] at heq
    cases hf : f item with
    | none =>
      cases hg : g item with
      | none =>
        rw [hf, hg] at heq
        exact ⟨rfl, ih hrest heq⟩
      | some _ => simp [hf, hg] at hfirst
    | some x =>
      cases hg : g item with
      | none => simp [hf, hg] at hfirst
      | some y =>
        rw [hf, hg] at heq
        obtain ⟨hxy, htail⟩ := List.cons.inj heq
        exact ⟨congrArg some hxy, ih hrest htail⟩

/-- Two records whose names are the same text change places in some listing. -/
theorem exists_relists_swap {a b : ByteName × Exchange} (ha : a ∈ archive.records)
    (hb : b ∈ archive.records) (htext : a.1.text = b.1.text) :
    ∃ other : Archive, other.Relists archive ∧
      other.exchanges = (recordNames archive.fileNames).filterMap
        (archive.exchangeAt? ∘ Equiv.swap a.1 b.1) := by
  obtain ⟨haName, haExchange⟩ := mem_records_iff.1 ha
  obtain ⟨hbName, hbExchange⟩ := mem_records_iff.1 hb
  obtain ⟨aContent, haContent, -⟩ := Option.bind_eq_some_iff.1 haExchange
  obtain ⟨bContent, hbContent, -⟩ := Option.bind_eq_some_iff.1 hbExchange
  obtain ⟨_ | files⟩ := archive
  · cases haContent
  obtain ⟨aFile, haFound, -⟩ := Option.map_eq_some_iff.1 haContent
  obtain ⟨bFile, hbFound, -⟩ := Option.map_eq_some_iff.1 hbContent
  obtain ⟨haFile, haKey⟩ := Keyed.find?_eq_some_iff.1 haFound
  obtain ⟨hbFile, hbKey⟩ := Keyed.find?_eq_some_iff.1 hbFound
  have hrelists : (Archive.mk (some (swapped haFile hbFile))).Relists ⟨some files⟩ :=
    .some (map_swap_perm haFile hbFile)
  refine ⟨_, hrelists, ?_⟩
  have hnames : (Archive.mk (some (swapped haFile hbFile))).fileNames =
      (Archive.mk (some files)).fileNames.map (Equiv.swap a.1 b.1) := by
    have hkeys := map_fst_map_swap haFile hbFile
    rw [haKey, hbKey] at hkeys
    exact hkeys
  have hsorted : recordNames ((Archive.mk (some files)).fileNames.map (Equiv.swap a.1 b.1)) =
      (recordNames (Archive.mk (some files)).fileNames).map (Equiv.swap a.1 b.1) :=
    recordNames_map (Equiv.apply_swap_eq_self htext)
      (Equiv.apply_swap_eq_self (haName.trans hbName.symm))
  rw [exchanges_eq_filterMap, hnames, hsorted, List.filterMap_map, hrelists.exchangeAt?_eq]

/-- **When the order of a listing cannot be told.** The exchanges that are read are the same for every
listing of the files exactly if records whose names are the same text hold the same exchange. -/
theorem exchanges_relisted_iff (original : Archive) :
    (∀ archive : Archive, archive.Relists original → archive.exchanges = original.exchanges) ↔
      ∀ a ∈ original.records, ∀ b ∈ original.records, a.1.text = b.1.text → a.2 = b.2 := by
  constructor
  · intro hsame a ha b hb htext
    obtain ⟨other, hother, hexchanges⟩ := exists_relists_swap ha hb htext
    obtain ⟨haName, haExchange⟩ := mem_records_iff.1 ha
    obtain ⟨hbName, hbExchange⟩ := mem_records_iff.1 hb
    have hsome : ∀ name ∈ recordNames original.fileNames,
        ((original.exchangeAt? ∘ Equiv.swap a.1 b.1) name).isSome =
          (original.exchangeAt? name).isSome := by
      intro name _
      refine Equiv.apply_swap_eq_self (v := fun name => (original.exchangeAt? name).isSome) ?_ name
      rw [haExchange, hbExchange]
      rfl
    have hfirst : a.1 ∈ recordNames original.fileNames :=
      mem_recordNames.2 ⟨mem_fileNames_of_mem_records ha, haName⟩
    have hat := eq_of_filterMap_eq hsome
      (hexchanges.symm.trans ((hsame other hother).trans (exchanges_eq_filterMap original)))
      a.1 hfirst
    rw [Function.comp_apply, Equiv.swap_apply_left, haExchange, hbExchange] at hat
    exact (Option.some.inj hat).symm
  · intro hsame archive hrelists
    rw [exchanges_eq_map_records, exchanges_eq_map_records]
    have htexts := hrelists.map_text_records
    refine List.ext_getElem (by simpa using congrArg List.length htexts) fun i hi hj => ?_
    rw [List.length_map] at hi hj
    rw [List.getElem_map, List.getElem_map]
    refine hsame _ (hrelists.records_perm.mem_iff.1 (List.getElem_mem hi)) _
      (List.getElem_mem hj) ?_
    have hat := List.getElem_of_eq htexts (by rwa [List.length_map])
    rwa [List.getElem_map, List.getElem_map] at hat

end ApiManual.Archive
