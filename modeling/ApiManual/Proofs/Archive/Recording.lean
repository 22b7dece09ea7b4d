import ApiManual.Proofs.Archive.Listing
import ApiManual.Proofs.Exchange.Storing
import Mathlib.Data.List.Induction

/-!
# The order of recording

Whatever is saved gets the number of records as its own, so numbers go up as long as no record is
taken away, and files written by hand only make them go up faster. The exchanges that were saved are
therefore read in the order in which they were saved, with the files of others between them, and no
listing of the folder changes that. It may change the order of files written by hand, if there are names
among them that are no UTF-8.
-/

namespace ApiManual.Archive

/-! ### What happened to an archive -/

inductive Event where
  | save (identifier : String) (exchange : Exchange)
  | write (name : ByteName) (content : ByteArray)
  | clean

/-- An archive with what was put into it since it was last cleaned: the exchanges that were saved,
with the names of their files, and the files that were written by hand. -/
structure History where
  archive : Archive
  saved : List (ByteName × Exchange)
  written : List (ByteName × ByteArray)

namespace History

def start : History := ⟨missing, [], []⟩

def apply (history : History) : Event → History
  | .save identifier exchange =>
    let (archive, name) := history.archive.save identifier exchange
    { history with archive, saved := history.saved ++ [(↑name, exchange)] }
  | .write name content =>
    { history with
      archive := history.archive.put name content
      written := history.written ++ [(name, content)] }
  | .clean => ⟨history.archive.clean, [], []⟩

def after (events : List Event) : History := events.foldl apply start

/-- No file that was written by hand has the name of one that was saved. -/
def Apart (history : History) : Prop :=
  ∀ file ∈ history.written, file.1 ∉ history.saved.map (·.1)

/-- Saved exchanges are in the files they were saved to, and those have ascending numbers below the
number that comes next. Every other file was written by hand. -/
structure Sound (history : History) : Prop where
  stored : ∀ record ∈ history.saved,
    history.archive.content? record.1 = some record.2.toJson.indented.toUTF8
  origin : ∀ name content, history.archive.content? name = some content →
    name ∈ history.saved.map (·.1) ∨ (name, content) ∈ history.written
  named : ∀ record ∈ history.saved, isRecordName record.1 = true
  spelled : ∀ record ∈ history.saved, ∃ text : String, record.1 = text
  ascending : history.saved.Pairwise fun a b => numberOf a.1.text < numberOf b.1.text
  below : ∀ record ∈ history.saved, numberOf record.1.text < history.archive.recordCount

theorem sound_start : start.Sound where
  stored _ hmem := absurd hmem List.not_mem_nil
  origin _ _ hcontent := by cases hcontent
  named _ hmem := absurd hmem List.not_mem_nil
  spelled _ hmem := absurd hmem List.not_mem_nil
  ascending := List.Pairwise.nil
  below _ hmem := absurd hmem List.not_mem_nil

variable {history : History}

theorem Sound.write (hsound : history.Sound) {name : ByteName} {content : ByteArray}
    (hapart : (history.apply (.write name content)).Apart) :
    (history.apply (.write name content)).Sound where
  stored record hmem := by
    have hne : name ≠ record.1 := by
      rintro rfl
      exact hapart (record.1, content) (by simp [apply]) (List.mem_map_of_mem hmem)
    exact (content?_put ..).trans ((if_neg hne).trans (hsound.stored record hmem))
  origin other found hfound := by
    have hput : (history.archive.put name content).content? other = some found := hfound
    rw [content?_put] at hput
    split at hput
    · next hname =>
      cases hput
      exact Or.inr (by simp [apply, hname])
    · exact (hsound.origin other found hput).imp_right fun hmem => by simp [apply, hmem]
  named := hsound.named
  spelled := hsound.spelled
  ascending := hsound.ascending
  below record hmem := (hsound.below record hmem).trans_le (recordCount_le_put ..)

/-- The name of a new record is not there yet. -/
theorem Sound.recordName_not_mem (hsound : history.Sound) {identifier : String}
    {exchange : Exchange} (hapart : (history.apply (.save identifier exchange)).Apart)
    (hcount : history.archive.recordCount ≤ noNumber) :
    ↑(recordName history.archive.recordCount identifier) ∉ history.archive.fileNames := by
  intro hmem
  obtain ⟨content, hcontent⟩ := mem_fileNames_iff.1 hmem
  rcases hsound.origin _ _ hcontent with hsaved | hwritten
  · obtain ⟨record, hrecord, hname⟩ := List.mem_map.1 hsaved
    have hbelow := hsound.below record hrecord
    rw [hname, ByteName.text_ofText, numberOf_recordName hcount] at hbelow
    exact Nat.lt_irrefl _ hbelow
  · exact hapart _ hwritten (by simp [apply, save])

theorem Sound.save (hsound : history.Sound) {identifier : String} {exchange : Exchange}
    (hapart : (history.apply (.save identifier exchange)).Apart)
    (hcount : history.archive.recordCount ≤ noNumber) :
    (history.apply (.save identifier exchange)).Sound := by
  let name : ByteName := recordName history.archive.recordCount identifier
  let content := exchange.toJson.indented.toUTF8
  have hnumber : numberOf name.text = history.archive.recordCount := by
    rw [ByteName.text_ofText, numberOf_recordName hcount]
  have hfresh : name ∉ history.archive.fileNames := hsound.recordName_not_mem hapart hcount
  have hrecord : isRecordName name = true := isRecordName_recordName ..
  have hnext : (history.archive.put name content).recordCount = history.archive.recordCount + 1 :=
    recordCount_put_of_not_mem hfresh hrecord content
  have hsaved : ∀ {record : ByteName × Exchange}, record ∈ history.saved ++ [(name, exchange)] →
      record ∈ history.saved ∨ record = (name, exchange) := by
    intro record hmem
    rwa [List.mem_append, List.mem_singleton] at hmem
  refine ⟨fun record hmem => ?_, fun other found hfound => ?_, fun record hmem => ?_,
    fun record hmem => ?_, ?_, fun record hmem => ?_⟩
  · refine (content?_put ..).trans ?_
    rcases hsaved hmem with hmem | rfl
    · have hne : name ≠ record.1 := by
        intro hname
        exact hfresh (mem_fileNames_iff.2 ⟨_, hname ▸ hsound.stored record hmem⟩)
      exact (if_neg hne).trans (hsound.stored record hmem)
    · exact if_pos rfl
  · have hput : (history.archive.put name content).content? other = some found := hfound
    rw [content?_put] at hput
    have hgoal : other ∈ (history.saved ++ [(name, exchange)]).map (·.1) ∨
        (other, found) ∈ history.written := by
      split at hput
      · next hname => exact Or.inl (by simp [hname])
      · refine (hsound.origin other found hput).imp_left fun hmem => ?_
        rw [List.map_append]
        exact List.mem_append_left _ hmem
    exact hgoal
  · rcases hsaved hmem with hmem | rfl
    · exact hsound.named record hmem
    · exact hrecord
  · rcases hsaved hmem with hmem | rfl
    · exact hsound.spelled record hmem
    · exact ⟨_, rfl⟩
  · have hascending : (history.saved ++ [(name, exchange)]).Pairwise
        fun a b => numberOf a.1.text < numberOf b.1.text := by
      refine List.pairwise_append.2 ⟨hsound.ascending, List.pairwise_singleton .., ?_⟩
      intro record hmem last hlast
      rw [List.mem_singleton.1 hlast, hnumber]
      exact hsound.below record hmem
    exact hascending
  · have hbelow : numberOf record.1.text < (history.archive.put name content).recordCount := by
      rw [hnext]
      rcases hsaved hmem with hmem | rfl
      · exact Nat.lt_succ_of_lt (hsound.below record hmem)
      · rw [hnumber]
        exact Nat.lt_succ_self _
    exact hbelow

/-! ### Whole runs -/

theorem after_append_singleton (events : List Event) (event : Event) :
    after (events ++ [event]) = (after events).apply event :=
  List.foldl_concat ..

theorem sound_after {events : List Event} (hapart : (after events).Apart)
    (hcount : (after events).archive.recordCount ≤ noNumber) : (after events).Sound := by
  induction events using List.reverseRecOn with
  | nil => exact sound_start
  | append_singleton events event ih =>
    rw [after_append_singleton] at hapart hcount ⊢
    cases event with
    | save identifier exchange =>
      have hbefore : (after events).archive.recordCount ≤ noNumber :=
        (recordCount_le_put ..).trans hcount
      have hapartBefore : (after events).Apart := by
        intro file hfile hmem
        refine hapart file hfile ?_
        rw [apply, List.map_append]
        exact List.mem_append_left _ hmem
      exact (ih hapartBefore hbefore).save hapart hbefore
    | write name content =>
      have hbefore : (after events).archive.recordCount ≤ noNumber :=
        (recordCount_le_put ..).trans hcount
      have hapartBefore : (after events).Apart := by
        intro file hfile
        exact hapart file (List.mem_append_left _ hfile)
      exact (ih hapartBefore hbefore).write hapart
    | clean => exact sound_start

theorem mem_events_of_mem_saved {events : List Event} {record : ByteName × Exchange}
    (hmem : record ∈ (after events).saved) :
    ∃ identifier, Event.save identifier record.2 ∈ events := by
  induction events using List.reverseRecOn with
  | nil => cases hmem
  | append_singleton events event ih =>
    rw [after_append_singleton] at hmem
    have hearlier : record ∈ (after events).saved →
        ∃ identifier, Event.save identifier record.2 ∈ events ++ [event] := by
      intro hmem
      obtain ⟨identifier, hevent⟩ := ih hmem
      exact ⟨identifier, List.mem_append_left _ hevent⟩
    cases event with
    | save identifier exchange =>
      rcases List.mem_append.1 hmem with hmem | hmem
      · exact hearlier hmem
      · rw [List.mem_singleton.1 hmem]
        exact ⟨identifier, List.mem_append_right _ (List.mem_singleton_self _)⟩
    | write name content => exact hearlier hmem
    | clean => cases hmem

end History

/-! ### Reading what was recorded -/

namespace History

variable {history : History} {archive : Archive}

theorem Sound.nodup_map_text_saved (hsound : history.Sound) :
    (history.saved.map (·.1.text)).Nodup := by
  refine List.pairwise_map.2 (hsound.ascending.imp fun hless heq => ?_)
  rw [heq] at hless
  exact Nat.lt_irrefl _ hless

/-- What is read from the file of a saved exchange is that exchange. -/
theorem Sound.mem_records_of_saved (hsound : history.Sound)
    (hrelists : archive.Relists history.archive) {record saved : ByteName × Exchange}
    (hsaved : saved ∈ history.saved) (hwritten : saved.2.Written) (hname : saved.1 = record.1) :
    record ∈ archive.records ↔ record = saved := by
  have hcontent : archive.exchangeAt? record.1 = some saved.2 := by
    rw [hrelists.exchangeAt?_eq, exchangeAt?, ← hname, hsound.stored saved hsaved, Option.bind_some,
      exchangeOf?_indented hwritten]
  rw [mem_records_iff, hcontent, ← hname, Option.some.injEq]
  constructor
  · rintro ⟨_, hexchange⟩
    exact Prod.ext hname.symm hexchange.symm
  · rintro rfl
    exact ⟨hsound.named record hsaved, rfl⟩

theorem Sound.filter_records (hsound : history.Sound)
    (hrelists : archive.Relists history.archive)
    (hwritten : ∀ record ∈ history.saved, record.2.Written) :
    archive.records.filter (fun record => (history.saved.map (·.1)).contains record.1) =
      history.saved := by
  have hmem : ∀ record, record ∈ archive.records.filter
      (fun record => (history.saved.map (·.1)).contains record.1) ↔ record ∈ history.saved := by
    intro record
    rw [List.mem_filter, List.contains_iff_mem, List.mem_map]
    constructor
    · rintro ⟨hrecord, saved, hsaved, hname⟩
      rwa [(hsound.mem_records_of_saved hrelists hsaved (hwritten saved hsaved) hname).1 hrecord]
    · intro hsaved
      exact ⟨(hsound.mem_records_of_saved hrelists hsaved (hwritten record hsaved) rfl).2 rfl,
        record, hsaved, rfl⟩
  have hdistinct := hsound.nodup_map_text_saved
  have hperm := (List.perm_ext_iff_of_nodup
    ((nodup_map_records archive).of_map.filter _) hdistinct.of_map).2 hmem
  have hfirst := (pairwise_records (pairwise_recordNames archive.fileNames)).filter
    fun record => (history.saved.map (·.1)).contains record.1
  have hsecond : history.saved.Pairwise fun a b => precedes a.1.text b.1.text = true :=
    hsound.ascending.imp fun hless => precedes_iff.2 (Or.inl hless)
  refine hperm.eq_of_pairwise (fun a b ha hb hab hba => ?_) hfirst hsecond
  exact List.inj_on_of_nodup_map hdistinct ((hmem a).1 ha) hb (eq_of_precedes hab hba)

/-- Whatever is read was saved or written by hand. -/
theorem Sound.saved_or_written (hsound : history.Sound)
    (hrelists : archive.Relists history.archive)
    (hwritten : ∀ record ∈ history.saved, record.2.Written) {record : ByteName × Exchange}
    (hmem : record ∈ archive.records) :
    record ∈ history.saved ∨
      ∃ content, (record.1, content) ∈ history.written ∧ exchangeOf? content = some record.2 := by
  obtain ⟨_, hexchange⟩ := mem_records_iff.1 hmem
  rw [hrelists.exchangeAt?_eq] at hexchange
  obtain ⟨content, hcontent, hdecoded⟩ := Option.bind_eq_some_iff.1 hexchange
  rcases hsound.origin record.1 content hcontent with hsaved | hbyHand
  · obtain ⟨saved, hsaved, hname⟩ := List.mem_map.1 hsaved
    rw [(hsound.mem_records_of_saved hrelists hsaved (hwritten saved hsaved) hname).1 hmem]
    exact Or.inl hsaved
  · exact Or.inr ⟨content, hbyHand, hdecoded⟩

/-- Names that are texts are told apart by them. -/
theorem Sound.eq_of_text_eq (hsound : history.Sound)
    (hspelled : ∀ file ∈ history.written, ∃ text : String, file.1 = text)
    {a b : ByteName × Exchange} (ha : a ∈ history.archive.records)
    (hb : b ∈ history.archive.records) (htext : a.1.text = b.1.text) : a = b := by
  have hname : ∀ record ∈ history.archive.records, ∃ text : String, record.1 = text := by
    intro record hmem
    obtain ⟨content, hcontent⟩ := mem_fileNames_iff.1 (mem_fileNames_of_mem_records hmem)
    rcases hsound.origin record.1 content hcontent with hsaved | hbyHand
    · obtain ⟨saved, hsaved, hname⟩ := List.mem_map.1 hsaved
      exact hname ▸ hsound.spelled saved hsaved
    · exact hspelled _ hbyHand
  obtain ⟨first, hfirst⟩ := hname a ha
  obtain ⟨second, hsecond⟩ := hname b hb
  rw [hfirst, hsecond, ByteName.text_ofText, ByteName.text_ofText] at htext
  refine List.inj_on_of_nodup_map (nodup_map_records _) ha hb ?_
  rw [hfirst, hsecond, htext]

end History

/-! ### A folder that was only saved to -/

/-- The archive of a new folder to which exchanges were saved one after the other. -/
def holding (exchanges : List Exchange) : Archive :=
  (History.after (exchanges.map (Event.save "0"))).archive

theorem after_saves (exchanges : List Exchange) :
    let history := History.after (exchanges.map (Event.save "0"))
    history.saved.map (·.2) = exchanges ∧ history.written = [] ∧
      history.archive.recordCount ≤ exchanges.length := by
  induction exchanges using List.reverseRecOn with
  | nil => exact ⟨rfl, rfl, Nat.le_refl 0⟩
  | append_singleton exchanges exchange ih =>
    obtain ⟨hsaved, hwritten, hcount⟩ := ih
    simp only [List.map_append, List.map_singleton, History.after_append_singleton, History.apply,
      save, hsaved, hwritten, List.length_append, List.length_singleton, true_and]
    exact (recordCount_put_le ..).trans (Nat.add_le_add_right hcount 1)

/-- What was saved to a new folder is read from it. -/
theorem exchanges_holding {exchanges : List Exchange}
    (hexchanges : ∀ exchange ∈ exchanges, exchange.Written)
    (hlength : exchanges.length ≤ noNumber) : (holding exchanges).exchanges = exchanges := by
  obtain ⟨hsaved, hwritten, hcount⟩ := after_saves exchanges
  have hsound : (History.after (exchanges.map (Event.save "0"))).Sound := by
    refine History.sound_after (fun file hfile => ?_) (hcount.trans hlength)
    rw [hwritten] at hfile
    cases hfile
  have hstored : ∀ record ∈ (History.after (exchanges.map (Event.save "0"))).saved,
      record.2.Written := by
    intro record hmem
    refine hexchanges _ ?_
    rw [← hsaved]
    exact List.mem_map_of_mem hmem
  have hrecords : (holding exchanges).records =
      (History.after (exchanges.map (Event.save "0"))).saved := by
    rw [← hsound.filter_records (Relists.refl _) hstored, eq_comm, holding, List.filter_eq_self]
    intro record hmem
    rcases hsound.saved_or_written (Relists.refl _) hstored hmem with hmem | ⟨_, hbyHand, _⟩
    · exact List.contains_iff_mem.2 (List.mem_map_of_mem hmem)
    · rw [hwritten] at hbyHand
      cases hbyHand
  rw [exchanges_eq_map_records, hrecords, hsaved]

/-- **Exchanges are read in the order in which they were saved.** Take any run from a missing folder in
which what is saved comes from JSON, no file written by hand has the name of a saved one, and the
folder has no more records than a machine word counts. In whatever order the folder lists its files,
each exchange that was saved since the folder was last cleaned is read once, as it was saved and in the
order of saving, and everything else that is read was written by hand. What is read is the same for
every listing exactly if files whose names are the same text hold the same exchange. That is so
wherever the names of the files written by hand are UTF-8. -/
theorem saved_exchanges_in_order (events : List Event)
    (hread : ∀ identifier exchange, Event.save identifier exchange ∈ events →
      ∃ json, Exchange.ofJson? json = some exchange)
    (hapart : (History.after events).Apart)
    (hcount : (History.after events).archive.recordCount ≤ noNumber) :
    (∀ archive : Archive, archive.Relists (History.after events).archive →
      archive.exchanges = archive.records.map (·.2) ∧
        (archive.records.map (·.1)).Nodup ∧
        archive.records.filter
            (fun record => ((History.after events).saved.map (·.1)).contains record.1) =
          (History.after events).saved ∧
        ∀ record ∈ archive.records, record ∈ (History.after events).saved ∨
          ∃ content, (record.1, content) ∈ (History.after events).written ∧
            exchangeOf? content = some record.2) ∧
    ((∀ archive : Archive, archive.Relists (History.after events).archive →
        archive.exchanges = (History.after events).archive.exchanges) ↔
      ∀ a ∈ (History.after events).archive.records, ∀ b ∈ (History.after events).archive.records,
        a.1.text = b.1.text → a.2 = b.2) ∧
    ((∀ file ∈ (History.after events).written, ∃ text : String, file.1 = text) →
      ∀ archive : Archive, archive.Relists (History.after events).archive →
        archive.exchanges = (History.after events).archive.exchanges) := by
  have hsound := History.sound_after hapart hcount
  have hwritten : ∀ record ∈ (History.after events).saved, record.2.Written := by
    intro record hmem
    obtain ⟨identifier, hevent⟩ := History.mem_events_of_mem_saved hmem
    obtain ⟨json, hjson⟩ := hread identifier record.2 hevent
    exact Exchange.written_of_ofJson? hjson
  refine ⟨fun archive hrelists => ⟨exchanges_eq_map_records archive, nodup_map_records archive,
    hsound.filter_records hrelists hwritten, fun record hmem =>
      hsound.saved_or_written hrelists hwritten hmem⟩, exchanges_relisted_iff _, fun hspelled => ?_⟩
  refine (exchanges_relisted_iff _).2 fun a ha b hb htext => ?_
  rw [hsound.eq_of_text_eq hspelled ha hb htext]

def photoExchange : Exchange where
  request := Request.bare "get" "/photo"
  response := ⟨200, none, .empty, none⟩
  visible := false

def uploadExchange : Exchange where
  request := Request.bare "post" "/photo"
  response := ⟨201, some "Created", .empty, none⟩
  visible := true

theorem written_photoExchange : photoExchange.Written :=
  ⟨Request.written_of_form_eq_none (by decide) rfl, by decide⟩

theorem written_uploadExchange : uploadExchange.Written :=
  ⟨Request.written_of_form_eq_none (by decide) rfl, by decide⟩

/-- A name that is no UTF-8 if the byte is not ASCII. -/
def strayName (byte : UInt8) : ByteName :=
  ⟨Text.utf8Bytes "5-".toList ++ byte :: Text.utf8Bytes ".json".toList⟩

/-- Three files written by hand stand between two saved ones; one of them is no JSON, and the name of
another is no UTF-8. -/
def photoEvents : List Event := [
  .save "lost" photoExchange,
  .clean,
  .save "first" photoExchange,
  .write "2-by-hand.json" uploadExchange.toJson.indented.toUTF8,
  .write "notes.json" "not yet".toUTF8,
  .write (strayName 0xFF) uploadExchange.toJson.indented.toUTF8,
  .save "second" uploadExchange]

/-- The files that are there after these events. -/
def photoFiles : List (ByteName × ByteArray) := [
  (.ofText "000000-first.json", photoExchange.toJson.indented.toUTF8),
  (.ofText "2-by-hand.json", uploadExchange.toJson.indented.toUTF8),
  (.ofText "notes.json", "not yet".toUTF8),
  (strayName 0xFF, uploadExchange.toJson.indented.toUTF8),
  (.ofText "000004-second.json", uploadExchange.toJson.indented.toUTF8)]

/-- Another listing of them, from the last one to the first. -/
def photoArchive : Archive where
  files := some (Keyed.ofList _ photoFiles.reverse)

theorem relists_photoArchive : photoArchive.Relists (History.after photoEvents).archive :=
  .some (List.reverse_perm photoFiles)

theorem saved_exchanges_in_order_photoEvents :
    photoArchive.Relists (History.after photoEvents).archive ∧
      photoArchive.records.filter (fun record =>
          [.ofText "000000-first.json", .ofText "000004-second.json"].contains record.1) =
        [(.ofText "000000-first.json", photoExchange),
          (.ofText "000004-second.json", uploadExchange)] ∧
      photoArchive.exchanges = (History.after photoEvents).archive.exchanges := by
  have hsaved : (History.after photoEvents).saved =
      [(.ofText "000000-first.json", photoExchange),
        (.ofText "000004-second.json", uploadExchange)] := rfl
  have hnames : (History.after photoEvents).written.map (·.1) =
      [.ofText "2-by-hand.json", .ofText "notes.json", strayName 0xFF] := rfl
  have hcount : (History.after photoEvents).archive.recordCount = 5 := rfl
  have hread : ∀ identifier exchange, Event.save identifier exchange ∈ photoEvents →
      ∃ json, Exchange.ofJson? json = some exchange := by
    intro identifier exchange hmem
    simp only [photoEvents, List.mem_cons, Event.save.injEq, reduceCtorEq, List.not_mem_nil,
      false_or, or_false] at hmem
    rcases hmem with ⟨_, rfl⟩ | ⟨_, rfl⟩ | ⟨_, rfl⟩
    · exact ⟨_, Exchange.ofJson?_toJson_self written_photoExchange⟩
    · exact ⟨_, Exchange.ofJson?_toJson_self written_photoExchange⟩
    · exact ⟨_, Exchange.ofJson?_toJson_self written_uploadExchange⟩
  have hapart : (History.after photoEvents).Apart := by
    intro file hfile
    have hname : file.1 ∈ (History.after photoEvents).written.map (·.1) := List.mem_map_of_mem hfile
    rw [hnames] at hname
    rw [hsaved]
    revert hname
    generalize file.1 = name
    simp only [List.mem_cons, List.not_mem_nil, or_false, List.map_cons, List.map_nil]
    rintro (rfl | rfl | rfl) <;> decide
  obtain ⟨hlistings, hsame, -⟩ :=
    saved_exchanges_in_order photoEvents hread hapart (by rw [hcount]; decide)
  have hfiles : (History.after photoEvents).archive.fileNames = photoFiles.map (·.1) := rfl
  have htexts : ((History.after photoEvents).archive.fileNames.map ByteName.text).Nodup := by
    rw [hfiles]
    decide
  obtain ⟨-, -, hfilter, -⟩ := hlistings photoArchive relists_photoArchive
  rw [hsaved] at hfilter
  refine ⟨relists_photoArchive, hfilter,
    hsame.2 (fun a ha b hb htext => ?_) photoArchive relists_photoArchive⟩
  have hname : a.1 = b.1 := List.inj_on_of_nodup_map htexts (mem_fileNames_of_mem_records ha)
    (mem_fileNames_of_mem_records hb) htext
  rw [List.inj_on_of_nodup_map (nodup_map_records _) ha hb hname]

/-- Two files written by hand under names that are the same text. -/
def strayEvents : List Event := [
  .write (strayName 0xFE) photoExchange.toJson.indented.toUTF8,
  .write (strayName 0xFF) uploadExchange.toJson.indented.toUTF8]

/-- The same two files, listed the other way round. -/
def strayArchive : Archive where
  files := some (Keyed.ofList _ [
    (strayName 0xFF, uploadExchange.toJson.indented.toUTF8),
    (strayName 0xFE, photoExchange.toJson.indented.toUTF8)])

/-- The order of the listing decides which of two files is read first if their names are the same
text. -/
theorem listing_decides_strayEvents :
    (∀ identifier exchange, Event.save identifier exchange ∉ strayEvents) ∧
      (History.after strayEvents).Apart ∧
      (History.after strayEvents).archive.recordCount ≤ noNumber ∧
      strayArchive.Relists (History.after strayEvents).archive ∧
      (History.after strayEvents).archive.exchanges = [photoExchange, uploadExchange] ∧
      strayArchive.exchanges = [uploadExchange, photoExchange] := by
  have hrelists : strayArchive.Relists (History.after strayEvents).archive :=
    .some (List.Perm.swap ..)
  have hphoto : strayArchive.exchangeAt? (strayName 0xFE) = some photoExchange := by
    have hcontent : strayArchive.content? (strayName 0xFE) =
        some photoExchange.toJson.indented.toUTF8 := rfl
    rw [exchangeAt?, hcontent, Option.bind_some, exchangeOf?_indented written_photoExchange]
  have hupload : strayArchive.exchangeAt? (strayName 0xFF) = some uploadExchange := by
    have hcontent : strayArchive.content? (strayName 0xFF) =
        some uploadExchange.toJson.indented.toUTF8 := rfl
    rw [exchangeAt?, hcontent, Option.bind_some, exchangeOf?_indented written_uploadExchange]
  refine ⟨fun _ _ => by simp [strayEvents], fun _ _ => List.not_mem_nil, ?_, hrelists, ?_, ?_⟩
  · have hcount : (History.after strayEvents).archive.recordCount = 2 := rfl
    rw [hcount]
    decide
  · have hnames : recordNames (History.after strayEvents).archive.fileNames =
        [strayName 0xFE, strayName 0xFF] := recordNames_of_pairwise (by decide) (by decide)
    rw [exchanges_eq_filterMap, ← hrelists.exchangeAt?_eq, hnames]
    simp [hphoto, hupload]
  · have hnames : recordNames strayArchive.fileNames = [strayName 0xFF, strayName 0xFE] :=
      recordNames_of_pairwise (by decide) (by decide)
    rw [exchanges_eq_filterMap, hnames]
    simp [hphoto, hupload]

end ApiManual.Archive
