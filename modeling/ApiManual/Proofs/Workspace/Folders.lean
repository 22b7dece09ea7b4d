import ApiManual.Proofs.Keyed
import ApiManual.Workspace.Basic
import ApiManual.Workspace.Path
import Mathlib.Data.List.Infix

/-!
# Paths that lead into folders

A path without steps upwards leads to the place that its names spell, in every workspace in which the
place and everything above it are folders. Folders that are made along the path are the only new
things, and a file of the last folder is found under the path of the folder and its name.
-/

namespace ApiManual.Workspace

variable {workspace other : Workspace} {place : Place}

theorem entry?_eq_find? (hroot : place ≠ []) :
    workspace.entry? place = (workspace.find? place).map (·.2) :=
  if_neg hroot

theorem entry?_put (workspace : Workspace) {at_ : Place} (entry : Entry) (hroot : place ≠ []) :
    Workspace.entry? (workspace.put (at_, entry)) place =
      if at_ = place then some entry else workspace.entry? place := by
  rw [entry?_eq_find? hroot, entry?_eq_find? hroot, Keyed.find?_put]
  split <;> rfl

/-- Folders stand at the place and everywhere above it. -/
def Stands (workspace : Workspace) (place : Place) : Prop :=
  ∀ above, above <+: place → workspace.entry? above = some .folder

theorem stands_root (workspace : Workspace) : workspace.Stands [] := by
  intro above habove
  rw [List.prefix_nil.1 habove]
  rfl

theorem Stands.folder (hstands : workspace.Stands place) :
    workspace.entry? place = some .folder :=
  hstands place (List.prefix_refl _)

theorem Stands.put_file (hstands : workspace.Stands place) (name : String) (entry : Entry) :
    Stands (workspace.put (place ++ [name], entry)) place := by
  intro above habove
  by_cases hroot : above = []
  · rw [hroot]
    rfl
  · have hne : place ++ [name] ≠ above := by
      rintro rfl
      have hlength := habove.length_le
      rw [List.length_append, List.length_singleton] at hlength
      omega
    rw [entry?_put workspace entry hroot, if_neg hne]
    exact hstands above habove

/-! ### Following names -/

/-- The step that a name of a path makes downwards. -/
def stepOf (name : String) : Place :=
  if name = "" ∨ name = "." then [] else [name]

theorem follow_eq_ok {name : String} {next : Place} (hdown : name ≠ "..")
    (hfollow : workspace.follow place name = .ok next) :
    workspace.entry? place = some .folder ∧ next = place ++ stepOf name := by
  unfold follow at hfollow
  split at hfollow
  · cases hfollow
  · cases hfollow
  · next hfolder =>
    refine ⟨hfolder, ?_⟩
    rw [if_neg hdown] at hfollow
    by_cases hstay : name = "" ∨ name = "."
    · rw [if_pos hstay] at hfollow
      rw [stepOf, if_pos hstay, List.append_nil]
      exact (Except.ok.inj hfollow).symm
    · rw [if_neg hstay] at hfollow
      rw [stepOf, if_neg hstay]
      split at hfollow
      · cases hfollow
      · exact (Except.ok.inj hfollow).symm

/-- What a step gives depends on nothing but the folder it starts in. -/
theorem follow_congr (hfolder : workspace.entry? place = some .folder)
    (hother : other.entry? place = some .folder) (name : String) :
    other.follow place name = workspace.follow place name := by
  rw [follow, follow, hfolder, hother]

theorem foldlM_follow_eq_ok {names : List String} {start : Place} (hdown : ".." ∉ names)
    (hplace : names.foldlM workspace.follow start = .ok place) :
    place = start ++ names.flatMap stepOf := by
  induction names generalizing start with
  | nil =>
    cases hplace
    simp
  | cons name names ih =>
    rw [List.mem_cons, not_or] at hdown
    rw [List.foldlM_cons] at hplace
    obtain ⟨next, hnext, hrest⟩ := exists_of_bind_eq_ok hplace
    obtain ⟨_, rfl⟩ := follow_eq_ok (Ne.symm hdown.1) hnext
    rw [ih hdown.2 hrest, List.flatMap_cons, List.append_assoc]

theorem foldlM_follow_of_stands {names : List String} {start : Place} (hdown : ".." ∉ names)
    (hplace : names.foldlM workspace.follow start = .ok place) (hstands : other.Stands place) :
    names.foldlM other.follow start = .ok place := by
  induction names generalizing start with
  | nil => exact hplace
  | cons name names ih =>
    have hstart : start <+: place := ⟨_, (foldlM_follow_eq_ok hdown hplace).symm⟩
    rw [List.mem_cons, not_or] at hdown
    rw [List.foldlM_cons] at hplace ⊢
    obtain ⟨next, hnext, hrest⟩ := exists_of_bind_eq_ok hplace
    obtain ⟨hfolder, _⟩ := follow_eq_ok (Ne.symm hdown.1) hnext
    rw [follow_congr hfolder (hstands start hstart), hnext]
    exact ih hdown.2 hrest

/-! ### Paths -/

/-- A path without steps upwards. -/
def Downward (path : String) : Prop :=
  ".." ∉ (path.toList.splitOn '/').map String.ofList

theorem names_eq_ok_iff {path : String} {names : List String} :
    Workspace.names path = .ok names ↔ '\x00' ∉ path.toList ∧ path ≠ "" ∧
      path.toList.head? ≠ some '/' ∧ names = (path.toList.splitOn '/').map String.ofList := by
  unfold Workspace.names
  by_cases hnul : '\x00' ∈ path.toList
  · rw [if_pos (by simpa using hnul)]
    simp [hnul]
  · rw [if_neg (by simpa using hnul)]
    by_cases hsome : path = "" ∨ path.toList.head? = some '/'
    · rw [if_pos (by simpa using hsome)]
      rcases hsome with hempty | hhead
      · simp [hempty]
      · simp [hhead]
    · rw [if_neg (by simpa using hsome)]
      rw [not_or] at hsome
      simp [hnul, hsome.1, hsome.2, eq_comm]

theorem names_eq_ok {path : String} {names : List String}
    (hnames : Workspace.names path = .ok names) :
    names = (path.toList.splitOn '/').map String.ofList :=
  (names_eq_ok_iff.1 hnames).2.2.2

theorem locate_eq_ok {path : String} (hdown : Downward path)
    (hplace : workspace.locate path = .ok place) :
    place = ((path.toList.splitOn '/').map String.ofList).flatMap stepOf := by
  obtain ⟨names, hnames, hfollow⟩ := exists_of_bind_eq_ok hplace
  obtain rfl := names_eq_ok hnames
  simpa using foldlM_follow_eq_ok hdown hfollow

theorem locate_of_stands {path : String} (hdown : Downward path)
    (hplace : workspace.locate path = .ok place) (hstands : other.Stands place) :
    other.locate path = .ok place := by
  obtain ⟨names, hnames, hfollow⟩ := exists_of_bind_eq_ok hplace
  obtain rfl := names_eq_ok hnames
  rw [locate, hnames]
  exact foldlM_follow_of_stands hdown hfollow hstands

/-! ### Making folders -/

theorem prefix_append_stepOf {above start : Place} {name : String}
    (habove : above <+: start ++ stepOf name) :
    above <+: start ∨ above = start ++ stepOf name := by
  by_cases hstay : name = "" ∨ name = "."
  · rw [stepOf, if_pos hstay, List.append_nil] at habove
    exact Or.inl habove
  · rw [stepOf, if_neg hstay] at habove ⊢
    exact (List.prefix_concat_iff.1 habove).symm

theorem enter_eq_ok {made : Workspace} {start next : Place} {name : String}
    (hdown : name ≠ "..") (hstands : workspace.Stands start)
    (henter : enter (workspace, start) name = .ok (made, next)) :
    workspace.follow start name = .ok next ∧ made.Stands next ∧
      ∀ item ∈ made.items, item ∈ workspace.items ∨ item.1 = next := by
  obtain ⟨found, hfollow, hmade⟩ := exists_of_bind_eq_ok henter
  obtain ⟨_, hstep⟩ := follow_eq_ok hdown hfollow
  split at hmade
  · next hfolder =>
    cases hmade
    refine ⟨hfollow, fun above habove => ?_, fun item hmem => Or.inl hmem⟩
    rcases prefix_append_stepOf (hstep ▸ habove) with hprefix | heq
    · exact hstands above hprefix
    · rw [heq, ← hstep]
      exact hfolder
  · cases hmade
  · next hnone =>
    cases hmade
    refine ⟨hfollow, fun above habove => ?_, fun item hmem => ?_⟩
    · by_cases hroot : above = []
      · rw [hroot]
        rfl
      · rw [entry?_put workspace .folder hroot]
        split
        · rfl
        · next hne =>
          rcases prefix_append_stepOf (hstep ▸ habove) with hprefix | heq
          · exact hstands above hprefix
          · exact absurd (heq.trans hstep.symm).symm hne
    · rcases Keyed.eq_or_mem_of_mem_put hmem with rfl | hmem
      · exact Or.inr rfl
      · exact Or.inl hmem

/-- Only folders along the path are made, and the path leads to the last of them. -/
theorem enterAll_eq_ok {made : Workspace} {start : Place} {names : List String}
    (hdown : ".." ∉ names) (hstands : workspace.Stands start)
    (henter : enterAll names (workspace, start) = .ok made) :
    ∃ place, made.Stands place ∧ names.foldlM made.follow start = .ok place ∧
      ∀ item ∈ made.items, item ∈ workspace.items ∨ item.1 <+: place := by
  induction names generalizing workspace start with
  | nil =>
    cases henter
    exact ⟨start, hstands, rfl, fun item hmem => Or.inl hmem⟩
  | cons name names ih =>
    rw [List.mem_cons, not_or] at hdown
    rw [enterAll] at henter
    split at henter
    · next state hentered =>
      obtain ⟨between, next⟩ := state
      obtain ⟨hfollow, hnext, hitems⟩ := enter_eq_ok (Ne.symm hdown.1) hstands hentered
      obtain ⟨place, hplace, hrest, hmade⟩ := ih hdown.2 hnext henter
      have hbelow : next <+: place := ⟨_, (foldlM_follow_eq_ok hdown.2 hrest).symm⟩
      obtain ⟨hfolder, hstep⟩ := follow_eq_ok (Ne.symm hdown.1) hfollow
      have hstart : start <+: place := (hstep ▸ List.prefix_append ..).trans hbelow
      refine ⟨place, hplace, ?_, fun item hmem => ?_⟩
      · rw [List.foldlM_cons, follow_congr hfolder (hplace start hstart), hfollow]
        exact hrest
      · rcases hmade item hmem with hmem | hprefix
        · rcases hitems item hmem with hmem | heq
          · exact Or.inl hmem
          · exact Or.inr (heq ▸ hbelow)
        · exact Or.inr hprefix
    · cases henter

theorem makeFolders_eq_ok {made : Workspace} {path : String} (hsome : path ≠ "")
    (hdown : Downward path) (hmade : workspace.makeFolders path = .ok made) :
    ∃ place, made.Stands place ∧ made.locate path = .ok place ∧
      ∀ item ∈ made.items, item ∈ workspace.items ∨ item.1 <+: place := by
  rw [makeFolders, if_neg (by simpa using hsome)] at hmade
  obtain ⟨names, hnames, henter⟩ := exists_of_bind_eq_ok hmade
  obtain rfl := names_eq_ok hnames
  obtain ⟨place, hstands, hfollow, hitems⟩ :=
    enterAll_eq_ok hdown (stands_root workspace) henter
  refine ⟨place, hstands, ?_, hitems⟩
  rw [locate, hnames]
  exact hfollow

/-! ### The files of a folder -/

/-- The text is a name that a file can have in a folder. -/
structure FileName (name : String) : Prop where
  noSlash : '/' ∉ name.toList
  step : stepOf name = [name]
  notUp : name ≠ ".."

theorem FileName.toList_ne_nil {name : String} (hname : FileName name) : name.toList ≠ [] := by
  intro hempty
  have hstep := hname.step
  rw [String.toList_eq_nil_iff.1 hempty] at hstep
  cases hstep

theorem toList_joinPath {folder : String} (hsome : folder ≠ "") (name : String) :
    (∃ front, folder.toList = front ++ ['/'] ∧
        (joinPath folder name).toList = front ++ '/' :: name.toList) ∨
      (joinPath folder name).toList = folder.toList ++ '/' :: name.toList := by
  by_cases hends : folder.toList.getLast? = some '/'
  · obtain ⟨front, hfront⟩ := List.getLast?_eq_some_iff.1 hends
    refine Or.inl ⟨front, hfront, ?_⟩
    rw [joinPath, if_pos (Or.inr hends), String.toList_append, hfront, List.append_assoc,
      List.singleton_append]
  · have hslash : "/".toList = ['/'] := by decide
    refine Or.inr ?_
    rw [joinPath, if_neg (by simp [hsome, hends]), String.toList_append, String.toList_append,
      hslash, List.append_assoc, List.singleton_append]

theorem names_joinPath {folder name : String} {names : List String} (hname : '/' ∉ name.toList)
    (hnul : '\x00' ∉ name.toList) (hnames : Workspace.names folder = .ok names) :
    ∃ front, Workspace.names (joinPath folder name) = .ok (front ++ [name]) ∧
      (names = front ∨ names = front ++ [""]) := by
  obtain ⟨hnulFolder, hsome, hhead, rfl⟩ := names_eq_ok_iff.1 hnames
  have hlast : name.toList.splitOn '/' = [name.toList] := List.splitOn_eq_singleton hname
  have hempty : String.ofList [] = "" := rfl
  rcases toList_joinPath hsome name with ⟨front, hfront, hlist⟩ | hlist
  · refine ⟨(front.splitOn '/').map String.ofList, names_eq_ok_iff.2 ⟨?_, ?_, ?_, ?_⟩, Or.inr ?_⟩
    · rw [hlist]
      rw [hfront] at hnulFolder
      simp_all
    · rw [Ne, ← String.toList_inj, hlist]
      simp
    · rw [hlist]
      rw [hfront] at hhead
      cases front <;> simp_all
    · rw [hlist, List.splitOn_append_cons_self, hlast]
      simp
    · rw [hfront, List.splitOn_append_cons_self, List.splitOn_nil]
      simp [hempty]
  · refine ⟨(folder.toList.splitOn '/').map String.ofList, names_eq_ok_iff.2 ⟨?_, ?_, ?_, ?_⟩,
      Or.inl rfl⟩
    · rw [hlist]
      simp_all
    · rw [Ne, ← String.toList_inj, hlist]
      simp
    · rw [hlist, List.head?_append_of_ne_nil _ (by simpa using hsome)]
      exact hhead
    · rw [hlist, List.splitOn_append_cons_self, hlast]
      simp

/-- The place under the path of a folder and a name is one step from the place of the folder. -/
theorem locate_joinPath {folder name : String} (hname : '/' ∉ name.toList)
    (hnul : '\x00' ∉ name.toList) (hplace : workspace.locate folder = .ok place)
    (hfolder : workspace.entry? place = some .folder) :
    workspace.locate (joinPath folder name) = workspace.follow place name := by
  obtain ⟨names, hnames, hfollow⟩ := exists_of_bind_eq_ok hplace
  obtain ⟨front, hjoined, hfront⟩ := names_joinPath hname hnul hnames
  have hreached : front.foldlM workspace.follow [] = .ok place := by
    rcases hfront with rfl | rfl
    · exact hfollow
    · rw [List.foldlM_append] at hfollow
      obtain ⟨found, hfound, hlast⟩ := exists_of_bind_eq_ok hfollow
      rw [List.foldlM_cons] at hlast
      obtain ⟨next, hstay, hnext⟩ := exists_of_bind_eq_ok hlast
      obtain rfl := Except.ok.inj hnext
      obtain ⟨_, rfl⟩ := follow_eq_ok (by decide) hstay
      rw [hfound]
      simp [stepOf]
  calc
    workspace.locate (joinPath folder name) = (front ++ [name]).foldlM workspace.follow [] := by
      rw [locate, hjoined]
      rfl
    _ = [name].foldlM workspace.follow place := by
      rw [List.foldlM_append, hreached]
      rfl
    _ = workspace.follow place name := by
      rw [List.foldlM_cons]
      cases workspace.follow place name <;> rfl

theorem follow_fileName {name : String} (hname : FileName name)
    (hfolder : workspace.entry? place = some .folder) :
    workspace.follow place name =
      if name.utf8ByteSize > greatestNameSize then .error .nameTooLong
      else .ok (place ++ [name]) := by
  have hstay : ¬ (name = "" ∨ name = ".") := by
    intro hstay
    have hstep := hname.step
    rw [stepOf, if_pos hstay] at hstep
    cases hstep
  rw [follow, hfolder]
  simp only [if_neg hstay, if_neg hname.notUp]

theorem namesFolder_joinPath {folder name : String} (hname : FileName name) (hsome : folder ≠ "") :
    namesFolder (joinPath folder name) = false := by
  have hlast : ∀ front, (front ++ '/' :: name.toList).getLast? ≠ some '/' := by
    intro front hlast
    rw [List.getLast?_append_of_ne_nil _ (List.cons_ne_nil _ _), List.getLast?_cons_of_ne_nil
      hname.toList_ne_nil] at hlast
    exact hname.noSlash (List.mem_of_getLast? hlast)
  rw [namesFolder, decide_eq_false_iff_not]
  rcases toList_joinPath hsome name with ⟨front, _, hlist⟩ | hlist
  · rw [hlist]
    exact hlast front
  · rw [hlist]
    exact hlast _

theorem nul_not_mem_of_locate {folder name : String} {target : Place} (hsome : folder ≠ "")
    (htarget : workspace.locate (joinPath folder name) = .ok target) : '\x00' ∉ name.toList := by
  obtain ⟨_, hnames, _⟩ := exists_of_bind_eq_ok htarget
  have hnul := (names_eq_ok_iff.1 hnames).1
  intro hmem
  rcases toList_joinPath hsome name with ⟨front, _, hlist⟩ | hlist
  · exact hnul (hlist ▸ List.mem_append_right _ (List.mem_cons_of_mem _ hmem))
  · exact hnul (hlist ▸ List.mem_append_right _ (List.mem_cons_of_mem _ hmem))

theorem ne_empty_of_locate {folder : String} (hplace : workspace.locate folder = .ok place) :
    folder ≠ "" := by
  obtain ⟨_, hnames, _⟩ := exists_of_bind_eq_ok hplace
  exact (names_eq_ok_iff.1 hnames).2.1

/-- Writing into a folder is putting a file at the place of its name. -/
theorem write_joinPath_eq_ok {folder name : String} {content : ByteArray} {after : Workspace}
    (hname : FileName name) (hplace : workspace.locate folder = .ok place)
    (hfolder : workspace.entry? place = some .folder)
    (hwrite : workspace.write (joinPath folder name) content = .ok after) :
    '\x00' ∉ name.toList ∧ name.utf8ByteSize ≤ greatestNameSize ∧
      after = workspace.put (place ++ [name], .file content) := by
  have hsome := ne_empty_of_locate hplace
  rw [write, namesFolder_joinPath hname hsome] at hwrite
  obtain ⟨target, htarget, hmade⟩ := exists_of_bind_eq_ok hwrite
  rw [if_neg Bool.false_ne_true] at htarget
  have hnul := nul_not_mem_of_locate hsome htarget
  rw [locate_joinPath hname.noSlash hnul hplace hfolder, follow_fileName hname hfolder] at htarget
  split at htarget
  · cases htarget
  · next hsize =>
    obtain rfl := Except.ok.inj htarget
    refine ⟨hnul, by omega, ?_⟩
    split at hmade
    · cases hmade
    · next heq => cases heq
    · next heq => cases heq
    · exact (Except.ok.inj hmade).symm

theorem read_joinPath {folder name : String} {content : ByteArray} (hname : FileName name)
    (hnul : '\x00' ∉ name.toList) (hsize : name.utf8ByteSize ≤ greatestNameSize)
    (hplace : workspace.locate folder = .ok place) (hfolder : workspace.entry? place = some .folder)
    (hfile : workspace.entry? (place ++ [name]) = some (.file content)) :
    workspace.read (joinPath folder name) = .ok content := by
  have htarget : workspace.locate (joinPath folder name) = .ok (place ++ [name]) := by
    rw [locate_joinPath hname.noSlash hnul hplace hfolder, follow_fileName hname hfolder,
      if_neg (by omega)]
  rw [read, htarget]
  dsimp only [bind, Except.bind]
  rw [hfile]

/-- The way from a place to a file, if the item is a file there or below. -/
def fileBelow? (place : Place) (item : Place × Entry) : Option Place :=
  match item.2 with
  | .file _ => if place.isPrefixOf item.1 then some (item.1.drop place.length) else none
  | .folder => none

theorem filesBelow_perm (workspace : Workspace) (place : Place) :
    (workspace.filesBelow place).Perm (workspace.items.filterMap (fileBelow? place)) :=
  List.mergeSort_perm ..

theorem fileBelow?_eq_some_iff {item : Place × Entry} {rest : Place} :
    fileBelow? place item = some rest ↔ ∃ content, item = (place ++ rest, .file content) := by
  obtain ⟨at_, entry⟩ := item
  cases entry with
  | folder => simp [fileBelow?]
  | file content =>
    constructor
    · intro hfile
      obtain ⟨hbelow, hrest⟩ := Option.ite_none_right_eq_some.1 hfile
      obtain ⟨more, rfl⟩ := List.isPrefixOf_iff_prefix.1 hbelow
      obtain rfl : more = rest := by simpa using hrest
      exact ⟨content, rfl⟩
    · rintro ⟨_, heq⟩
      cases heq
      have hbelow : place.isPrefixOf (place ++ rest) = true :=
        List.isPrefixOf_iff_prefix.2 (List.prefix_append ..)
      simp [fileBelow?, hbelow]

theorem mem_filesBelow_iff {rest : Place} :
    rest ∈ workspace.filesBelow place ↔
      ∃ content, (place ++ rest, Entry.file content) ∈ workspace.items := by
  rw [(filesBelow_perm workspace place).mem_iff, List.mem_filterMap]
  constructor
  · rintro ⟨item, hmem, hfile⟩
    obtain ⟨content, rfl⟩ := fileBelow?_eq_some_iff.1 hfile
    exact ⟨content, hmem⟩
  · rintro ⟨content, hmem⟩
    exact ⟨_, hmem, fileBelow?_eq_some_iff.2 ⟨content, rfl⟩⟩

theorem nodup_filesBelow (workspace : Workspace) (place : Place) :
    (workspace.filesBelow place).Nodup := by
  rw [(filesBelow_perm workspace place).nodup_iff]
  refine (List.pairwise_map.1 workspace.distinct).filterMap _ ?_
  intro first second hne rest hrest other hother heq
  obtain ⟨_, rfl⟩ := fileBelow?_eq_some_iff.1 hrest
  obtain ⟨_, rfl⟩ := fileBelow?_eq_some_iff.1 hother
  exact hne (by rw [heq])

end ApiManual.Workspace
