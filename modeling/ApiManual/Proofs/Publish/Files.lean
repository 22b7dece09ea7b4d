import ApiManual.Proofs.Host.Session
import ApiManual.Proofs.Workspace.Grounded
import ApiManual.Publish

/-!
# Files written into a folder of their own

A folder that is cleared, made and written into holds the files that were written and nothing else.
When several of them have one name, the last one is what is left of them.
-/

namespace ApiManual.Publish

open Workspace

variable {workspace : Workspace} {place : Place} {folder : String} {files : List (String × String)}

/-- Texts put into the files of a folder, one after the other. -/
def filed (place : Place) (workspace : Workspace) (files : List (String × String)) : Workspace :=
  files.foldl (fun workspace (name, text) => workspace.put (place ++ [name], .file text.toUTF8))
    workspace

theorem filed_cons (workspace : Workspace) (name text : String) :
    filed place workspace ((name, text) :: files) =
      filed place (workspace.put (place ++ [name], .file text.toUTF8)) files :=
  rfl

/-- What stands under a name is the last text filed under it. -/
theorem entry?_filed (place : Place) (workspace : Workspace) (files : List (String × String))
    (name : String) :
    Workspace.entry? (filed place workspace files) (place ++ [name]) =
      ((files.reverse.find? (·.1 == name)).map fun file => Entry.file file.2.toUTF8).or
        (workspace.entry? (place ++ [name])) := by
  induction files generalizing workspace with
  | nil => rfl
  | cons file files ih =>
    have hbelow : place ++ [name] ≠ [] := by simp
    rw [filed_cons, ih, List.reverse_cons, List.find?_append, entry?_put workspace _ hbelow]
    cases files.reverse.find? (·.1 == name) with
    | some later => rfl
    | none =>
      by_cases hname : file.1 = name
      · simp [hname]
      · simp [hname]

theorem mem_items_filed {item : Place × Entry}
    (hmem : item ∈ (filed place workspace files).items) :
    item ∈ workspace.items ∨
      ∃ file ∈ files, item = (place ++ [file.1], .file file.2.toUTF8) := by
  induction files generalizing workspace with
  | nil => exact Or.inl hmem
  | cons file files ih =>
    rcases ih hmem with hold | ⟨later, hlater, heq⟩
    · rcases Keyed.eq_or_mem_of_mem_put hold with heq | hold
      · exact Or.inr ⟨file, List.mem_cons_self, heq⟩
      · exact Or.inl hold
    · exact Or.inr ⟨later, List.mem_cons_of_mem _ hlater, heq⟩

theorem stands_filed (hstands : workspace.Stands place) (files : List (String × String)) :
    (filed place workspace files).Stands place := by
  induction files generalizing workspace with
  | nil => exact hstands
  | cons file files ih => exact ih (hstands.put_file file.1 (.file file.2.toUTF8))

/-! ### Writing -/

/-- The folder takes a file of the name. -/
structure Takes (name : String) : Prop extends FileName name where
  noNul : '\x00' ∉ name.toList
  short : name.utf8ByteSize ≤ greatestNameSize

theorem ends_writeAll_cons {session after : Session} {paths : List String}
    {file : String × String} (hends : (writeAll folder (file :: files)).Ends session paths after) :
    ∃ written rest, session.workspace.write (joinPath folder file.1) file.2.toUTF8 = .ok written ∧
      (writeAll folder files).Ends { session with workspace := written } rest after := by
  rw [writeAll, List.mapM_cons] at hends
  obtain ⟨_, _, hfirst, hends⟩ := Task.ends_bind_iff.1 hends
  obtain ⟨rest, _, hrest, hends⟩ := Task.ends_bind_iff.1 hends
  obtain ⟨_, rfl⟩ := Task.ends_pure_iff.1 hends
  obtain ⟨_, _, hwrite, hends⟩ := Task.ends_bind_iff.1 hfirst
  obtain ⟨_, rfl⟩ := Task.ends_pure_iff.1 hends
  obtain ⟨written, hwritten, rfl⟩ := Task.ends_writeText_iff.1 hwrite
  exact ⟨written, rest, hwritten, hrest⟩

theorem filed_of_writeAll {session after : Session} {paths : List String}
    (hnames : ∀ file ∈ files, FileName file.1) (hdown : Downward folder)
    (hplace : session.workspace.locate folder = .ok place)
    (hstands : session.workspace.Stands place)
    (hends : (writeAll folder files).Ends session paths after) :
    (∀ file ∈ files, Takes file.1) ∧ after.workspace = filed place session.workspace files := by
  induction files generalizing session paths with
  | nil =>
    obtain ⟨_, rfl⟩ := Task.ends_pure_iff.1 hends
    exact ⟨fun file hmem => absurd hmem List.not_mem_nil, rfl⟩
  | cons file files ih =>
    obtain ⟨written, rest, hwritten, hrest⟩ := ends_writeAll_cons hends
    have hname := hnames file List.mem_cons_self
    obtain ⟨hnul, hshort, rfl⟩ := write_joinPath_eq_ok hname hplace hstands.folder hwritten
    have hkept := hstands.put_file file.1 (.file file.2.toUTF8)
    obtain ⟨htakes, hfiled⟩ := ih (fun other hother => hnames other (List.mem_cons_of_mem _ hother))
      (locate_of_stands hdown hplace hkept) hkept hrest
    refine ⟨fun other hother => ?_, hfiled⟩
    rcases List.mem_cons.1 hother with rfl | hother
    · exact ⟨hname, hnul, hshort⟩
    · exact htakes other hother

theorem grounded_of_writeAll {session after : Session} {paths : List String}
    (hgrounded : session.workspace.Grounded)
    (hends : (writeAll folder files).Ends session paths after) : after.workspace.Grounded := by
  induction files generalizing session paths with
  | nil =>
    obtain ⟨_, rfl⟩ := Task.ends_pure_iff.1 hends
    exact hgrounded
  | cons file files ih =>
    obtain ⟨written, rest, hwritten, hrest⟩ := ends_writeAll_cons hends
    exact ih (hgrounded.write hwritten) hrest

theorem cleared_of_clear {session after : Session} {result : Unit}
    (hends : (clear folder).Ends session result after) :
    Cleared session.workspace after.workspace folder := by
  obtain ⟨held, between, hheld, hends⟩ := Task.ends_bind_iff.1 hends
  cases hheld
  split at hends
  · exact Or.inr (Task.removeTree_of_ends hends)
  · next hmissing =>
    obtain ⟨_, rfl⟩ := Task.ends_pure_iff.1 hends
    exact Or.inl ⟨by simpa using hmissing, rfl⟩

/-- Clears a folder, makes it again and writes files into it. -/
def refill (folder : String) (files : List (String × String)) : Task SessionM (List String) := do
  clear folder
  Task.ofHost (Host.makeFolders folder)
  writeAll folder files

theorem ends_refill {session after : Session} {paths : List String}
    (hends : (refill folder files).Ends session paths after) :
    ∃ (left : Session) (made : Workspace),
      Cleared session.workspace left.workspace folder ∧
      left.workspace.makeFolders folder = .ok made ∧
      (writeAll folder files).Ends { left with workspace := made } paths after := by
  obtain ⟨_, left, hclear, hends⟩ := Task.ends_bind_iff.1 hends
  obtain ⟨_, _, hfolders, hwrite⟩ := Task.ends_bind_iff.1 hends
  obtain ⟨made, hmade, rfl⟩ := Task.ends_makeFolders_iff.1 hfolders
  exact ⟨left, made, cleared_of_clear hclear, hmade, hwrite⟩

/-- Everything stands in folders afterwards too, so what is said of one run holds of the next. -/
theorem grounded_of_refill {session after : Session} {paths : List String}
    (hgrounded : session.workspace.Grounded)
    (hends : (refill folder files).Ends session paths after) : after.workspace.Grounded := by
  obtain ⟨left, made, hcleared, hmade, hwrite⟩ := ends_refill hends
  exact grounded_of_writeAll ((hgrounded.cleared hcleared).makeFolders hmade) hwrite

/-! ### What the folder holds in the end -/

/-- The folder of the path holds nothing but files, and of each name the last one. -/
structure HoldsOnly (workspace : Workspace) (folder : String) (files : List (String × String)) :
    Prop where
  mem_iff : ∀ name, name ∈ workspace.filesUnder folder ↔ name ∈ files.map (·.1)
  nodup : (workspace.filesUnder folder).Nodup
  noFolder : ∀ place item, workspace.locate folder = .ok place → item ∈ workspace.items →
    place <+: item.1 → item.1 ≠ place → item.2.isFolder = false
  read_last : ∀ name file, files.reverse.find? (·.1 == name) = some file →
    workspace.read (joinPath folder name) = .ok file.2.toUTF8

theorem exists_last {file : String × String} (hmem : file ∈ files) :
    ∃ last ∈ files, last.1 = file.1 ∧ files.reverse.find? (·.1 == file.1) = some last := by
  obtain ⟨last, hlast⟩ := find?_reverse_isSome (p := (·.1 == file.1)) hmem (beq_self_eq_true _)
  exact ⟨last, mem_of_find?_reverse hlast, by simpa using List.find?_some hlast, hlast⟩

theorem mem_filesBelow_filed_iff
    (hempty : ∀ item ∈ workspace.items, place <+: item.1 → item = (place, .folder))
    {rest : Place} :
    rest ∈ (filed place workspace files).filesBelow place ↔ ∃ file ∈ files, rest = [file.1] := by
  rw [mem_filesBelow_iff]
  constructor
  · rintro ⟨content, hmem⟩
    rcases mem_items_filed hmem with hold | ⟨file, hfile, heq⟩
    · exact absurd (congrArg Prod.snd (hempty _ hold (List.prefix_append ..))) nofun
    · exact ⟨file, hfile, List.append_cancel_left (congrArg Prod.fst heq)⟩
  · rintro ⟨file, hfile, rfl⟩
    obtain ⟨last, _, _, hlast⟩ := exists_last hfile
    have hentry := entry?_filed place workspace files file.1
    rw [hlast, Option.map_some, Option.some_or, entry?_eq_find? (by simp)] at hentry
    obtain ⟨item, hitem, hcontent⟩ := Option.map_eq_some_iff.1 hentry
    obtain ⟨hmem, hat⟩ := Keyed.find?_eq_some_iff.1 hitem
    refine ⟨last.2.toUTF8, ?_⟩
    rwa [← hat, ← hcontent]

theorem holdsOnly_filed (hdown : Downward folder) (hplace : workspace.locate folder = .ok place)
    (hstands : workspace.Stands place)
    (hempty : ∀ item ∈ workspace.items, place <+: item.1 → item = (place, .folder))
    (htakes : ∀ file ∈ files, Takes file.1) :
    HoldsOnly (filed place workspace files) folder files := by
  have hkept := stands_filed hstands files
  have hthere := locate_of_stands hdown hplace hkept
  have hunder : (filed place workspace files).filesUnder folder =
      ((filed place workspace files).filesBelow place).map (String.intercalate "/") := by
    rw [filesUnder, hthere]
  have hname : ∀ name, String.intercalate "/" [name] = name := fun name => by simp
  refine ⟨fun name => ?_, ?_, fun other item hother hmem hbelow hne => ?_,
    fun name file hlast => ?_⟩
  · rw [hunder, List.mem_map, List.mem_map]
    constructor
    · rintro ⟨rest, hrest, rfl⟩
      obtain ⟨file, hfile, rfl⟩ := (mem_filesBelow_filed_iff hempty).1 hrest
      exact ⟨file, hfile, (hname file.1).symm⟩
    · rintro ⟨file, hfile, rfl⟩
      exact ⟨[file.1], (mem_filesBelow_filed_iff hempty).2 ⟨file, hfile, rfl⟩, hname file.1⟩
  · rw [hunder]
    refine (nodup_filesBelow ..).map_on fun first hfirst second hsecond heq => ?_
    obtain ⟨file, _, rfl⟩ := (mem_filesBelow_filed_iff hempty).1 hfirst
    obtain ⟨other, _, rfl⟩ := (mem_filesBelow_filed_iff hempty).1 hsecond
    rwa [hname, hname, ← List.singleton_inj] at heq
  · obtain rfl : place = other := Except.ok.inj (hthere.symm.trans hother)
    rcases mem_items_filed hmem with hold | ⟨file, _, rfl⟩
    · exact absurd (congrArg Prod.fst (hempty item hold hbelow)) hne
    · rfl
  · have hfile := mem_of_find?_reverse hlast
    obtain rfl : file.1 = name := by simpa using List.find?_some hlast
    have htaken := htakes file hfile
    refine read_joinPath htaken.toFileName htaken.noNul htaken.short hthere hkept.folder ?_
    rw [entry?_filed, hlast]
    rfl

/-- **A folder of its own.** Whatever stood in the folder, nothing but the files is left there, and
the last one of each name. -/
theorem holdsOnly_of_refill {session after : Session} {paths : List String}
    (hgrounded : session.workspace.Grounded) (hsome : folder ≠ "") (hdown : Downward folder)
    (hnames : ∀ file ∈ files, FileName file.1)
    (hends : (refill folder files).Ends session paths after) :
    HoldsOnly after.workspace folder files := by
  obtain ⟨left, made, hcleared, hmade, hwrite⟩ := ends_refill hends
  obtain ⟨place, hstands, hplace, hempty⟩ := empty_of_cleared hgrounded hsome hdown hcleared hmade
  obtain ⟨htakes, hfiled⟩ := filed_of_writeAll hnames hdown hplace hstands hwrite
  rw [hfiled]
  exact holdsOnly_filed hdown hplace hstands hempty htakes

end ApiManual.Publish
