import ApiManual.Proofs.Workspace.Folders
import Mathlib.Tactic.ByContra

/-!
# Workspaces in which everything stands in folders

Nothing is put where no folder is, and a folder is removed with everything in it. So a workspace that
started out empty has folders above whatever stands in it. In such a workspace a folder that is
removed and made again is empty, and so is a folder that is made because it was not there.
-/

namespace ApiManual.Workspace

variable {workspace : Workspace} {place : Place}

/-- Folders stand everywhere above the place. -/
def Reached (workspace : Workspace) (place : Place) : Prop :=
  ∀ above, above <+: place → above ≠ place → workspace.entry? above = some .folder

/-- Folders stand above everything, and the root, which is always there, is not kept. -/
def Grounded (workspace : Workspace) : Prop :=
  ∀ item ∈ workspace.items, item.1 ≠ [] ∧ workspace.Reached item.1

theorem Reached.stands (hreached : workspace.Reached place)
    (hfolder : workspace.entry? place = some .folder) : workspace.Stands place := by
  intro above habove
  by_cases heq : above = place
  · rw [heq, hfolder]
  · exact hreached above habove heq

theorem Grounded.stands (hgrounded : workspace.Grounded)
    (hfolder : workspace.entry? place = some .folder) : workspace.Stands place := by
  by_cases hroot : place = []
  · rw [hroot]
    exact stands_root workspace
  · rw [entry?_eq_find? hroot] at hfolder
    obtain ⟨item, hitem, _⟩ := Option.map_eq_some_iff.1 hfolder
    obtain ⟨hmem, rfl⟩ := Keyed.find?_eq_some_iff.1 hitem
    refine (hgrounded item hmem).2.stands ?_
    rw [entry?_eq_find? hroot]
    exact hfolder

theorem grounded_empty : Grounded .empty :=
  fun _ hmem => absurd hmem List.not_mem_nil

/-! ### What operations keep -/

theorem Grounded.reached_follow (hgrounded : workspace.Grounded) {name : String} {next : Place}
    (hfollow : workspace.follow place name = .ok next) : workspace.Reached next := by
  have habove : workspace.entry? place = some .folder ∧
      ∀ above, above <+: next → above ≠ next → above <+: place := by
    unfold follow at hfollow
    split at hfollow
    · cases hfollow
    · cases hfollow
    · next hfolder =>
      refine ⟨hfolder, fun above hprefix hne => ?_⟩
      split at hfollow
      · obtain rfl := Except.ok.inj hfollow
        exact hprefix
      · split at hfollow
        · split at hfollow
          · cases hfollow
          · obtain rfl := Except.ok.inj hfollow
            exact hprefix.trans (List.dropLast_prefix place)
        · split at hfollow
          · cases hfollow
          · obtain rfl := Except.ok.inj hfollow
            exact (List.prefix_concat_iff.1 hprefix).resolve_left hne
  intro above hprefix hne
  exact hgrounded.stands habove.1 above (habove.2 above hprefix hne)

theorem Grounded.reached_foldlM (hgrounded : workspace.Grounded) {names : List String}
    {start : Place} (hstart : workspace.Reached start)
    (hfollow : names.foldlM workspace.follow start = .ok place) : workspace.Reached place := by
  induction names generalizing start with
  | nil =>
    obtain rfl := Except.ok.inj hfollow
    exact hstart
  | cons name names ih =>
    rw [List.foldlM_cons] at hfollow
    obtain ⟨next, hnext, hrest⟩ := exists_of_bind_eq_ok hfollow
    exact ih (hgrounded.reached_follow hnext) hrest

theorem Grounded.reached_locate (hgrounded : workspace.Grounded) {path : String}
    (hplace : workspace.locate path = .ok place) : workspace.Reached place := by
  obtain ⟨names, _, hfollow⟩ := exists_of_bind_eq_ok hplace
  refine hgrounded.reached_foldlM ?_ hfollow
  intro above hprefix hne
  exact absurd (List.prefix_nil.1 hprefix) hne

theorem Grounded.put (hgrounded : workspace.Grounded) (hreached : workspace.Reached place)
    {entry : Entry} (hnot : workspace.entry? place ≠ some .folder) :
    Grounded (workspace.put (place, entry)) := by
  have hroot : place ≠ [] := by
    rintro rfl
    exact hnot rfl
  have hfolder : ∀ above, workspace.entry? above = some .folder →
      Workspace.entry? (workspace.put (place, entry)) above = some .folder := by
    intro above habove
    by_cases hroot : above = []
    · rw [hroot]
      rfl
    · rw [entry?_put workspace entry hroot]
      split
      · next heq => exact absurd (heq ▸ habove) hnot
      · exact habove
  intro item hmem
  rcases Keyed.eq_or_mem_of_mem_put hmem with rfl | hmem
  · exact ⟨hroot, fun above hprefix hne => hfolder above (hreached above hprefix hne)⟩
  · obtain ⟨hbelow, hold⟩ := hgrounded item hmem
    exact ⟨hbelow, fun above hprefix hne => hfolder above (hold above hprefix hne)⟩

theorem Grounded.write (hgrounded : workspace.Grounded) {path : String} {content : ByteArray}
    {after : Workspace} (hwrite : workspace.write path content = .ok after) : after.Grounded := by
  obtain ⟨target, htarget, hmade⟩ := exists_of_bind_eq_ok hwrite
  have hreached := hgrounded.reached_locate htarget
  split at hmade
  · cases hmade
  · cases hmade
  · cases hmade
  · next hnot =>
    obtain rfl := Except.ok.inj hmade
    exact hgrounded.put hreached hnot

theorem Grounded.enter (hgrounded : workspace.Grounded) {start next : Place} {name : String}
    {made : Workspace} (henter : enter (workspace, start) name = .ok (made, next)) :
    made.Grounded := by
  obtain ⟨found, hfollow, hmade⟩ := exists_of_bind_eq_ok henter
  have hreached := hgrounded.reached_follow hfollow
  split at hmade
  · cases hmade
    exact hgrounded
  · cases hmade
  · next hnone =>
    cases hmade
    refine hgrounded.put hreached ?_
    rw [hnone]
    nofun

theorem Grounded.enterAll (hgrounded : workspace.Grounded) {start : Place} {names : List String}
    {made : Workspace} (henter : enterAll names (workspace, start) = .ok made) : made.Grounded := by
  induction names generalizing workspace start with
  | nil =>
    cases henter
    exact hgrounded
  | cons name names ih =>
    rw [Workspace.enterAll] at henter
    split at henter
    · next state hentered => exact ih (hgrounded.enter hentered) henter
    · cases henter

theorem Grounded.makeFolders (hgrounded : workspace.Grounded) {path : String} {made : Workspace}
    (hmade : workspace.makeFolders path = .ok made) : made.Grounded := by
  unfold Workspace.makeFolders at hmade
  split at hmade
  · obtain rfl := Except.ok.inj hmade
    exact hgrounded
  · obtain ⟨names, _, henter⟩ := exists_of_bind_eq_ok hmade
    exact hgrounded.enterAll henter

/-- What is left keeps its folders if nothing is left below what is taken away. -/
theorem Grounded.filter (hgrounded : workspace.Grounded) {left : Workspace} {keeps : Place → Bool}
    (hleft : left.items = workspace.items.filter fun item => keeps item.1)
    (hkeeps : ∀ above below, above <+: below → keeps below = true → keeps above = true) :
    left.Grounded := by
  intro item hmem
  rw [hleft, List.mem_filter] at hmem
  obtain ⟨hbelow, hreached⟩ := hgrounded item hmem.1
  refine ⟨hbelow, fun above hprefix hne => ?_⟩
  have hfolder := hreached above hprefix hne
  by_cases hroot : above = []
  · rw [hroot]
    rfl
  · rw [entry?_eq_find? hroot] at hfolder ⊢
    obtain ⟨found, hfound, hentry⟩ := Option.map_eq_some_iff.1 hfolder
    obtain ⟨hthere, rfl⟩ := Keyed.find?_eq_some_iff.1 hfound
    have hstays : found ∈ left.items := by
      rw [hleft, List.mem_filter]
      exact ⟨hthere, hkeeps _ _ hprefix hmem.2⟩
    rw [Keyed.find?_eq_some_iff.2 ⟨hstays, rfl⟩, Option.map_some, hentry]

theorem Grounded.without (hgrounded : workspace.Grounded) (place : Place) :
    (workspace.without place).Grounded := by
  have hkeeps : ∀ above below : Place, above <+: below → (!place.isPrefixOf below) = true →
      (!place.isPrefixOf above) = true := by
    intro above below hprefix hbelow
    rw [Bool.not_eq_true', ← Bool.not_eq_true, List.isPrefixOf_iff_prefix] at hbelow ⊢
    exact fun hplace => hbelow (hplace.trans hprefix)
  exact hgrounded.filter rfl hkeeps

theorem Grounded.emptied (hgrounded : workspace.Grounded) (place : Place) :
    (workspace.emptied place).Grounded := by
  have hkeeps : ∀ above below : Place, above <+: below →
      (!(place.isPrefixOf below && place.length < below.length)) = true →
      (!(place.isPrefixOf above && place.length < above.length)) = true := by
    intro above below hprefix hbelow
    rw [Bool.not_eq_true', ← Bool.not_eq_true, Bool.and_eq_true, List.isPrefixOf_iff_prefix,
      decide_eq_true_eq] at hbelow ⊢
    rintro ⟨hplace, hlength⟩
    exact hbelow ⟨hplace.trans hprefix, hlength.trans_le hprefix.length_le⟩
  exact hgrounded.filter rfl hkeeps

theorem Grounded.removeTree (hgrounded : workspace.Grounded) (path : String) :
    (workspace.removeTree path).2.Grounded := by
  unfold Workspace.removeTree
  split
  · exact hgrounded
  · split
    · exact hgrounded
    · exact hgrounded
    · split
      · exact hgrounded.emptied _
      · exact hgrounded.without _

/-! ### Folders that are cleared -/

theorem removeTree_eq_ok {path : String} {left : Workspace}
    (hremove : workspace.removeTree path = (.ok (), left)) :
    ∃ place, workspace.locate path = .ok place ∧ left = workspace.without place := by
  unfold Workspace.removeTree at hremove
  split at hremove
  · cases hremove
  · next place hplace =>
    split at hremove
    · cases hremove
    · cases hremove
    · split at hremove
      · cases hremove
      · cases hremove
        exact ⟨place, hplace, rfl⟩

/-- The folder of a path was not there, or was removed. -/
def Cleared (workspace left : Workspace) (path : String) : Prop :=
  (workspace.holds path = false ∧ left = workspace) ∨
    workspace.removeTree path = (.ok (), left)

theorem Grounded.cleared (hgrounded : workspace.Grounded) {left : Workspace} {path : String}
    (hcleared : Cleared workspace left path) : left.Grounded := by
  rcases hcleared with ⟨_, rfl⟩ | hremove
  · exact hgrounded
  · have hleft := hgrounded.removeTree path
    rwa [hremove] at hleft

/-- A folder that was cleared and is made again is empty. -/
theorem empty_of_cleared {left made : Workspace} {path : String} (hgrounded : workspace.Grounded)
    (hsome : path ≠ "") (hdown : Downward path) (hcleared : Cleared workspace left path)
    (hmade : left.makeFolders path = .ok made) :
    ∃ place, made.Stands place ∧ made.locate path = .ok place ∧
      ∀ item ∈ made.items, place <+: item.1 → item = (place, .folder) := by
  obtain ⟨place, hstands, hplace, hitems⟩ := makeFolders_eq_ok hsome hdown hmade
  refine ⟨place, hstands, hplace, fun item hmem hbelow => ?_⟩
  have hat : item.1 = place := by
    rcases hitems item hmem with hold | habove
    · by_contra hne
      rcases hcleared with ⟨hmissing, rfl⟩ | hremove
      · -- Folders stand above what is below the place, so the path led to a folder before.
        have hfolder : left.Stands place := by
          intro above habove
          refine (hgrounded item hold).2 above (habove.trans hbelow) ?_
          rintro rfl
          exact hne (habove.eq_of_length_le hbelow.length_le)
        have hheld := locate_of_stands hdown hplace hfolder
        rw [holds, entryAt?, hheld] at hmissing
        dsimp only at hmissing
        rw [hfolder.folder] at hmissing
        cases hmissing
      · obtain ⟨found, hfound, rfl⟩ := removeTree_eq_ok hremove
        obtain rfl : found = place :=
          (locate_eq_ok hdown hfound).trans (locate_eq_ok hdown hplace).symm
        have hleft := (List.mem_filter.1 hold).2
        rw [List.isPrefixOf_iff_prefix.2 hbelow] at hleft
        cases hleft
    · exact (hbelow.eq_of_length_le habove.length_le).symm
  obtain ⟨hroot, _⟩ := (hgrounded.cleared hcleared).makeFolders hmade item hmem
  have hentry := hstands.folder
  rw [← hat, entry?_eq_find? hroot, Keyed.find?_eq_some_iff.2 ⟨hmem, rfl⟩] at hentry
  exact Prod.ext hat (Option.some.inj hentry)

end ApiManual.Workspace
