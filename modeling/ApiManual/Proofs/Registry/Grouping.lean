import ApiManual.Registry
import Mathlib.Data.List.Perm.Basic

/-!
# Endpoints grouped by path

The tree of a registry lists every endpoint once, under its own path. So whoever goes through the tree
path by path meets every endpoint, in another order than that of registration when the endpoints of a
path were not registered one after the other.
-/

namespace ApiManual.Registry

/-- What comes up for the first time stays, and what comes up again is left out. -/
theorem nodup_eraseDups {α : Type} [BEq α] [LawfulBEq α] (items : List α) :
    items.eraseDups.Nodup := by
  match items with
  | [] => exact List.nodup_nil
  | first :: rest =>
    rw [List.eraseDups_cons, List.nodup_cons]
    refine ⟨fun hmem => ?_, nodup_eraseDups _⟩
    simpa using (List.mem_filter.1 (List.mem_eraseDups.1 hmem)).2
termination_by items.length
decreasing_by exact Nat.lt_succ_of_le (List.length_filter_le ..)

/-- Items collected key by key are all the items. -/
theorem flatMap_filter_perm {α κ : Type} [BEq κ] [LawfulBEq κ] (key : α → κ) {keys : List κ}
    (hkeys : keys.Nodup) {items : List α} (hitems : ∀ item ∈ items, key item ∈ keys) :
    (keys.flatMap fun k => items.filter (key · == k)).Perm items := by
  induction keys generalizing items with
  | nil =>
    have hnone : items = [] := List.eq_nil_iff_forall_not_mem.2 fun item hmem =>
      List.not_mem_nil (hitems item hmem)
    rw [hnone]
    exact List.Perm.refl _
  | cons k keys ih =>
    obtain ⟨hfresh, hrest⟩ := List.nodup_cons.1 hkeys
    -- The items of the other keys are among those that do not have the first key.
    have hothers : (keys.flatMap fun other => items.filter (key · == other)) =
        keys.flatMap fun other => (items.filter (!key · == k)).filter (key · == other) := by
      refine List.flatMap_congr fun other hother => ?_
      rw [List.filter_filter]
      refine List.filter_congr fun item _ => ?_
      by_cases heq : key item = other
      · have hne : key item ≠ k := by
          rintro rfl
          exact hfresh (heq ▸ hother)
        simp [heq, heq ▸ hne]
      · simp [heq]
    have hcollected := ih hrest fun item (hmem : item ∈ items.filter (!key · == k)) => by
      obtain ⟨hmem, hne⟩ := List.mem_filter.1 hmem
      exact (List.mem_cons.1 (hitems item hmem)).resolve_left (by simpa using hne)
    rw [List.flatMap_cons, hothers]
    exact (hcollected.append_left _).trans (List.filter_append_perm (key · == k) items)

/-- Going through the tree path by path meets every endpoint once. -/
theorem flatMap_tree_perm (registry : Registry) :
    ((tree registry).flatMap (·.2)).Perm registry.items := by
  rw [tree, List.flatMap_map]
  exact flatMap_filter_perm _ (nodup_eraseDups _) fun endpoint hmem =>
    List.mem_eraseDups.2 (List.mem_map_of_mem hmem)

/-- The documented endpoints of the tree are those of the registry. -/
theorem flatMap_tree_documented_perm (registry : Registry) :
    ((tree registry).flatMap fun node => node.2.filter (!·.companion)).Perm
      (documented registry) := by
  have hall := (flatMap_tree_perm registry).filter (!·.companion)
  rwa [List.filter_flatMap] at hall

end ApiManual.Registry
