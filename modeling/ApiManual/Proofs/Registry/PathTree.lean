import ApiManual.Proofs.Registry.Grouping
import ApiManual.Proofs.Registry.History

/-!
# The tree as a collection of collections

The tree of a registry can be grown by going through the endpoints once. Each is put under its method
into the collection that its path has, and a path that comes up for the first time gets a new one.
Both levels replace what stands under a key that comes up again. On the outer level that is the point,
since the collection of a path is renewed with every endpoint. On the inner level it would lose an
endpoint. But a path and a method make the key of the registry, where no key comes up twice, so the
same method does not come up twice for a path.
-/

namespace ApiManual

/-- The endpoints of a path, by method. -/
structure PathNode where
  path : String
  endpoints : Keyed Endpoint.method

/-- Endpoints by path, and those of a path by method. -/
abbrev PathTree := Keyed PathNode.path

namespace PathTree

/-- The node of a path; one without endpoints when the path has none yet. -/
def nodeAt (tree : PathTree) (path : String) : PathNode :=
  (tree.find? path).getD ⟨path, .empty⟩

/-- Puts an endpoint under its method into the node of its path. -/
def add (tree : PathTree) (endpoint : Endpoint) : PathTree :=
  let node := tree.nodeAt endpoint.path
  tree.put { node with endpoints := node.endpoints.put endpoint }

def ofEndpoints (endpoints : List Endpoint) : PathTree :=
  endpoints.foldl add .empty

def groups (tree : PathTree) : List (String × List Endpoint) :=
  tree.items.map fun node => (node.path, node.endpoints.items)

variable {tree : PathTree} {endpoints : List Endpoint} {endpoint : Endpoint}

theorem path_nodeAt (tree : PathTree) (path : String) : (tree.nodeAt path).path = path := by
  unfold nodeAt
  cases hfound : tree.find? path with
  | none => rfl
  | some node => exact (Keyed.find?_eq_some_iff.1 hfound).2

/-- A tree that was grown from endpoints and lost none of them. -/
structure Holds (endpoints : List Endpoint) (tree : PathTree) : Prop where
  paths : tree.keys = (endpoints.map (·.path)).eraseDups
  nodes : ∀ node ∈ tree.items, node.endpoints.items = endpoints.filter (·.path == node.path)

theorem Holds.items_nodeAt (hholds : Holds endpoints tree) (path : String) :
    (tree.nodeAt path).endpoints.items = endpoints.filter (·.path == path) := by
  unfold nodeAt
  cases hfound : tree.find? path with
  | some node =>
    obtain ⟨hmem, rfl⟩ := Keyed.find?_eq_some_iff.1 hfound
    exact hholds.nodes node hmem
  | none =>
    have hnew : path ∉ endpoints.map (·.path) := by
      rw [← List.mem_eraseDups, ← hholds.paths, ← Keyed.isSome_find?_iff, hfound]
      exact Bool.false_ne_true
    refine (List.filter_eq_nil_iff.2 fun endpoint hmem heq => hnew ?_).symm
    exact beq_iff_eq.1 heq ▸ List.mem_map_of_mem hmem

/-- An endpoint with a place of its own comes last in the node of its path, and no other node
changes. -/
theorem Holds.add (hholds : Holds endpoints tree)
    (hfresh : endpoint.place ∉ endpoints.map Endpoint.place) :
    Holds (endpoints ++ [endpoint]) (tree.add endpoint) := by
  have hpath := path_nodeAt tree endpoint.path
  have hitems : ((tree.nodeAt endpoint.path).endpoints.put endpoint).items =
      endpoints.filter (·.path == endpoint.path) ++ [endpoint] := by
    rw [← hholds.items_nodeAt]
    -- With its method there already, the endpoint would have the place of another one.
    refine Keyed.items_put_of_not_mem fun hmem => hfresh ?_
    obtain ⟨other, hother, hmethod⟩ := Keyed.mem_keys_iff.1 hmem
    rw [hholds.items_nodeAt, List.mem_filter, beq_iff_eq] at hother
    exact List.mem_map.2 ⟨other, hother.1, Prod.ext hother.2 hmethod⟩
  constructor
  · rw [PathTree.add, List.map_append, List.map_singleton, eraseDups_append_singleton,
      ← hholds.paths]
    split
    · next hold => rw [Keyed.keys_put_of_mem (hpath.symm ▸ hold), List.append_nil]
    · next hnew => rw [Keyed.keys_put_of_not_mem (hpath.symm ▸ hnew), hpath]
  · intro node hnode
    rw [List.filter_append, List.filter_singleton]
    by_cases hsame : node.path = endpoint.path
    · have hrenewed := Keyed.eq_of_key_eq hnode (Keyed.mem_put_self tree _) (hsame.trans hpath.symm)
      rw [hrenewed, hitems]
      simp [hpath]
    · have hother : (endpoint.path == node.path) = false := beq_eq_false_iff_ne.2 (Ne.symm hsame)
      rcases Keyed.eq_or_mem_of_mem_put hnode with rfl | hold
      · exact absurd hpath hsame
      · rw [hother, hholds.nodes node hold]
        simp

theorem Holds.foldl_add (hholds : Holds endpoints tree) {others : List Endpoint}
    (hdistinct : ((endpoints ++ others).map Endpoint.place).Nodup) :
    Holds (endpoints ++ others) (others.foldl PathTree.add tree) := by
  induction others generalizing endpoints tree with
  | nil => rwa [List.append_nil]
  | cons endpoint others ih =>
    have hfresh : endpoint.place ∉ endpoints.map Endpoint.place := by
      rw [List.map_append, List.nodup_append] at hdistinct
      intro hmem
      exact hdistinct.2.2 _ hmem _ (List.mem_map_of_mem List.mem_cons_self) rfl
    rw [List.append_cons] at hdistinct ⊢
    exact ih (hholds.add hfresh) hdistinct

theorem holds_ofEndpoints (hdistinct : (endpoints.map Endpoint.place).Nodup) :
    Holds endpoints (ofEndpoints endpoints) := by
  have hempty : Holds [] .empty := ⟨rfl, fun _ hmem => absurd hmem List.not_mem_nil⟩
  exact hempty.foldl_add hdistinct

end PathTree

namespace Registry

theorem groups_ofEndpoints (registry : Registry) :
    (PathTree.ofEndpoints registry.items).groups = tree registry := by
  have hholds := PathTree.holds_ofEndpoints (nodup_place registry)
  calc (PathTree.ofEndpoints registry.items).groups
      = (PathTree.ofEndpoints registry.items).items.map fun node =>
          (node.path, registry.items.filter (·.path == node.path)) := by
        refine List.map_congr_left fun node hmem => ?_
        rw [hholds.nodes node hmem]
    _ = (PathTree.ofEndpoints registry.items).keys.map fun path =>
          (path, registry.items.filter (·.path == path)) := by
        rw [Keyed.keys, List.map_map]
        rfl
    _ = tree registry := by rw [hholds.paths, tree]

/-- How many endpoints stand before the first one with a path. -/
def firstWith (registry : Registry) (path : String) : Nat :=
  (registry.items.map (·.path)).idxOf path

/-- **The tree regroups the registry.** Grown endpoint by endpoint as a collection of collections, the
tree of a registry has all its endpoints and each once. Its groups stand in the order of the first
endpoint with their path, and in a group are the endpoints with that path, in the order of the
registry. -/
theorem tree_regroups (registry : Registry) :
    (PathTree.ofEndpoints registry.items).groups = tree registry ∧
      ((tree registry).flatMap (·.2)).Perm registry.items ∧
      (tree registry).Pairwise (fun a b => registry.firstWith a.1 < registry.firstWith b.1) ∧
      ∀ group ∈ tree registry, group.2 ≠ [] ∧ group.2.Sublist registry.items ∧
        ∀ endpoint ∈ group.2, endpoint.path = group.1 := by
  refine ⟨groups_ofEndpoints registry, flatMap_tree_perm registry, ?_, fun group hgroup => ?_⟩
  · exact List.pairwise_map.2 (pairwise_idxOf_eraseDups _)
  · obtain ⟨path, hpath, rfl⟩ := List.mem_map.1 hgroup
    obtain ⟨first, hfirst, rfl⟩ := List.mem_map.1 (List.mem_eraseDups.1 hpath)
    refine ⟨List.ne_nil_of_mem (List.mem_filter.2 ⟨hfirst, beq_self_eq_true _⟩),
      List.filter_sublist, fun endpoint hmem => ?_⟩
    exact beq_iff_eq.1 (List.mem_filter.1 hmem).2

/-- What is registered for a path later joins its group. -/
example : (tree (insertAll .empty [Endpoint.bare "/photo" "get", Endpoint.bare "/user" "get",
      Endpoint.bare "/photo" "put"])).map (fun group => (group.1, group.2.map (·.method))) =
    [("/photo", ["get", "options", "put"]), ("/user", ["get", "options"])] := by
  decide +kernel

end Registry

end ApiManual
