import ApiManual.Endpoint
import Mathlib.Data.List.Nodup

/-!
# Names declared more than once

Two memories are kept while the names of an endpoint's parameters are gone through. The names seen are
forgotten where a new carrier begins, and the names reported are kept throughout. A name is looked up in
both of them at once, and is not noted as seen when it is reported. That does no harm: it was seen
before. So what is reported of a carrier depends on that carrier alone, but for the names that are
reported already, and they only stay out of being reported again.
-/

namespace ApiManual

namespace Endpoint

variable {seen repeated names : List String} {endpoint : Endpoint} {carriers : List Carrier}

/-! ### One carrier -/

theorem mem_collectRepeated_iff {name : String} :
    name ∈ collectRepeated seen repeated names ↔
      name ∈ repeated ∨ (name ∈ seen ∧ name ∈ names) ∨ 2 ≤ names.count name := by
  induction names generalizing seen repeated with
  | nil => simp [collectRepeated]
  | cons next rest ih =>
    unfold collectRepeated
    split
    · next hreport =>
      rw [Bool.and_eq_true, List.contains_iff_mem] at hreport
      rw [ih, List.mem_append, List.mem_singleton, List.mem_cons, List.count_cons]
      by_cases hname : name = next
      · subst hname
        simp [hreport.1]
      · simp [hname, Ne.symm hname]
    · next hquiet =>
      -- Unless it is reported, a name that was seen before has been reported already.
      have hknown : next ∈ seen → next ∈ repeated := by simpa using hquiet
      rw [ih, List.mem_cons, List.mem_cons, List.count_cons]
      by_cases hname : name = next
      · subst hname
        have hagain : 2 ≤ rest.count name → name ∈ rest := fun h => List.count_pos_iff.1 (by omega)
        have htwice : 2 ≤ rest.count name + 1 ↔ name ∈ rest := by
          rw [← List.count_pos_iff]
          omega
        simp only [true_or, true_and, and_true, beq_self_eq_true, if_true, htwice]
        tauto
      · simp [hname, Ne.symm hname]

theorem nodup_collectRepeated (hnodup : repeated.Nodup) :
    (collectRepeated seen repeated names).Nodup := by
  induction names generalizing seen repeated with
  | nil => exact hnodup
  | cons next rest ih =>
    unfold collectRepeated
    split
    · next hreport =>
      have hfresh : next ∉ repeated := by simpa using (Bool.and_eq_true_iff.1 hreport).2
      exact ih (List.concat_eq_append ▸ hnodup.concat hfresh)
    · exact ih hnodup

/-! ### All carriers -/

/-- How often a carrier declares a name. -/
def declarations (endpoint : Endpoint) (carrier : Carrier) (name : String) : Nat :=
  ((endpoint.params carrier).map (·.name)).count name

/-- The reported names are those that one of the carriers declares twice or more, each of them once. -/
structure Reports (endpoint : Endpoint) (carriers : List Carrier) (repeated : List String) :
    Prop where
  mem_iff : ∀ name, name ∈ repeated ↔ ∃ carrier ∈ carriers, 2 ≤ endpoint.declarations carrier name
  nodup : repeated.Nodup

theorem Reports.collect (hreports : Reports endpoint carriers repeated) (carrier : Carrier) :
    Reports endpoint (carriers ++ [carrier])
      (collectRepeated [] repeated ((endpoint.params carrier).map (·.name))) where
  mem_iff name := by
    have hseen : ¬ (name ∈ ([] : List String) ∧
        name ∈ (endpoint.params carrier).map (·.name)) := fun h => List.not_mem_nil h.1
    rw [mem_collectRepeated_iff, hreports.mem_iff, or_iff_right hseen]
    simp [or_and_right, exists_or, declarations]
  nodup := nodup_collectRepeated hreports.nodup

theorem Reports.foldl_collect (hreports : Reports endpoint carriers repeated)
    (others : List Carrier) :
    Reports endpoint (carriers ++ others)
      (others.foldl
        (fun repeated carrier =>
          collectRepeated [] repeated ((endpoint.params carrier).map (·.name)))
        repeated) := by
  induction others generalizing carriers repeated with
  | nil => rwa [List.append_nil]
  | cons carrier others ih =>
    rw [List.append_cons]
    exact ih (hreports.collect carrier)

theorem reports_repeatedParamNames (endpoint : Endpoint) :
    Reports endpoint Carrier.inOrder endpoint.repeatedParamNames := by
  have hempty : Reports endpoint [] [] := ⟨by simp, List.nodup_nil⟩
  exact hempty.foldl_collect Carrier.inOrder

/-- **The names reported as repeated are those that are.** A name is reported if and only if a single
carrier declares it at least twice, and then it is reported once, however many carriers repeat it. A
name that no carrier declares more than once is not reported, however many of them declare it. -/
theorem repeated_names_reported_once (endpoint : Endpoint) :
    (∀ name, name ∈ endpoint.repeatedParamNames ↔
        ∃ carrier, 2 ≤ endpoint.declarations carrier name) ∧
      endpoint.repeatedParamNames.Nodup ∧
      ∀ name, (∀ carrier, endpoint.declarations carrier name ≤ 1) →
        name ∉ endpoint.repeatedParamNames := by
  have hreports := reports_repeatedParamNames endpoint
  have hmem : ∀ name, name ∈ endpoint.repeatedParamNames ↔
      ∃ carrier, 2 ≤ endpoint.declarations carrier name := by
    intro name
    simp only [hreports.mem_iff, Carrier.mem_inOrder, true_and]
  refine ⟨hmem, hreports.nodup, fun name honce hreported => ?_⟩
  obtain ⟨carrier, htwice⟩ := (hmem name).1 hreported
  exact absurd (honce carrier) (Nat.not_le_of_lt htwice)

/-- Two carriers declare `id` once each, and two others repeat `sort`. -/
def photoSearch : Endpoint :=
  { bare "/photo/:id" "get" with
    urlParams := [Param.named .url "id"]
    queryParams := [Param.named .query "sort", Param.named .query "id", Param.named .query "sort"]
    formParams := [Param.named .form "sort", Param.named .form "sort", Param.named .form "sort"] }

theorem repeated_names_photoSearch :
    ((∀ carrier, photoSearch.declarations carrier "id" ≤ 1) ∧
        "id" ∉ photoSearch.repeatedParamNames) ∧
      2 ≤ photoSearch.declarations .query "sort" ∧ 2 ≤ photoSearch.declarations .form "sort" ∧
      photoSearch.repeatedParamNames.count "sort" = 1 := by
  obtain ⟨hmem, hnodup, honce⟩ := repeated_names_reported_once photoSearch
  have hid : ∀ carrier, photoSearch.declarations carrier "id" ≤ 1 := by
    intro carrier
    cases carrier <;> decide
  have hquery : 2 ≤ photoSearch.declarations .query "sort" := by decide
  refine ⟨⟨hid, honce "id" hid⟩, hquery, by decide, ?_⟩
  exact List.count_eq_one_of_mem hnodup ((hmem "sort").2 ⟨.query, hquery⟩)

end Endpoint

end ApiManual
