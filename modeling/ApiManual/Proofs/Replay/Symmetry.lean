import ApiManual.Proofs.Exchange.HeaderEquality
import ApiManual.Proofs.Json.Canonical
import ApiManual.Replay.Score

/-!
# Likeness goes both ways

How alike two requests are does not depend on which of them is the recorded one. Five of the seven
features are decided in a way that looks one-sided: collections are of the same length, and what is in
the first is looked for in the second. Nothing stands twice in any of them, so the second then holds
nothing that the first does not, and the two are the same up to order.
-/

namespace ApiManual

/-- Keys without repetition that are as many, and all found, are the same up to order. -/
theorem length_beq_and_all_iff {keys others : List String} (hdistinct : keys.Nodup) :
    (keys.length == others.length && keys.all (others.contains ·)) = true ↔ keys.Perm others := by
  rw [Bool.and_eq_true, beq_iff_eq, List.all_eq_true]
  simp only [List.contains_iff_mem]
  constructor
  · rintro ⟨hlength, hsubset⟩
    exact perm_of_length_eq_of_subset hdistinct hlength hsubset
  · intro hperm
    exact ⟨hperm.length_eq, fun key hkey => hperm.mem_iff.1 hkey⟩

theorem HeaderMap.same_comm (a b : HeaderMap) : a.same b = b.same a := by
  rw [Bool.eq_iff_iff]
  exact ⟨HeaderMap.equivalence_same.symm, HeaderMap.equivalence_same.symm⟩

namespace FieldMap

theorem sameNames_iff {a b : FieldMap} : a.sameNames b = true ↔ a.names.Perm b.names := by
  have hsize : ∀ fields : FieldMap, fields.size = fields.names.length := fun fields =>
    (List.length_map ..).symm
  rw [sameNames, hsize, hsize]
  exact length_beq_and_all_iff a.distinct

theorem same_iff {a b : FieldMap} : a.same b = true ↔ a.items.Perm b.items := by
  constructor
  · rw [same, Bool.and_eq_true, beq_iff_eq, List.all_eq_true]
    rintro ⟨hsize, hall⟩
    refine perm_of_length_eq_of_subset a.distinct.of_map hsize fun field hfield => ?_
    exact (Keyed.find?_eq_some_iff.1 (beq_iff_eq.1 (hall field hfield))).1
  · intro hperm
    rw [same_congr hperm (List.Perm.refl _)]
    exact same_self b

theorem sameNames_comm (a b : FieldMap) : a.sameNames b = b.sameNames a := by
  rw [Bool.eq_iff_iff, sameNames_iff, sameNames_iff]
  exact List.perm_comm

theorem same_comm (a b : FieldMap) : a.same b = b.same a := by
  rw [Bool.eq_iff_iff, same_iff, same_iff]
  exact List.perm_comm

end FieldMap

theorem Request.sameForm_comm (a b : Option FieldMap) : sameForm a b = sameForm b a := by
  cases a <;> cases b <;> simp only [sameForm, FieldMap.same_comm]

theorem Request.nodup_keys_of_bodyValue? {request : Request} {members : List (String × Json)}
    (hbody : request.bodyValue? = some (.object members)) : (members.map (·.1)).Nodup := by
  unfold Request.bodyValue? ApiManual.bodyValue? at hbody
  split at hbody
  · exact (Json.ascending_of_readValue? hbody).nodup
  · cases hbody

namespace Replay

theorem sameFormNames_comm (a b : Option FieldMap) : sameFormNames a b = sameFormNames b a := by
  cases a with
  | none => cases b <;> rfl
  | some fields =>
    cases b with
    | none => rfl
    | some others =>
      rw [sameFormNames, sameFormNames, FieldMap.sameNames_comm, Bool.and_comm (!fields.isEmpty)]

theorem sameBody_comm (a b : Option Json) : sameBody a b = sameBody b a := by
  cases a <;> cases b <;> simp only [sameBody, Json.same_comm]

/-- Objects of bodies have no key twice, because of equal keys the last one counts. -/
theorem sameBodyKeys_comm (a b : Request) :
    sameBodyKeys a.bodyValue? b.bodyValue? = sameBodyKeys b.bodyValue? a.bodyValue? := by
  have hobjects : ∀ {recorded candidate : Request},
      sameBodyKeys recorded.bodyValue? candidate.bodyValue? = true →
        sameBodyKeys candidate.bodyValue? recorded.bodyValue? = true := by
    intro recorded candidate hsame
    unfold sameBodyKeys at hsame
    split at hsame
    · next members others hrecorded hcandidate =>
      rw [hrecorded, hcandidate, sameBodyKeys]
      have hperm : (members.map (·.1)).Perm (others.map (·.1)) := by
        refine (length_beq_and_all_iff (Request.nodup_keys_of_bodyValue? hrecorded)).1 ?_
        simpa only [List.length_map] using hsame
      have hback := (length_beq_and_all_iff (Request.nodup_keys_of_bodyValue? hcandidate)).2 hperm.symm
      simpa only [List.length_map] using hback
    · cases hsame
  rw [Bool.eq_iff_iff]
  exact ⟨hobjects, hobjects⟩

theorem sharedFeatures_comm (a b : Request) : sharedFeatures a b = sharedFeatures b a := by
  rw [sharedFeatures, sharedFeatures, FieldMap.sameNames_comm, FieldMap.same_comm,
    sameFormNames_comm, Request.sameForm_comm, sameBodyKeys_comm, sameBody_comm,
    HeaderMap.same_comm]

/-- **Likeness is symmetric.** Two requests share the same features whichever of them is the recorded
one, so they score the same, or are not compared, in both directions. -/
theorem score?_comm (recorded candidate : Request) :
    score? recorded candidate = score? candidate recorded := by
  have hplace : (recorded.path = candidate.path ∧ recorded.method = candidate.method) ↔
      (candidate.path = recorded.path ∧ candidate.method = recorded.method) :=
    and_congr eq_comm eq_comm
  rw [score?, score?, sharedFeatures_comm recorded candidate]
  exact if_congr hplace rfl rfl

end Replay

end ApiManual
