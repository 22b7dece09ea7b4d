import ApiManual.Proofs.Exchange.Same
import ApiManual.Proofs.Json.Canonical
import ApiManual.Replay.Score
import Mathlib.Data.List.Forall2

/-!
# The greatest score

Three of the seven features are shared only under a condition: forms have to have fields, and bodies
have to be objects. A request may therefore score less than seven against itself. Still nothing
scores more against it, because every feature that another request shares with it is one that it
shares with itself. What scores as much shares all the others too, and those are the ones that
matter.
-/

namespace ApiManual

/-- Agreement in every feature that tells recordings apart. -/
def Request.agrees (a b : Request) : Bool :=
  a.path == b.path && a.method == b.method && a.query.same b.query && Request.sameForm a.form b.form
    && Replay.sameBody a.bodyValue? b.bodyValue? && a.headers.same b.headers

namespace Replay

/-- Every feature of the first list holds in the second. -/
abbrev Implied (xs ys : List Bool) : Prop :=
  List.Forall₂ (fun x y => x = true → y = true) xs ys

theorem count_true_le {xs ys : List Bool} (himplied : Implied xs ys) :
    xs.count true ≤ ys.count true := by
  induction himplied with
  | nil => exact Nat.le_refl _
  | cons hhead _ ih =>
    rename_i x y xs ys _
    cases x with
    | false =>
      rw [List.count_cons_of_ne (by decide), List.count_cons]
      omega
    | true =>
      rw [hhead rfl, List.count_cons_self, List.count_cons_self]
      omega

theorem eq_of_count_true_le {xs ys : List Bool} (himplied : Implied xs ys)
    (hcount : ys.count true ≤ xs.count true) : xs = ys := by
  induction himplied with
  | nil => rfl
  | cons hhead htail ih =>
    rename_i x y xs ys
    have hrest := count_true_le htail
    cases x with
    | true =>
      rw [hhead rfl, List.count_cons_self, List.count_cons_self] at hcount
      rw [hhead rfl, ih (by omega)]
    | false =>
      cases y with
      | false =>
        rw [List.count_cons_of_ne (by decide), List.count_cons_of_ne (by decide)] at hcount
        rw [ih hcount]
      | true =>
        rw [List.count_cons_self, List.count_cons_of_ne (by decide)] at hcount
        omega

theorem sameBody_self (request : Request) :
    sameBody request.bodyValue? request.bodyValue? = true := by
  cases hbody : request.bodyValue? with
  | none => rfl
  | some json =>
    refine Json.same_self ?_
    unfold Request.bodyValue? bodyValue? at hbody
    split at hbody
    · exact Json.readable_of_readValue? hbody
    · cases hbody

theorem sameFormNames_self {a b : Option FieldMap} (hshared : sameFormNames a b = true) :
    sameFormNames b b = true := by
  cases a with
  | none => cases hshared
  | some fields =>
    cases b with
    | none => cases hshared
    | some others =>
      simp only [sameFormNames, Bool.and_eq_true] at hshared ⊢
      exact ⟨⟨hshared.1.2, hshared.1.2⟩, FieldMap.sameNames_self others⟩

theorem sameBodyKeys_self {a b : Option Json} (hshared : sameBodyKeys a b = true) :
    sameBodyKeys b b = true := by
  unfold sameBodyKeys at hshared
  split at hshared
  · simp only [sameBodyKeys, beq_self_eq_true, Bool.true_and, List.all_eq_true,
      List.contains_iff_mem]
    exact fun _ hkey => hkey
  · cases hshared

/-- Every feature that a request shares with another is one that the other shares with itself. -/
theorem sharedFeatures_implied (a b : Request) :
    Implied (sharedFeatures a b) (sharedFeatures b b) := by
  refine .cons ?_ (.cons ?_ (.cons ?_ (.cons ?_ (.cons ?_ (.cons ?_ (.cons ?_ .nil))))))
  · exact fun _ => FieldMap.sameNames_self _
  · exact fun _ => FieldMap.same_self _
  · exact sameFormNames_self
  · exact fun _ => Request.sameForm_self _
  · exact sameBodyKeys_self
  · exact fun _ => sameBody_self b
  · exact fun _ => HeaderMap.same_self _

theorem sameFormNames_eq_of_sameForm {a b : Option FieldMap}
    (hsame : Request.sameForm a b = true) : sameFormNames a b = sameFormNames b b := by
  cases a with
  | none =>
    cases b with
    | none => rfl
    | some => cases hsame
  | some fields =>
    cases b with
    | none => cases hsame
    | some others =>
      simp only [Request.sameForm] at hsame
      have hsize : fields.items.length = others.items.length := by
        rw [FieldMap.same, Bool.and_eq_true] at hsame
        exact beq_iff_eq.1 hsame.1
      have hempty : fields.isEmpty = others.isEmpty := by
        rw [Keyed.isEmpty, Keyed.isEmpty, Bool.eq_iff_iff, List.isEmpty_iff_length_eq_zero,
          List.isEmpty_iff_length_eq_zero, hsize]
      simp [sameFormNames, hempty, FieldMap.sameNames_of_same hsame, FieldMap.sameNames_self]

theorem sameBodyKeys_eq_of_sameBody {a b : Option Json} (hsame : sameBody a b = true) :
    sameBodyKeys a b = sameBodyKeys b b := by
  cases a with
  | none =>
    cases b with
    | none => rfl
    | some => cases hsame
  | some left =>
    cases b with
    | none => cases hsame
    | some right =>
      simp only [sameBody] at hsame
      unfold Json.same at hsame
      split at hsame
      case h_6 members others =>
        have hkeys := Json.keys_eq_of_sameMembers hsame
        have hlength : members.length = others.length := by
          rw [← List.length_map (f := (·.1)), hkeys, List.length_map]
        simp [sameBodyKeys, hkeys, hlength]
      all_goals simp [sameBodyKeys] at hsame ⊢

/-- A request shares all the features that the other shares with itself exactly if it agrees in
those that are compared unconditionally. -/
theorem sharedFeatures_eq_iff {a b : Request} :
    sharedFeatures a b = sharedFeatures b b ↔
      a.query.same b.query = true ∧ Request.sameForm a.form b.form = true ∧
        sameBody a.bodyValue? b.bodyValue? = true ∧ a.headers.same b.headers = true := by
  have hself : sharedFeatures b b = [true, true, sameFormNames b.form b.form, true,
      sameBodyKeys b.bodyValue? b.bodyValue?, true, true] := by
    simp [sharedFeatures, FieldMap.sameNames_self, FieldMap.same_self, Request.sameForm_self,
      sameBody_self, HeaderMap.same_self]
  rw [hself]
  constructor
  · intro heq
    simp only [sharedFeatures, List.cons.injEq] at heq
    exact ⟨heq.2.1, heq.2.2.2.1, heq.2.2.2.2.2.1, heq.2.2.2.2.2.2.1⟩
  · rintro ⟨hquery, hform, hbody, hheaders⟩
    simp [sharedFeatures, FieldMap.sameNames_of_same hquery, hquery,
      sameFormNames_eq_of_sameForm hform, hform, sameBodyKeys_eq_of_sameBody hbody, hbody, hheaders]

def selfScore (request : Request) : Nat :=
  (sharedFeatures request request).count true

theorem score?_le_selfScore {a b : Request} {points : Nat} (hscore : score? a b = some points) :
    points ≤ selfScore b := by
  unfold score? at hscore
  split at hscore
  · obtain rfl := Option.some.inj hscore
    exact count_true_le (sharedFeatures_implied a b)
  · cases hscore

/-- **Only what agrees scores as much.** The score of a request against another is the greatest
there is exactly if the two agree in every feature that tells recordings apart. -/
theorem score?_eq_selfScore_iff {a b : Request} :
    score? a b = some (selfScore b) ↔ a.agrees b = true := by
  simp only [Request.agrees, Bool.and_eq_true, beq_iff_eq, and_assoc]
  constructor
  · intro hscore
    unfold score? at hscore
    split at hscore
    · next hplace =>
      have hcount := Nat.le_of_eq (Option.some.inj hscore).symm
      have heq := eq_of_count_true_le (sharedFeatures_implied a b) hcount
      exact ⟨hplace.1, hplace.2, sharedFeatures_eq_iff.1 heq⟩
    · cases hscore
  · rintro ⟨hpath, hmethod, hfeatures⟩
    rw [score?, if_pos ⟨hpath, hmethod⟩, sharedFeatures_eq_iff.2 hfeatures, selfScore]

theorem score?_self (request : Request) : score? request request = some (selfScore request) := by
  rw [score?, if_pos ⟨rfl, rfl⟩, selfScore]

theorem agrees_self (request : Request) : request.agrees request = true :=
  score?_eq_selfScore_iff.1 (score?_self request)

end Replay

end ApiManual
