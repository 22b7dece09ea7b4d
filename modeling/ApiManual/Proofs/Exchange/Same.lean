import ApiManual.Exchange.Message
import ApiManual.Proofs.Keyed

/-!
# Equality of messages up to order

Headers and fields are compared by what is found under each name. So every collection is the same as
itself, and the same collections are the same in whatever order their items stand.
-/

namespace ApiManual

namespace HeaderMap

theorem get?_name {headers : HeaderMap} {name value : String}
    (hmem : (name, value) ∈ headers.items) :
    headers.get? name = some value := by
  have hfound : headers.find? (lowercase name) = some (name, value) :=
    Keyed.find?_eq_some_iff.2 ⟨hmem, rfl⟩
  rw [get?, hfound]
  rfl

theorem same_self (headers : HeaderMap) : headers.same headers = true := by
  rw [same, Bool.and_eq_true, beq_iff_eq, List.all_eq_true]
  refine ⟨rfl, fun header hmem => ?_⟩
  rw [beq_iff_eq]
  exact get?_name hmem

theorem get?_congr {a b : HeaderMap} (hperm : a.items.Perm b.items) (name : String) :
    a.get? name = b.get? name := by
  rw [get?, get?, Keyed.find?_congr hperm]

theorem same_congr {a b c d : HeaderMap} (hfirst : a.items.Perm b.items)
    (hsecond : c.items.Perm d.items) : a.same c = b.same d := by
  simp only [same, Keyed.size, hfirst.length_eq, hsecond.length_eq, get?_congr hsecond,
    hfirst.all_eq]

theorem same_of_perm {a b : HeaderMap} (hperm : a.items.Perm b.items) : a.same b = true := by
  rw [same_congr hperm (List.Perm.refl b.items)]
  exact same_self b

end HeaderMap

namespace FieldMap

theorem same_self (fields : FieldMap) : fields.same fields = true := by
  rw [same, Bool.and_eq_true, beq_iff_eq, List.all_eq_true]
  refine ⟨rfl, fun field hmem => ?_⟩
  rw [beq_iff_eq]
  exact Keyed.find?_eq_some_iff.2 ⟨hmem, rfl⟩

theorem sameNames_self (fields : FieldMap) : fields.sameNames fields = true := by
  simp [sameNames]

theorem same_congr {a b c d : FieldMap} (hfirst : a.items.Perm b.items)
    (hsecond : c.items.Perm d.items) : a.same c = b.same d := by
  simp only [same, Keyed.size, hfirst.length_eq, hsecond.length_eq, Keyed.find?_congr hsecond,
    hfirst.all_eq]

theorem sameNames_congr {a b c d : FieldMap} (hfirst : a.items.Perm b.items)
    (hsecond : c.items.Perm d.items) : a.sameNames c = b.sameNames d := by
  have hnames : a.names.Perm b.names := hfirst.map _
  have hothers : ∀ name, c.names.contains name = d.names.contains name := fun name => by
    rw [Bool.eq_iff_iff, List.contains_iff_mem, List.contains_iff_mem]
    exact (hsecond.map _).mem_iff
  simp only [sameNames, Keyed.size, hfirst.length_eq, hsecond.length_eq, hothers, hnames.all_eq]

theorem sameNames_of_same {a b : FieldMap} (hsame : a.same b = true) : a.sameNames b = true := by
  rw [same, Bool.and_eq_true, List.all_eq_true] at hsame
  rw [sameNames, Bool.and_eq_true, List.all_eq_true]
  refine ⟨hsame.1, fun name hname => ?_⟩
  obtain ⟨field, hfield, rfl⟩ := List.mem_map.1 hname
  have hfound := beq_iff_eq.1 (hsame.2 field hfield)
  rw [List.contains_iff_mem]
  exact Keyed.mem_keys_iff.2 ⟨_, (Keyed.find?_eq_some_iff.1 hfound).1, rfl⟩

end FieldMap

theorem Request.sameForm_self (form : Option FieldMap) : Request.sameForm form form = true := by
  cases form with
  | none => rfl
  | some fields => exact FieldMap.same_self fields

theorem Request.same_self (request : Request) : request.same request = true := by
  simp [Request.same, HeaderMap.same_self, FieldMap.same_self, Request.sameForm_self]

theorem Response.same_self (response : Response) : response.same response = true := by
  simp [Response.same, HeaderMap.same_self]

end ApiManual
