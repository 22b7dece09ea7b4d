import ApiManual.Http
import ApiManual.Proofs.Exchange.Storing
import ApiManual.Proofs.Replay.Likeness
import ApiManual.Proofs.Text.Utf8

/-!
# What a record keeps of a received request

A record makes no difference between a form without fields and no form: it writes null for both. A
request that comes in does have a form without fields if it announces a form and its body is nothing
but ampersands, since empty pieces between ampersands are passed over. Such a request is read back
from its record without the form, and scores less against it than against itself. Every other request
is read back as it was.
-/

namespace ApiManual

/-! ### Texts without fields -/

namespace Text

theorem forall_mem_splitOn_eq_nil_iff {c : Char} {text : List Char} :
    (∀ piece ∈ text.splitOn c, piece = []) ↔ ∀ d ∈ text, d = c := by
  induction text with
  | nil => simp
  | cons d rest ih =>
    rw [List.splitOn_cons_eq_if_modifyHead, List.forall_mem_cons]
    by_cases hd : d = c
    · rw [if_pos (beq_iff_eq.2 hd), List.forall_mem_cons, ih]
      simp [hd]
    · rw [if_neg (mt beq_iff_eq.1 hd)]
      obtain ⟨first, pieces, hpieces⟩ := List.exists_cons_of_ne_nil (List.splitOn_ne_nil c rest)
      simp [hpieces, hd]

end Text

namespace FieldMap

theorem isEmpty_add (fields : FieldMap) (occurrence : String × String) :
    (fields.add occurrence).isEmpty = false := by
  have hput : ∀ field, (Keyed.put fields field).isEmpty = false := fun field =>
    List.isEmpty_eq_false_iff.2 (List.ne_nil_of_mem (Keyed.mem_put_self fields field))
  unfold add
  split
  · exact hput _
  · exact hput _

theorem isEmpty_foldl_add (fields : FieldMap) (pairs : List (String × String)) :
    (pairs.foldl add fields).isEmpty = (fields.isEmpty && pairs.isEmpty) := by
  induction pairs generalizing fields with
  | nil => simp
  | cons pair pairs ih =>
    rw [List.foldl_cons, ih, isEmpty_add, Bool.false_and, List.isEmpty_cons, Bool.and_false]

theorem isEmpty_decode_iff {text : String} :
    (decode text).isEmpty = true ↔ ∀ c ∈ text.toList, c = '&' := by
  rw [decode, ofPairs, isEmpty_foldl_add, ← Text.forall_mem_splitOn_eq_nil_iff, encodedPairs]
  simp [Keyed.isEmpty]

end FieldMap

/-! ### Records -/

namespace Request

open Replay

variable {request : Request}

/-- The request as it is read back from its record. -/
def stored (request : Request) : Request :=
  { request with form := request.form.filter fun fields => !fields.isEmpty }

theorem ofJson?_toJson_of_lowered (hmethod : lowercase request.method = request.method) :
    ofJson? request.toJson = some request.stored := by
  have hwritten : request.stored.Written := by
    refine ⟨hmethod, fun fields hfields => ?_⟩
    simpa using (Option.filter_eq_some_iff.1 hfields).2
  have hjson : request.stored.toJson = request.toJson := by
    rw [toJson, toJson, stored]
    simp [Option.filter_filter, bodyFormat?]
  rw [← hjson]
  exact ofJson?_toJson_self hwritten

theorem sameForm_filter_iff {form : Option FieldMap} :
    sameForm (form.filter fun fields => !fields.isEmpty) form = true ↔
      ∀ fields ∈ form, fields.isEmpty = false := by
  cases form with
  | none => simp [sameForm]
  | some fields =>
    cases hempty : fields.isEmpty with
    | true => simp [Option.filter, hempty, sameForm]
    | false => simp [Option.filter, hempty, sameForm, FieldMap.same_self]

/-- The form is all that a record may lose. -/
theorem same_stored_iff :
    request.stored.same request = true ↔ ∀ fields ∈ request.form, fields.isEmpty = false := by
  rw [← sameForm_filter_iff]
  simp [same, stored, HeaderMap.same_self, FieldMap.same_self]

theorem agrees_stored_iff :
    request.stored.agrees request = true ↔ ∀ fields ∈ request.form, fields.isEmpty = false := by
  have hbody : request.stored.bodyValue? = request.bodyValue? := rfl
  rw [← sameForm_filter_iff, agrees, hbody]
  simp [stored, HeaderMap.same_self, FieldMap.same_self, sameBody_self]

theorem stored_eq_self_iff :
    request.stored = request ↔ ∀ fields ∈ request.form, fields.isEmpty = false := by
  constructor
  · intro heq
    rw [← same_stored_iff, heq]
    exact request.same_self
  · intro hform
    rw [stored, filter_nonempty_eq_self hform]

end Request

namespace Replay

/-- A form without fields shares with no form just the feature that it shares with itself less. -/
theorem score?_stored_of_isEmpty {request : Request} {fields : FieldMap}
    (hform : request.form = some fields) (hempty : fields.isEmpty = true) :
    (score? request.stored request).map (· + 1) = score? request request := by
  have hnone : request.stored.form = none := by
    rw [Request.stored, hform, Option.filter_some, hempty]
    rfl
  have hbody : request.stored.bodyValue? = request.bodyValue? := rfl
  have hless : sharedFeatures request.stored request =
      [true, true, false, false, sameBodyKeys request.bodyValue? request.bodyValue?, true, true] := by
    rw [sharedFeatures, hnone, hform, hbody]
    simp [Request.stored, sameFormNames, Request.sameForm, FieldMap.sameNames_self,
      FieldMap.same_self, sameBody_self, HeaderMap.same_self]
  have hself : sharedFeatures request request =
      [true, true, false, true, sameBodyKeys request.bodyValue? request.bodyValue?, true, true] := by
    rw [sharedFeatures, hform]
    simp [sameFormNames, hempty, Request.sameForm, FieldMap.sameNames_self, FieldMap.same_self,
      sameBody_self, HeaderMap.same_self]
  rw [score?, if_pos ⟨rfl, rfl⟩, score?_self, selfScore, hless, hself, Option.map_some]
  simp [List.count_cons]

end Replay

/-! ### Received requests -/

namespace Http

open Text Replay

/-- A form is announced, and all that comes is ampersands. -/
def Inbound.BlankForm (inbound : Inbound) : Prop :=
  announcesForm (headersOf inbound.headers) = true ∧ inbound.body ≠ [] ∧
    ∀ byte ∈ inbound.body, byte = 0x26

theorem isEmpty_decode_body_iff (body : List UInt8) :
    (FieldMap.decode (String.ofList (decodeLossy body))).isEmpty = true ↔
      ∀ byte ∈ body, byte = 0x26 := by
  rw [FieldMap.isEmpty_decode_iff, String.toList_ofList,
    decodeLossy_forall_iff (by decide) (by decide)]
  refine forall₂_congr fun byte _ => ?_
  rw [← UInt8.toNat_inj]
  rfl

theorem form_toRequest (inbound : Inbound) :
    inbound.toRequest.form =
      if inbound.body ≠ [] ∧ announcesForm (headersOf inbound.headers) = true then
        some (FieldMap.decode (String.ofList (decodeLossy inbound.body)))
      else none := by
  unfold Inbound.toRequest
  dsimp only
  cases inbound.body <;> simp

theorem blankForm_iff {inbound : Inbound} :
    inbound.BlankForm ↔ ∃ fields ∈ inbound.toRequest.form, fields.isEmpty = true := by
  rw [form_toRequest, Inbound.BlankForm, ← isEmpty_decode_body_iff]
  split
  · next hform =>
    simp [hform]
  · next hform =>
    have hnot : ¬ (announcesForm (headersOf inbound.headers) = true ∧ inbound.body ≠ [] ∧
        (FieldMap.decode (String.ofList (decodeLossy inbound.body))).isEmpty = true) :=
      fun hblank => hform ⟨hblank.2.1, hblank.1⟩
    simp [hnot]

theorem form_kept_iff {inbound : Inbound} :
    (∀ fields ∈ inbound.toRequest.form, fields.isEmpty = false) ↔ ¬ inbound.BlankForm := by
  simp only [blankForm_iff, not_exists, not_and, Bool.not_eq_true]

/-- **What is read back of a received request.** From its record, tree or text, every request that
comes in is read back with all but its form as it was. It is the same request, and has as much in
common with itself as before, exactly when its form is not blank. With a blank form it is read back
without the form, and has one feature less in common. -/
theorem received_read_back (inbound : Inbound) :
    ∃ again,
      Request.ofJson? inbound.toRequest.toJson = some again ∧
      (Json.read? inbound.toRequest.toJson.indented).bind Request.ofJson? = some again ∧
      again = { inbound.toRequest with form := again.form } ∧
      (again = inbound.toRequest ↔ ¬ inbound.BlankForm) ∧
      (again.same inbound.toRequest = true ↔ ¬ inbound.BlankForm) ∧
      (score? again inbound.toRequest = score? inbound.toRequest inbound.toRequest ↔
        ¬ inbound.BlankForm) ∧
      (inbound.BlankForm →
        again.form = none ∧ inbound.toRequest.form = some .empty ∧
          (score? again inbound.toRequest).map (· + 1) =
            score? inbound.toRequest inbound.toRequest) := by
  have hread : Request.ofJson? inbound.toRequest.toJson = some inbound.toRequest.stored :=
    Request.ofJson?_toJson_of_lowered (lowercase_lowercase inbound.method)
  have htext : Json.read? inbound.toRequest.toJson.indented = some inbound.toRequest.toJson :=
    Json.read?_indented (Request.legible_toJson _)
  refine ⟨inbound.toRequest.stored, hread, by rw [htext, Option.bind_some, hread], rfl,
    Request.stored_eq_self_iff.trans form_kept_iff, Request.same_stored_iff.trans form_kept_iff, ?_,
    fun hblank => ?_⟩
  · rw [score?_self, score?_eq_selfScore_iff, Request.agrees_stored_iff, form_kept_iff]
  · obtain ⟨fields, hform, hempty⟩ := blankForm_iff.1 hblank
    have hfields : fields = .empty := Keyed.eq_of_items_eq (List.isEmpty_iff.1 hempty)
    refine ⟨?_, ?_, score?_stored_of_isEmpty hform hempty⟩
    · rw [Request.stored, Option.mem_def.1 hform, Option.filter_some, hempty]
      rfl
    · rw [Option.mem_def.1 hform, hfields]

/-- A request that announces a form, with the bytes of a text for a body. -/
def formPost (body : String) : Inbound where
  method := "POST"
  target := "/photo"
  headers := [("content-type", utf8Bytes formType.toList)]
  body := utf8Bytes body.toList

theorem read_back_formPost :
    ¬ (formPost "title=Sea").BlankForm ∧
      Request.ofJson? (formPost "title=Sea").toRequest.toJson =
        some (formPost "title=Sea").toRequest := by
  have hletter : 0x74 ∈ (formPost "title=Sea").body := by decide
  have hfilled : ¬ (formPost "title=Sea").BlankForm := by
    intro hblank
    exact absurd (hblank.2.2 0x74 hletter) (by decide)
  obtain ⟨again, hread, -, -, hsame, -⟩ := received_read_back (formPost "title=Sea")
  rw [hsame.2 hfilled] at hread
  exact ⟨hfilled, hread⟩

/-- One ampersand is enough to lose a form. -/
theorem form_lost_blankPost :
    ∃ again, Request.ofJson? (formPost "&").toRequest.toJson = some again ∧
      again ≠ (formPost "&").toRequest ∧ again.same (formPost "&").toRequest = false ∧
      score? again (formPost "&").toRequest ≠
        score? (formPost "&").toRequest (formPost "&").toRequest := by
  have hbody : (formPost "&").body = [0x26] := by decide
  have hblank : (formPost "&").BlankForm := by
    refine ⟨by decide, ?_, ?_⟩
    · rw [hbody]
      exact List.cons_ne_nil 0x26 []
    · rw [hbody]
      exact fun byte hmem => List.mem_singleton.1 hmem
  have hlost : ¬ ∀ fields ∈ (formPost "&").toRequest.form, fields.isEmpty = false :=
    fun hkept => form_kept_iff.1 hkept hblank
  refine ⟨(formPost "&").toRequest.stored,
    Request.ofJson?_toJson_of_lowered (lowercase_lowercase "POST"),
    mt Request.stored_eq_self_iff.1 hlost, ?_, ?_⟩
  · rw [← Bool.not_eq_true]
    exact mt Request.same_stored_iff.1 hlost
  · rw [score?_self]
    exact mt (score?_eq_selfScore_iff.trans Request.agrees_stored_iff).1 hlost

end Http

end ApiManual
