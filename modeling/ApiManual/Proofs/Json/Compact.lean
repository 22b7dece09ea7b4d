import ApiManual.Proofs.Json.Indented

/-!
# Reading compact text

The compact text of a tree is cut into the same tokens as its indented text, only without any space
between them. So it is read as the same tree.
-/

namespace ApiManual.Json

theorem compactItems_eq_map (items : List Json) : compactItems items = items.map compact := by
  induction items with
  | nil => rfl
  | cons item items ih => rw [compactItems, ih, List.map_cons]

def compactMember (member : String × Json) : String :=
  stringText member.1 ++ ":" ++ member.2.compact

theorem compactMembers_eq_map (members : List (String × Json)) :
    compactMembers members = members.map compactMember := by
  induction members with
  | nil => rfl
  | cons member members ih => rw [compactMembers, ih, List.map_cons, compactMember]

theorem cutsInto_compactMember {member : String × Json}
    (hvalue : CutsInto member.2.compact member.2.tokens) :
    CutsInto (compactMember member) (memberToken member) := by
  intro rest hends
  have hcolon : ":".toList = [':'] := by decide
  simp only [compactMember, String.toList_append, List.append_assoc, hcolon, List.cons_append,
    List.nil_append]
  rw [tokens?_of_takeToken (takeToken_stringText _ _), tokens?_of_takeToken rfl,
    hvalue rest hends, Option.map_map, Option.map_map]
  simp [Function.comp_def, memberToken]

theorem cutsInto_compact {depth : Nat} {json : Json} (hlegible : Legible depth json) :
    CutsInto json.compact json.tokens := by
  induction hlegible with
  | null =>
    refine cutsInto_of_takeToken fun rest _ => ?_
    rw [compact, String.toList_ofList]
    rfl
  | bool value =>
    refine cutsInto_of_takeToken fun rest _ => ?_
    cases value with
    | false =>
      rw [compact, if_neg Bool.false_ne_true, String.toList_ofList]
      rfl
    | true =>
      rw [compact, if_pos rfl, String.toList_ofList]
      rfl
  | nat hle => exact cutsInto_of_takeToken fun _ hends => takeToken_nat hle hends
  | string value => exact cutsInto_of_takeToken fun rest _ => takeToken_stringText value rest
  | array _ ih =>
    rw [compact, tokens, compactItems_eq_map, itemTokens_eq_map]
    refine cutsInto_packed (fun rest => ?_) (fun rest => ?_) (fun rest => ?_) ih
    · rw [String.toList_ofList]
      rfl
    · rw [String.toList_ofList]
      rfl
    · rw [String.toList_ofList]
      rintro c ⟨⟩
      decide
  | object _ ih =>
    rw [compact, tokens, compactMembers_eq_map, memberTokens_eq_map]
    refine cutsInto_packed (fun rest => ?_) (fun rest => ?_) (fun rest => ?_)
      (fun member hmem => cutsInto_compactMember (ih member hmem))
    · rw [String.toList_ofList]
      rfl
    · rw [String.toList_ofList]
      rfl
    · rw [String.toList_ofList]
      rintro c ⟨⟩
      decide

/-- **Compact text is read as it was written.** -/
theorem read?_compact {json : Json} (hlegible : Legible greatestDepth json) :
    read? json.compact = some json :=
  read?_of_cutsInto (cutsInto_compact hlegible) hlegible

end ApiManual.Json
