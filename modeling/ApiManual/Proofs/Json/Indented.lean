import ApiManual.Proofs.Json.Tokens

/-!
# Reading indented text

The indented text of a tree is read as that tree, if the tree has no other numbers than natural ones
of 64 bits and does not stand too deep. The text is cut into the tokens of the tree, and the machine
takes the tokens of a value from wherever a value may come to the value itself.
-/

namespace ApiManual.Json

mutual

/-- The tokens that the text of a tree is cut into. -/
def tokens : Json → List Token
  | .array items => .openArray :: List.intercalate [.comma] (itemTokens items) ++ [.closeArray]
  | .object members =>
    .openObject :: List.intercalate [.comma] (memberTokens members) ++ [.closeObject]
  | .null => [.null]
  | .bool value => [.bool value]
  | .number value => [.number (some value)]
  | .string value => [.string (some value)]
  | .unreadable => [.null]
termination_by structural json => json

def itemTokens : List Json → List (List Token)
  | [] => []
  | item :: rest => item.tokens :: itemTokens rest
termination_by structural items => items

def memberTokens : List (String × Json) → List (List Token)
  | [] => []
  | (key, value) :: rest =>
    (.string (some key) :: .colon :: value.tokens) :: memberTokens rest
termination_by structural members => members

end

/-- The tree can be told from its text, with containers inside each other up to a number. -/
inductive Legible : Nat → Json → Prop where
  | null {depth : Nat} : Legible depth .null
  | bool {depth : Nat} (value : Bool) : Legible depth (.bool value)
  | nat {depth n : Nat} (hle : n ≤ greatestSignificand) : Legible depth (nat n)
  | string {depth : Nat} (value : String) : Legible depth (.string value)
  | array {depth : Nat} {items : List Json} (hitems : ∀ item ∈ items, Legible depth item) :
      Legible (depth + 1) (.array items)
  | object {depth : Nat} {members : List (String × Json)}
      (hmembers : ∀ member ∈ members, Legible depth member.2) :
      Legible (depth + 1) (.object members)

theorem itemTokens_eq_map (items : List Json) : itemTokens items = items.map tokens := by
  induction items with
  | nil => rfl
  | cons item items ih => rw [itemTokens, ih, List.map_cons]

theorem indentedItems_eq_map (level : Nat) (items : List Json) :
    indentedItems level items = items.map (indentedAt level) := by
  induction items with
  | nil => rfl
  | cons item items ih => rw [indentedItems, ih, List.map_cons]

def memberToken (member : String × Json) : List Token :=
  .string (some member.1) :: .colon :: member.2.tokens

def memberText (level : Nat) (member : String × Json) : String :=
  stringText member.1 ++ ": " ++ member.2.indentedAt level

theorem memberTokens_eq_map (members : List (String × Json)) :
    memberTokens members = members.map memberToken := by
  induction members with
  | nil => rfl
  | cons member members ih => rw [memberTokens, ih, List.map_cons, memberToken]

theorem indentedMembers_eq_map (level : Nat) (members : List (String × Json)) :
    indentedMembers level members = members.map (memberText level) := by
  induction members with
  | nil => rfl
  | cons member members ih => rw [indentedMembers, ih, List.map_cons, memberText]

theorem cutsInto_memberText {level : Nat} {member : String × Json}
    (hvalue : CutsInto (member.2.indentedAt level) member.2.tokens) :
    CutsInto (memberText level member) (memberToken member) := by
  intro rest hends
  have hcolon : ": ".toList = [':', ' '] := by decide
  simp only [memberText, String.toList_append, List.append_assoc, hcolon, List.cons_append,
    List.nil_append]
  rw [tokens?_of_takeToken (takeToken_stringText _ _), tokens?_of_takeToken rfl,
    tokens?_of_isSpace rfl, hvalue rest hends, Option.map_map, Option.map_map]
  simp [Function.comp_def, memberToken]

theorem cutsInto_indentedAt {depth : Nat} {json : Json} (hlegible : Legible depth json)
    (level : Nat) : CutsInto (json.indentedAt level) json.tokens := by
  induction hlegible generalizing level with
  | null =>
    refine cutsInto_of_takeToken fun rest _ => ?_
    rw [indentedAt, String.toList_ofList]
    rfl
  | bool value =>
    refine cutsInto_of_takeToken fun rest _ => ?_
    cases value with
    | false =>
      rw [indentedAt, if_neg Bool.false_ne_true, String.toList_ofList]
      rfl
    | true =>
      rw [indentedAt, if_pos rfl, String.toList_ofList]
      rfl
  | nat hle => exact cutsInto_of_takeToken fun _ hends => takeToken_nat hle hends
  | string value => exact cutsInto_of_takeToken fun rest _ => takeToken_stringText value rest
  | @array depth items _ ih =>
    rw [indentedAt, tokens, indentedItems_eq_map, itemTokens_eq_map]
    refine cutsInto_bracketed (fun rest => ?_) (fun rest => ?_)
      (fun item hmem => ih item hmem _) level
    · rw [String.toList_ofList]
      rfl
    · rw [String.toList_ofList]
      rfl
  | @object depth members _ ih =>
    rw [indentedAt, tokens, indentedMembers_eq_map, memberTokens_eq_map]
    refine cutsInto_bracketed (fun rest => ?_) (fun rest => ?_)
      (fun member hmem => cutsInto_memberText (ih member hmem _)) level
    · rw [String.toList_ofList]
      rfl
    · rw [String.toList_ofList]
      rfl

/-! ### The machine takes a value -/

/-- The machine takes the tokens of a value to the value. -/
def TakesTo (json : Json) (stack : List Frame) : Prop :=
  json.tokens.foldlM Machine.step ⟨stack, .value⟩ = some (accept json stack)

section Entries

variable {stack : List Frame}

theorem foldlM_items {items : List Json}
    (hitems : ∀ item ∈ items, ∀ done, TakesTo item (.array done :: stack)) (hsome : items ≠ [])
    (done : List Json) :
    (List.intercalate [.comma] (items.map tokens)).foldlM Machine.step
        ⟨.array done :: stack, .value⟩ =
      some ⟨.array (items.reverse ++ done) :: stack, .separator⟩ := by
  induction items generalizing done with
  | nil => exact absurd rfl hsome
  | cons item items ih =>
    rw [List.forall_mem_cons] at hitems
    have hitem : item.tokens.foldlM Machine.step ⟨.array done :: stack, .value⟩ =
      some ⟨.array (item :: done) :: stack, .separator⟩ := hitems.1 done
    cases items with
    | nil => simpa using hitem
    | cons second items =>
      have hrest := ih hitems.2 (List.cons_ne_nil _ _) (item :: done)
      have hcomma : Machine.step ⟨.array (item :: done) :: stack, .separator⟩ .comma =
          some ⟨.array (item :: done) :: stack, .value⟩ := rfl
      rw [intercalate_comma_cons_cons, List.foldlM_append, hitem, Option.bind_eq_bind,
        Option.bind_some, List.foldlM_cons, hcomma, Option.bind_eq_bind, Option.bind_some, hrest]
      simp

theorem foldlM_memberToken {member : String × Json} (done : List (String × Json)) (key : String)
    (hmember : ∀ done key, TakesTo member.2 (.object done true key :: stack)) :
    (memberToken member).foldlM Machine.step ⟨.object done true key :: stack, .key⟩ =
      some ⟨.object (member :: done) true member.1 :: stack, .separator⟩ := by
  have hkey : Machine.step ⟨.object done true key :: stack, .key⟩ (.string (some member.1)) =
      some ⟨.object done true member.1 :: stack, .colon⟩ := rfl
  have hcolon : Machine.step ⟨.object done true member.1 :: stack, .colon⟩ .colon =
      some ⟨.object done true member.1 :: stack, .value⟩ := rfl
  rw [memberToken, List.foldlM_cons, hkey, Option.bind_eq_bind, Option.bind_some, List.foldlM_cons,
    hcolon, Option.bind_eq_bind, Option.bind_some]
  exact hmember done member.1

theorem foldlM_members {members : List (String × Json)}
    (hmembers : ∀ member ∈ members, ∀ done key,
      TakesTo member.2 (.object done true key :: stack))
    (hsome : members ≠ []) (done : List (String × Json)) (key : String) :
    ∃ last, (List.intercalate [.comma] (members.map memberToken)).foldlM Machine.step
        ⟨.object done true key :: stack, .key⟩ =
      some ⟨.object (members.reverse ++ done) true last :: stack, .separator⟩ := by
  induction members generalizing done key with
  | nil => exact absurd rfl hsome
  | cons member members ih =>
    rw [List.forall_mem_cons] at hmembers
    have hmember := foldlM_memberToken done key hmembers.1
    cases members with
    | nil => exact ⟨member.1, by simpa using hmember⟩
    | cons second members =>
      obtain ⟨last, hrest⟩ := ih hmembers.2 (List.cons_ne_nil _ _) (member :: done) member.1
      have hcomma : Machine.step ⟨.object (member :: done) true member.1 :: stack, .separator⟩
          .comma = some ⟨.object (member :: done) true member.1 :: stack, .key⟩ := rfl
      refine ⟨last, ?_⟩
      rw [intercalate_comma_cons_cons, List.foldlM_append, hmember, Option.bind_eq_bind,
        Option.bind_some, List.foldlM_cons, hcomma, Option.bind_eq_bind, Option.bind_some, hrest]
      simp

end Entries

theorem head?_items_ne_closeArray {items : List Json} (hsome : items ≠ []) :
    ∃ first rest, List.intercalate [.comma] (items.map tokens) = first :: rest ∧
      first ≠ .closeArray := by
  have hfirst : ∀ json : Json, ∃ first rest, json.tokens = first :: rest ∧ first ≠ .closeArray := by
    intro json
    cases json <;> exact ⟨_, _, rfl, by simp⟩
  obtain ⟨item, items, rfl⟩ := List.exists_cons_of_ne_nil hsome
  obtain ⟨first, rest, htokens, hne⟩ := hfirst item
  cases items with
  | nil => exact ⟨first, rest, by simpa using htokens, hne⟩
  | cons second items =>
    rw [List.map_cons, List.map_cons, List.intercalate_cons_cons, htokens]
    exact ⟨first, _, rfl, hne⟩

/-- Where an item may come, an array may end too, but no item begins with its end. -/
theorem step_valueOrEnd {stack : List Frame} {token : Token} (htoken : token ≠ .closeArray) :
    Machine.step ⟨stack, .valueOrEnd⟩ token = Machine.step ⟨stack, .value⟩ token := by
  cases token <;> first | rfl | exact absurd rfl htoken

theorem takesTo_array {items : List Json} {stack : List Frame}
    (hroom : stack.length < greatestDepth)
    (hitems : ∀ item ∈ items, ∀ done, TakesTo item (.array done :: stack)) :
    TakesTo (.array items) stack := by
  have hopen : Machine.step ⟨stack, .value⟩ .openArray =
      some ⟨.array [] :: stack, .valueOrEnd⟩ := rfl
  have hclose : close true (.array items.reverse :: stack) = some (accept (.array items) stack) := by
    simp [close, hroom, Frame.close]
  rw [TakesTo, tokens, itemTokens_eq_map, List.cons_append, List.foldlM_cons, hopen,
    Option.bind_eq_bind, Option.bind_some, List.foldlM_append]
  by_cases hsome : items = []
  · subst hsome
    exact hclose
  · have hall := foldlM_items hitems hsome []
    obtain ⟨first, rest, hfirst, hne⟩ := head?_items_ne_closeArray hsome
    rw [hfirst, List.foldlM_cons, ← step_valueOrEnd hne, ← List.foldlM_cons, ← hfirst,
      List.append_nil] at hall
    rw [hall]
    exact hclose

theorem takesTo_object {members : List (String × Json)} {stack : List Frame}
    (hroom : stack.length < greatestDepth)
    (hmembers : ∀ member ∈ members, ∀ done key,
      TakesTo member.2 (.object done true key :: stack)) :
    TakesTo (.object members) stack := by
  have hopen : Machine.step ⟨stack, .value⟩ .openObject =
      some ⟨.object [] true "" :: stack, .keyOrEnd⟩ := rfl
  have hclose : ∀ key, close false (.object members.reverse true key :: stack) =
      some (accept (.object members) stack) := by
    intro key
    simp [close, hroom, Frame.close]
  rw [TakesTo, tokens, memberTokens_eq_map, List.cons_append, List.foldlM_cons, hopen,
    Option.bind_eq_bind, Option.bind_some, List.foldlM_append]
  by_cases hsome : members = []
  · subst hsome
    exact hclose ""
  · obtain ⟨last, hall⟩ := foldlM_members hmembers hsome [] ""
    -- A key may come first in both places, so it makes no difference that the object may end.
    have hsame : (List.intercalate [.comma] (members.map memberToken)).foldlM Machine.step
        ⟨.object [] true "" :: stack, .keyOrEnd⟩ =
          (List.intercalate [.comma] (members.map memberToken)).foldlM Machine.step
            ⟨.object [] true "" :: stack, .key⟩ := by
      obtain ⟨member, members, rfl⟩ := List.exists_cons_of_ne_nil hsome
      cases members <;> rfl
    rw [hsame, hall, List.append_nil]
    exact hclose last

theorem takesTo_of_legible {depth : Nat} {json : Json} (hlegible : Legible depth json)
    {stack : List Frame} (hroom : stack.length + depth ≤ greatestDepth) : TakesTo json stack := by
  induction hlegible generalizing stack with
  | null => rfl
  | bool value => rfl
  | nat hle => rfl
  | string value => rfl
  | array _ ih =>
    refine takesTo_array (by omega) fun item hmem done => ih item hmem ?_
    rw [List.length_cons]
    omega
  | object _ ih =>
    refine takesTo_object (by omega) fun member hmem done key => ih member hmem ?_
    rw [List.length_cons]
    omega

/-- A text that is cut into the tokens of a tree is read as the tree. -/
theorem read?_of_cutsInto {text : String} {json : Json} (hcut : CutsInto text json.tokens)
    (hlegible : Legible greatestDepth json) : read? text = some json := by
  have hall := hcut [] (fun _ hc => by cases hc)
  have htokens : tokens? text.toList = some json.tokens := by
    rw [List.append_nil] at hall
    rw [hall]
    simp [tokens?]
  have htakes : TakesTo json [] := takesTo_of_legible hlegible (by simp)
  rw [TakesTo] at htakes
  rw [read?, htokens, Option.bind_eq_bind, Option.bind_some, htakes]
  rfl

/-- **Indented text is read as it was written.** -/
theorem read?_indented {json : Json} (hlegible : Legible greatestDepth json) :
    read? json.indented = some json :=
  read?_of_cutsInto (cutsInto_indentedAt hlegible 0) hlegible

end ApiManual.Json
