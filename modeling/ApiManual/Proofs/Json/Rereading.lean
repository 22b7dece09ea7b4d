import ApiManual.Proofs.Json.NameOrder
import Mathlib.Data.List.Forall2

/-!
# Reading what was written

The parts that records are written of: texts, numbers, options, lists. Each is read back from its
canonical form, and what stands for nothing is told apart from every value.
-/

namespace ApiManual.Json

variable {α β γ : Type}

@[simp]
theorem sorted_bool (value : Bool) : (bool value).sorted = bool value := rfl

@[simp]
theorem sorted_nat (n : Nat) : (nat n).sorted = nat n := rfl

@[simp]
theorem sorted_string (value : String) : (string value).sorted = string value := rfl

@[simp]
theorem sorted_array (items : List Json) : (array items).sorted = array (items.map sorted) := by
  rw [sorted, sortedItems_eq_map]

@[simp]
theorem sorted_ofOption (write : α → Json) (value : Option α) :
    (ofOption write value).sorted = ofOption (fun x => (write x).sorted) value := by
  cases value <;> rfl

@[simp]
theorem sorted_ofStrings (texts : List String) : (ofStrings texts).sorted = ofStrings texts := by
  rw [ofStrings, sorted_array, List.map_map]
  rfl

theorem mapM_map_eq_pure {m : Type → Type} [Monad m] [LawfulMonad m] {read : γ → m β}
    {write : α → γ} {again : α → β} {values : List α}
    (hread : ∀ value ∈ values, read (write value) = pure (again value)) :
    (values.map write).mapM read = pure (values.map again) := by
  induction values with
  | nil => rfl
  | cons value rest ih =>
    have hrest := ih fun other hother => hread other (List.mem_cons_of_mem _ hother)
    rw [List.map_cons, List.mapM_cons, hread value (List.mem_cons_self ..), hrest]
    simp

/-- A list is read when every item is, and then gives the values in their order. -/
theorem mapM_eq_ok_iff {ε : Type} {read : γ → Except ε β} {items : List γ} {values : List β} :
    items.mapM read = .ok values ↔
      List.Forall₂ (fun item value => read item = .ok value) items values := by
  induction items generalizing values with
  | nil => cases values <;> simp [pure, Except.pure]
  | cons item items ih =>
    rw [List.mapM_cons]
    cases hfirst : read item with
    | error failure => cases values <;> simp [bind, Except.bind, hfirst]
    | ok first =>
      cases hrest : items.mapM read with
      | error failure => cases values <;> simp [bind, Except.bind, ← ih, hrest, hfirst]
      | ok rest =>
        cases values <;> simp [bind, Except.bind, pure, Except.pure, ← ih, hrest, hfirst]

/-- An item that is not read makes the failure of the list, if those before it are read. -/
theorem mapM_eq_error {ε : Type} {read : γ → Except ε β} {before after : List γ} {item : γ}
    (hbefore : ∀ earlier ∈ before, ∃ value, read earlier = .ok value) {failure : ε}
    (hitem : read item = .error failure) :
    (before ++ item :: after).mapM read = .error failure := by
  induction before with
  | nil =>
    rw [List.nil_append, List.mapM_cons, hitem]
    rfl
  | cons earlier before ih =>
    rw [List.forall_mem_cons] at hbefore
    obtain ⟨value, hvalue⟩ := hbefore.1
    rw [List.cons_append, List.mapM_cons, hvalue, ih hbefore.2]
    rfl

theorem exists_of_mem_mapM {ε : Type} {read : γ → Except ε β} {items : List γ} {values : List β}
    (hread : items.mapM read = .ok values) {value : β} (hmem : value ∈ values) :
    ∃ item ∈ items, read item = .ok value := by
  have hall := mapM_eq_ok_iff.1 hread
  clear hread
  induction hall with
  | nil => cases hmem
  | cons hfirst _ ih =>
    rcases List.mem_cons.1 hmem with rfl | hmem
    · exact ⟨_, List.mem_cons_self, hfirst⟩
    · obtain ⟨item, hitem, hvalue⟩ := ih hmem
      exact ⟨item, List.mem_cons_of_mem _ hitem, hvalue⟩

theorem list?_array_map {read : Json → Option β} {write : α → Json} {again : α → β}
    {values : List α} (hread : ∀ value ∈ values, read (write value) = some (again value)) :
    (array (values.map write)).list? read = some (values.map again) :=
  mapM_map_eq_pure hread

@[simp]
theorem list?_ofStrings (texts : List String) : (ofStrings texts).list? string? = some texts := by
  have hread : (texts.map string).mapM string? = some (texts.map id) :=
    mapM_map_eq_pure fun _ _ => rfl
  rwa [List.map_id] at hread

/-- A value that is not written as null is told apart from nothing. -/
theorem nullable?_ofOption {read : Json → Option β} {write : α → Json} {again : α → β}
    {value : Option α} (hread : ∀ x ∈ value, read (write x) = some (again x))
    (hsome : ∀ x ∈ value, write x ≠ .null) :
    (ofOption write value).nullable? read = some (value.map again) := by
  cases value with
  | none => rfl
  | some x =>
    rw [ofOption, nullable?, hread x rfl]
    · rfl
    · exact hsome x rfl

@[simp]
theorem nullable?_texts (text : Option String) :
    (ofOption string text).nullable? string? = some text := by
  cases text <;> rfl

theorem nat?_nat {n greatest : Nat} (hle : n ≤ greatest) : (nat n).nat? greatest = some n := by
  rw [nat, nat?, if_pos ⟨Int.natCast_nonneg n, hle⟩]
  rfl

/-! ### Where a value that was read comes from -/

theorem le_of_nat? {json : Json} {n greatest : Nat} (hread : json.nat? greatest = some n) :
    n ≤ greatest := by
  unfold nat? at hread
  split at hread
  · split at hread
    · next hle =>
      obtain rfl := Option.some.inj hread
      exact hle.2
    · cases hread
  · cases hread

theorem exists_of_mem_list? {read : Json → Option α} {json : Json} {values : List α}
    (hread : json.list? read = some values) {value : α} (hmem : value ∈ values) :
    ∃ item, read item = some value := by
  have hitems : ∀ (items : List Json) (values : List α), items.mapM read = some values →
      value ∈ values → ∃ item, read item = some value := by
    intro items
    induction items with
    | nil =>
      intro values hvalues hmem
      cases hvalues
      cases hmem
    | cons item items ih =>
      intro values hvalues hmem
      simp only [List.mapM_cons, Option.bind_eq_bind, Option.bind_eq_some_iff, Option.pure_def,
        Option.some.injEq] at hvalues
      obtain ⟨first, hfirst, rest, hrest, rfl⟩ := hvalues
      rcases List.mem_cons.1 hmem with rfl | hmem
      · exact ⟨item, hfirst⟩
      · exact ih rest hrest hmem
  cases json with
  | array items => exact hitems items values hread hmem
  | _ => cases hread

theorem exists_of_nullable? {read : Json → Option α} {json : Json} {value : Option α}
    (hread : json.nullable? read = some value) {x : α} (hx : x ∈ value) :
    ∃ item, read item = some x := by
  unfold nullable? at hread
  split at hread
  · cases hread
    cases hx
  · obtain ⟨y, hy, rfl⟩ := Option.map_eq_some_iff.1 hread
    cases hx
    exact ⟨_, hy⟩

namespace Fields

variable {fields : Fields} {name : String} {read : Json → Option α}

theorem eq_or_exists_of_withDefault {default value : α}
    (hread : fields.withDefault name default read = some value) :
    value = default ∨ ∃ json, read json = some value := by
  unfold withDefault at hread
  split at hread
  · exact Or.inl (Option.some.inj hread).symm
  · exact Or.inr ⟨_, hread⟩

theorem exists_of_optional {value : Option α} (hread : fields.optional name read = some value)
    {x : α} (hx : x ∈ value) : ∃ json, read json = some x := by
  rcases eq_or_exists_of_withDefault hread with rfl | ⟨json, hjson⟩
  · cases hx
  · exact exists_of_nullable? hjson hx

end Fields

end ApiManual.Json
