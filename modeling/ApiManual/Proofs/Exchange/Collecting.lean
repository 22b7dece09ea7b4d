import ApiManual.Exchange.FieldMap
import ApiManual.Proofs.Keyed

/-!
# Fields collected from pairs

The fields of an encoded text are collected from its pairs one after the other. A name that comes up
for the first time gets a field with a single value at the end. A name that comes up again keeps its
place, and the second of its values turns the single value into a list. So the pairs are only grouped:
of each name all values are there, in their order, and nothing else.
-/

namespace ApiManual

namespace FieldValue

variable {value : FieldValue}

theorem values_push (value : FieldValue) (occurrence : String) :
    (value.push occurrence).values = value.values ++ [occurrence] := by
  cases value <;> rfl

/-- A list of values stands for two or more of them. -/
def Proper : FieldValue → Prop
  | .one _ => True
  | .many values => 2 ≤ values.length

theorem Proper.push (hproper : value.Proper) (occurrence : String) :
    (value.push occurrence).Proper := by
  cases value with
  | one single => exact Nat.le_refl 2
  | many values =>
    change 2 ≤ (values ++ [occurrence]).length
    rw [List.length_append]
    exact Nat.le_add_right_of_le hproper

theorem Proper.exists_one_iff (hproper : value.Proper) :
    (∃ single, value = .one single) ↔ value.values.length = 1 := by
  cases value with
  | one single => exact iff_of_true ⟨single, rfl⟩ rfl
  | many values =>
    refine iff_of_false ?_ (Nat.ne_of_gt hproper)
    rintro ⟨single, heq⟩
    cases heq

end FieldValue

namespace FieldMap

variable {pairs : List (String × String)} {fields : FieldMap}

/-- The values that are paired with a name, in their order. -/
def valuesOf (pairs : List (String × String)) (name : String) : List String :=
  (pairs.filter (·.1 = name)).map (·.2)

/-- The values that fields hold for a name. -/
def valuesAt (fields : FieldMap) (name : String) : List String :=
  ((fields.find? name).map (·.2.values)).getD []

theorem valuesOf_append_singleton (pairs : List (String × String)) (pair : String × String)
    (name : String) :
    valuesOf (pairs ++ [pair]) name =
      valuesOf pairs name ++ if pair.1 = name then [pair.2] else [] := by
  rw [valuesOf, List.filter_append, List.map_append, valuesOf]
  by_cases hname : pair.1 = name <;> simp [hname]

theorem length_valuesOf (pairs : List (String × String)) (name : String) :
    (valuesOf pairs name).length = (pairs.map (·.1)).count name := by
  rw [valuesOf, List.length_map, List.count, List.countP_map, List.countP_eq_length_filter]
  rfl

/-- The value of a name after one more occurrence of it. -/
def renewed (fields : FieldMap) (occurrence : String × String) : FieldValue :=
  match fields.find? occurrence.1 with
  | some field => field.2.push occurrence.2
  | none => .one occurrence.2

theorem add_eq_put (fields : FieldMap) (occurrence : String × String) :
    fields.add occurrence = fields.put (occurrence.1, fields.renewed occurrence) := by
  unfold add renewed
  cases fields.find? occurrence.1 <;> rfl

theorem values_renewed (fields : FieldMap) (occurrence : String × String) :
    (fields.renewed occurrence).values = fields.valuesAt occurrence.1 ++ [occurrence.2] := by
  unfold renewed valuesAt
  cases fields.find? occurrence.1 with
  | some field => exact FieldValue.values_push field.2 occurrence.2
  | none => rfl

theorem valuesAt_add (fields : FieldMap) (occurrence : String × String) (name : String) :
    (fields.add occurrence).valuesAt name =
      fields.valuesAt name ++ if occurrence.1 = name then [occurrence.2] else [] := by
  rw [valuesAt, add_eq_put, Keyed.find?_put]
  split
  · next hname =>
    subst hname
    exact values_renewed fields occurrence
  · rw [List.append_nil, valuesAt]

theorem names_add (fields : FieldMap) (occurrence : String × String) :
    (fields.add occurrence).names =
      fields.names ++ if occurrence.1 ∈ fields.names then [] else [occurrence.1] := by
  rw [names, names, add_eq_put]
  split
  · next hmem => rw [Keyed.keys_put_of_mem hmem, List.append_nil]
  · next hfresh => rw [Keyed.keys_put_of_not_mem hfresh]

/-! ### The loop over the pairs -/

/-- Fields that hold what pairs before them gave. -/
structure Collects (pairs : List (String × String)) (fields : FieldMap) : Prop where
  names_eq : fields.names = (pairs.map (·.1)).eraseDups
  values_eq : ∀ name, fields.valuesAt name = valuesOf pairs name
  proper : ∀ field ∈ fields.items, field.2.Proper

theorem Collects.add (hcollects : Collects pairs fields) (pair : String × String) :
    Collects (pairs ++ [pair]) (fields.add pair) where
  names_eq := by
    rw [names_add, List.map_append, List.map_singleton, eraseDups_append_singleton,
      hcollects.names_eq]
  values_eq name := by
    rw [valuesAt_add, valuesOf_append_singleton, hcollects.values_eq]
  proper field hfield := by
    rw [add_eq_put] at hfield
    rcases Keyed.eq_or_mem_of_mem_put hfield with rfl | hold
    · unfold renewed
      split
      · next found hfound =>
        exact (hcollects.proper found (List.mem_of_find?_eq_some hfound)).push pair.2
      · exact trivial
    · exact hcollects.proper field hold

theorem Collects.foldl_add (hcollects : Collects pairs fields) (others : List (String × String)) :
    Collects (pairs ++ others) (others.foldl FieldMap.add fields) := by
  induction others generalizing pairs fields with
  | nil => rwa [List.append_nil]
  | cons pair others ih =>
    rw [List.append_cons]
    exact ih (hcollects.add pair)

theorem collects_ofPairs (pairs : List (String × String)) : Collects pairs (ofPairs pairs) := by
  have hempty : Collects [] .empty := ⟨rfl, fun _ => rfl, fun _ hmem => absurd hmem List.not_mem_nil⟩
  exact hempty.foldl_add pairs

/-- **Pairs are grouped by name.** The fields of an encoded text are collected from its pairs. Collected
fields have the names of the pairs, each once and in the order in which they first come up. The value of
a name has exactly the values paired with it, in their order. It is a single value if the name comes up
once, and else a list of two or more. -/
theorem decode_groups_pairs :
    (∀ text, decode text = ofPairs (encodedPairs text)) ∧
      ∀ pairs, (ofPairs pairs).names = (pairs.map (·.1)).eraseDups ∧
        ∀ name value, (ofPairs pairs).find? name = some (name, value) →
          value.values = valuesOf pairs name ∧
            ((∃ single, value = .one single) ↔ (pairs.map (·.1)).count name = 1) ∧
            ∀ several, value = .many several → 2 ≤ several.length := by
  refine ⟨fun _ => rfl, fun pairs => ?_⟩
  have hcollects := collects_ofPairs pairs
  refine ⟨hcollects.names_eq, fun name value hfound => ?_⟩
  have hproper : value.Proper := hcollects.proper _ (List.mem_of_find?_eq_some hfound)
  have hvalues : value.values = valuesOf pairs name := by
    rw [← hcollects.values_eq, valuesAt, hfound]
    rfl
  refine ⟨hvalues, ?_, ?_⟩
  · rw [hproper.exists_one_iff, hvalues, length_valuesOf]
  · rintro several rfl
    exact hproper

theorem decode_groups_tagPairs :
    (decode "tag=a&sort=&tag=b").names = ["tag", "sort"] ∧
      (decode "tag=a&sort=&tag=b").find? "tag" = some ("tag", .many ["a", "b"]) ∧
      valuesOf (encodedPairs "tag=a&sort=&tag=b") "tag" = ["a", "b"] := by
  have hpairs : encodedPairs "tag=a&sort=&tag=b" = [("tag", "a"), ("sort", ""), ("tag", "b")] := by
    decide +kernel
  obtain ⟨hdecode, hgroups⟩ := decode_groups_pairs
  rw [hdecode, hpairs]
  obtain ⟨hnames, hvalues⟩ := hgroups [("tag", "a"), ("sort", ""), ("tag", "b")]
  have hfound : (ofPairs [("tag", "a"), ("sort", ""), ("tag", "b")]).find? "tag" =
      some ("tag", .many ["a", "b"]) := by
    decide
  refine ⟨?_, hfound, (hvalues "tag" _ hfound).1.symm⟩
  rw [hnames]
  decide

end FieldMap

end ApiManual
