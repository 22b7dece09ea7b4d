import ApiManual.Page
import ApiManual.Proofs.Text.Decimal
import ApiManual.Proofs.Text.Pieces

/-!
# Tables of parameters

A page lists the parameters of each carrier in a table: two lines of headings, and a row for each
parameter. A row is made by putting bars between the cells, and ends with a line feed. So it has a cell
for each column only as long as no cell holds a bar, and it is one line only as long as no cell holds a
line feed. Numbers and flags hold neither. The description has its line feeds taken out, but not its
bars. The other cells are texts of the parameter as they are, and may hold anything.
-/

namespace ApiManual

/-! ### Numbers in cells -/

namespace Binary64

/-- Digits, signs and points. -/
def IsNumeral (c : Char) : Prop := c.isDigit = true ∨ c = '-' ∨ c = '.'

theorem isNumeral_of_mem_placePoint {digits : List Char} {whole : Int}
    (hdigits : ∀ c ∈ digits, IsNumeral c) {c : Char}
    (hmem : c ∈ (placePoint digits whole).1 ∨ c ∈ (placePoint digits whole).2) : IsNumeral c := by
  have hzeros : ∀ {n : Nat}, c ∈ List.replicate n '0' → IsNumeral c := fun hzero =>
    Or.inl (List.eq_of_mem_replicate hzero ▸ rfl)
  unfold placePoint at hmem
  split at hmem
  · rcases hmem with hwhole | hdecimals
    · exact Or.inl (List.mem_singleton.1 hwhole ▸ rfl)
    · exact (List.mem_append.1 hdecimals).elim hzeros (hdigits c)
  · have hpadded : c ∈ digits ++ List.replicate (whole.toNat - digits.length) '0' :=
      hmem.elim List.mem_of_mem_take List.mem_of_mem_drop
    exact (List.mem_append.1 hpadded).elim (hdigits c) hzeros

theorem isNumeral_of_mem_plainText {x : Binary64} {c : Char} (hmem : c ∈ x.plainText.toList) :
    IsNumeral c := by
  have hsign : c ∈ (if x.negative then "-" else "").toList → IsNumeral c := by
    split
    · exact fun hminus => Or.inr (Or.inl (List.mem_singleton.1 hminus))
    · exact fun hnone => absurd hnone List.not_mem_nil
  have hdigits : ∀ d ∈ Nat.toDigits 10 x.shortest.1, IsNumeral d := fun d hd =>
    Or.inl (Text.isDigit_of_mem_toDigits hd)
  rw [plainText, write] at hmem
  dsimp only at hmem
  split at hmem
  · rw [String.append_empty, String.toList_append, List.mem_append] at hmem
    exact hmem.elim hsign fun hzero => Or.inl (List.mem_singleton.1 hzero ▸ rfl)
  · rw [if_pos rfl, String.toList_append, String.toList_append, List.mem_append, List.mem_append,
      String.toList_ofList] at hmem
    generalize x.shortest.2 + (Nat.toDigits 10 x.shortest.1).length - 1 + 1 = whole at hmem
    rcases hmem with (hminus | hwhole) | htail
    · exact hsign hminus
    · exact isNumeral_of_mem_placePoint hdigits (Or.inl hwhole)
    · split at htail
      · exact absurd htail List.not_mem_nil
      · rw [String.toList_append, List.mem_append] at htail
        rcases htail with hpoint | hdecimals
        · exact Or.inr (Or.inr (List.mem_singleton.1 hpoint))
        · rw [String.toList_ofList] at hdecimals
          exact isNumeral_of_mem_placePoint hdigits (Or.inr hdecimals)

end Binary64

namespace Page

open Text

/-! ### Texts that fit into a cell -/

/-- Without bars and without line feeds. -/
def FitsCell (text : String) : Prop := '|' ∉ text.toList ∧ '\n' ∉ text.toList

instance (text : String) : Decidable (FitsCell text) := inferInstanceAs (Decidable (_ ∧ _))

theorem fitsCell_getD_iff {text : Option String} {fallback : String}
    (hfallback : FitsCell fallback) :
    FitsCell (text.getD fallback) ↔ ∀ found ∈ text, FitsCell found := by
  cases text with
  | none => simpa using hfallback
  | some found => simp

theorem fitsCell_intercalate_iff {texts : List String} :
    FitsCell (String.intercalate ", " texts) ↔ ∀ text ∈ texts, FitsCell text := by
  rw [FitsCell, String.toList_intercalate, not_mem_intercalate_iff (by decide),
    not_mem_intercalate_iff (by decide)]
  simp only [List.forall_mem_map, FitsCell, forall₂_and]

theorem fitsCell_oneLine_iff {text : String} : FitsCell (oneLine text) ↔ '|' ∉ text.toList := by
  have hfeed : ∀ c : Char, (if c = '\n' then ' ' else c) ≠ '\n' := fun c => by
    split
    · decide
    · next hc => exact hc
  have hbar : ∀ c : Char, (if c = '\n' then ' ' else c) = '|' ↔ c = '|' := fun c => by
    split
    · next hc => exact hc ▸ by decide
    · exact Iff.rfl
  rw [FitsCell, oneLine, String.toList_ofList]
  simp [hfeed, hbar]

theorem fitsCell_of_numeral {text : String} (hnumeral : ∀ c ∈ text.toList, Binary64.IsNumeral c) :
    FitsCell text := by
  constructor
  · intro hbar
    exact absurd (hnumeral '|' hbar) (by simp [Binary64.IsNumeral])
  · intro hfeed
    exact absurd (hnumeral '\n' hfeed) (by simp [Binary64.IsNumeral])

theorem fitsCell_nat (n : Option Nat) : FitsCell ((n.map toString).getD "") := by
  refine (fitsCell_getD_iff (by decide)).2 fun text htext => ?_
  obtain ⟨value, -, rfl⟩ := Option.map_eq_some_iff.1 htext
  refine fitsCell_of_numeral fun c hc => Or.inl ?_
  exact isDigit_of_mem_toDigits (Nat.toList_repr ▸ hc)

theorem fitsCell_float (x : Option Binary64) :
    FitsCell ((x.map Binary64.plainText).getD "") := by
  refine (fitsCell_getD_iff (by decide)).2 fun text htext => ?_
  obtain ⟨value, -, rfl⟩ := Option.map_eq_some_iff.1 htext
  exact fitsCell_of_numeral fun c hc => Binary64.isNumeral_of_mem_plainText hc

theorem fitsCell_flag (value : Bool) : FitsCell (flag value) := by
  cases value <;> decide

theorem fitsCell_of_mem_columns : ∀ cell ∈ columns, FitsCell cell := by
  simp [columns, FitsCell]

/-- The texts of a parameter that are put into cells as they are. -/
def verbatim (param : Param) : List String :=
  param.name :: (param.typeName.toList ++ param.default.toList ++ param.sample.toList
    ++ param.choices.getD [] ++ param.pattern.toList)

/-- No bar stands in any text of the parameter, and no line feed in any but the description. -/
def FitsRow (param : Param) : Prop :=
  (∀ text ∈ verbatim param, FitsCell text) ∧ ∀ text ∈ param.description, '|' ∉ text.toList

instance (param : Param) : Decidable (FitsRow param) := inferInstanceAs (Decidable (_ ∧ _))

theorem forall_mem_cells_iff {param : Param} :
    (∀ cell ∈ cells param, FitsCell cell) ↔ FitsRow param := by
  have hverbatim : ∀ text : Option String,
      FitsCell (text.getD "") ↔ ∀ found ∈ text, FitsCell found := fun text =>
    fitsCell_getD_iff (by decide)
  have htype : FitsCell (param.typeName.getD "string") ↔
      ∀ text ∈ param.typeName, FitsCell text := fitsCell_getD_iff (by decide)
  have hchoices : FitsCell ((param.choices.map (String.intercalate ", ")).getD "") ↔
      ∀ text ∈ param.choices.getD [], FitsCell text := by
    cases param.choices with
    | none => exact iff_of_true (by decide) fun _ hmem => absurd hmem List.not_mem_nil
    | some texts => exact fitsCell_intercalate_iff
  have hdescription : FitsCell (oneLine (param.description.getD "")) ↔
      ∀ text ∈ param.description, '|' ∉ text.toList := by
    rw [fitsCell_oneLine_iff]
    cases param.description <;> simp
  have hnumbers : FitsCell ((param.minLength.map toString).getD "") ∧
      FitsCell ((param.maxLength.map toString).getD "") ∧
      FitsCell ((param.minimum.map Binary64.plainText).getD "") ∧
      FitsCell ((param.maximum.map Binary64.plainText).getD "") :=
    ⟨fitsCell_nat _, fitsCell_nat _, fitsCell_float _, fitsCell_float _⟩
  rw [cells, FitsRow, verbatim]
  simp only [List.forall_mem_cons, List.forall_mem_append, Option.mem_toList, Option.mem_def,
    htype, hchoices, hdescription, hnumbers, hverbatim param.default, hverbatim param.sample,
    hverbatim param.pattern, fitsCell_flag, List.not_mem_nil, false_implies, implies_true, true_and,
    and_true, and_assoc]

/-! ### Rows -/

/-- One line that is split by bars into as many cells as there are columns. -/
def IsRow (text : String) : Prop :=
  '\n' ∉ text.toList ∧ (text.toList.splitOn '|').length = columns.length

theorem isRow_iff {cells : List String} (hlength : cells.length = columns.length) :
    IsRow (row cells) ↔ ∀ cell ∈ cells, FitsCell cell := by
  -- The bars between the cells are one fewer than the columns, so none is left for a cell.
  have hbars : ((row cells).toList.splitOn '|').length = columns.length ↔
      ∀ cell ∈ cells, '|' ∉ cell.toList := by
    have hcolumns : columns.length = 13 := rfl
    have hbetween : " | ".toList.count '|' = 1 := by decide
    rw [length_splitOn, row, String.toList_intercalate, count_intercalate, List.length_map, hlength,
      hcolumns, hbetween, ← List.forall_mem_map (P := ('|' ∉ ·)), ← not_mem_flatten_iff,
      ← List.count_eq_zero]
    omega
  have hfeeds : '\n' ∉ (row cells).toList ↔ ∀ cell ∈ cells, '\n' ∉ cell.toList := by
    rw [row, String.toList_intercalate, not_mem_intercalate_iff (by decide), List.forall_mem_map]
  rw [IsRow, hbars, hfeeds, and_comm]
  exact forall₂_and.symm

theorem isRow_cells_iff {param : Param} : IsRow (row (cells param)) ↔ FitsRow param := by
  have hlength : (cells param).length = columns.length := rfl
  rw [isRow_iff hlength, forall_mem_cells_iff]

/-! ### The order of rows -/

/-- The same parameters in ascending order of names, equal names in the order in which they were. -/
structure SortedByName (params ordered : List Param) : Prop where
  perm : ordered.Perm params
  ascending : ordered.Pairwise fun a b => a.name ≤ b.name
  stable : ∀ name, ordered.filter (·.name = name) = params.filter (·.name = name)

theorem sortedByName_byName (params : List Param) : SortedByName params (byName params) := by
  have htrans : ∀ a b c : Param, decide (a.name ≤ b.name) = true → decide (b.name ≤ c.name) = true →
      decide (a.name ≤ c.name) = true := by
    intro a b c hab hbc
    exact decide_eq_true (String.le_trans (of_decide_eq_true hab) (of_decide_eq_true hbc))
  have htotal : ∀ a b : Param, (decide (a.name ≤ b.name) || decide (b.name ≤ a.name)) = true := by
    intro a b
    rw [Bool.or_eq_true, decide_eq_true_eq, decide_eq_true_eq]
    exact String.le_total a.name b.name
  have hperm : (byName params).Perm params := List.mergeSort_perm ..
  refine ⟨hperm, ?_, fun name => ?_⟩
  · exact (List.pairwise_mergeSort htrans htotal params).imp of_decide_eq_true
  · -- Parameters with one name are in order as they stand, so sorting keeps them as a sublist.
    have hequal : (params.filter (·.name = name)).Pairwise fun a b =>
        decide (a.name ≤ b.name) = true := by
      refine List.pairwise_of_forall_mem_list fun a ha b hb => decide_eq_true ?_
      have hname : a.name = name := of_decide_eq_true (List.mem_filter.1 ha).2
      have hother : b.name = name := of_decide_eq_true (List.mem_filter.1 hb).2
      exact hname.trans hother.symm ▸ String.le_refl a.name
    have hsublist : (params.filter (·.name = name)).Sublist (byName params) :=
      List.sublist_mergeSort htrans htotal hequal List.filter_sublist
    have hfiltered := hsublist.filter (·.name = name)
    rw [List.filter_filter] at hfiltered
    simp only [Bool.and_self] at hfiltered
    exact (hfiltered.eq_of_length (hperm.filter _).length_eq.symm).symm

/-! ### Tables on a page -/

theorem toList_ofLines (lines : List String) :
    (ofLines lines).toList = List.intercalate ['\n'] (lines.map String.toList ++ [[]]) := by
  rw [ofLines, String.toList_join]
  induction lines with
  | nil => rfl
  | cons line rest ih =>
    have hfeed : (line ++ "\n").toList = line.toList ++ ['\n'] := String.toList_append
    rw [List.map_cons, List.flatMap_cons, ih, hfeed, List.map_cons, List.cons_append]
    cases rest <;> simp [List.intercalate_cons_cons]

/-- Lines without line feeds are the lines of the text that they make. -/
theorem lines_ofLines {lines : List String} (hfeeds : ∀ line ∈ lines, '\n' ∉ line.toList) :
    Text.lines (ofLines lines).toList = lines.map String.toList ++ [[]] := by
  rw [toList_ofLines, Text.lines]
  refine List.splitOn_intercalate _ ?_ (List.append_ne_nil_of_right_ne_nil _ (List.cons_ne_nil _ _))
  intro piece hpiece
  rcases List.mem_append.1 hpiece with hline | hlast
  · obtain ⟨line, hmem, rfl⟩ := List.mem_map.1 hline
    exact hfeeds line hmem
  · exact List.mem_singleton.1 hlast ▸ List.not_mem_nil

/-- The lines of a table below its two headings. The last line ends with a line feed too. -/
def bodyLines (text : String) : List (List Char) :=
  ((Text.lines text.toList).drop 2).dropLast

/-- One line for each parameter: its row, split by bars into as many cells as there are columns. -/
structure RowsOf (ordered : List Param) (lines : List (List Char)) : Prop where
  rows : lines = ordered.map fun param => (row (cells param)).toList
  cells : ∀ line ∈ lines, (line.splitOn '|').length = columns.length

theorem rowsOf_bodyLines_iff {params : List Param} :
    RowsOf (byName params) (bodyLines (ofLines (table params))) ↔ ∀ param ∈ params, FitsRow param := by
  have hmem : ∀ {param}, param ∈ byName params ↔ param ∈ params :=
    (sortedByName_byName params).perm.mem_iff
  constructor
  · intro hrows param hparam
    have hline : (row (cells param)).toList ∈ bodyLines (ofLines (table params)) :=
      hrows.rows ▸ List.mem_map_of_mem (hmem.2 hparam)
    refine isRow_cells_iff.1 ⟨?_, hrows.cells _ hline⟩
    exact not_mem_of_mem_splitOn (List.mem_of_mem_drop (List.mem_of_mem_dropLast hline))
  · intro hfits
    have hrow : ∀ param ∈ byName params, IsRow (row (cells param)) := fun param hparam =>
      isRow_cells_iff.2 (hfits param (hmem.1 hparam))
    have hheadings : IsRow (row columns) := (isRow_iff rfl).2 fitsCell_of_mem_columns
    have hrule : IsRow (row (columns.map fun _ => "---")) := by
      refine (isRow_iff (List.length_map _)).2 fun cell hcell => ?_
      obtain ⟨_, _, rfl⟩ := List.mem_map.1 hcell
      decide
    have hfeeds : ∀ line ∈ table params, '\n' ∉ line.toList := by
      intro line hline
      rcases List.mem_cons.1 hline with rfl | hline
      · exact hheadings.1
      rcases List.mem_cons.1 hline with rfl | hline
      · exact hrule.1
      obtain ⟨param, hparam, rfl⟩ := List.mem_map.1 hline
      exact (hrow param hparam).1
    have hbody : bodyLines (ofLines (table params)) =
        (byName params).map fun param => (row (cells param)).toList := by
      rw [bodyLines, lines_ofLines hfeeds, table]
      simp [Function.comp_def]
    refine ⟨hbody, fun line hline => ?_⟩
    rw [hbody] at hline
    obtain ⟨param, hparam, rfl⟩ := List.mem_map.1 hline
    exact (hrow param hparam).2

/-- A carrier that has parameters has a table on the page, under its heading. A blank line ends it. -/
theorem exists_table {endpoint : Endpoint} {carrier : Carrier}
    (hparams : endpoint.params carrier ≠ []) :
    ∃ before after, ofEndpoint endpoint =
      before ++ ("### " ++ carrier.label ++ "\n\n" ++ ofLines (table (endpoint.params carrier)) ++ "\n")
        ++ after := by
  obtain ⟨front, rest, hinOrder⟩ := List.append_of_mem carrier.mem_inOrder
  have hall : endpoint.allParams.isEmpty = false := by
    rw [List.isEmpty_eq_false_iff]
    intro hnil
    exact hparams (List.flatMap_eq_nil_iff.1 hnil carrier carrier.mem_inOrder)
  have hpart : carrierPart endpoint carrier =
      "### " ++ carrier.label ++ "\n\n" ++ ofLines (table (endpoint.params carrier)) ++ "\n" := by
    rw [carrierPart, List.isEmpty_eq_false_iff.2 hparams]
    rfl
  have hparts : paramsPart endpoint =
      "## Parameters\n\n" ++ String.join (front.map (carrierPart endpoint))
        ++ ("### " ++ carrier.label ++ "\n\n" ++ ofLines (table (endpoint.params carrier)) ++ "\n")
        ++ String.join (rest.map (carrierPart endpoint)) := by
    rw [paramsPart, hall, hinOrder, List.map_append, List.map_cons, String.join_append,
      String.join_cons, hpart]
    simp only [Bool.false_eq_true, if_false, String.append_assoc]
  refine ⟨heading endpoint ++ (endpoint.description.map (· ++ "\n\n")).getD ""
      ++ ("## Parameters\n\n" ++ String.join (front.map (carrierPart endpoint))),
    String.join (rest.map (carrierPart endpoint)) ++ exchangesPart endpoint, ?_⟩
  rw [ofEndpoint, hparts]
  simp only [String.append_assoc]

/-- **A table has one line with a cell for each column for every parameter, exactly if the texts of the
parameters fit.** Whatever they hold, the rows are in ascending order of names, equal names in the order
of the endpoint, and none is lost or repeated. -/
theorem table_rows_iff (endpoint : Endpoint) (carrier : Carrier) :
    (endpoint.params carrier ≠ [] → ∃ before after, ofEndpoint endpoint =
        before
          ++ ("### " ++ carrier.label ++ "\n\n" ++ ofLines (table (endpoint.params carrier)) ++ "\n")
          ++ after) ∧
      SortedByName (endpoint.params carrier) (byName (endpoint.params carrier)) ∧
      (∀ param ∈ endpoint.params carrier, IsRow (row (cells param)) ↔ FitsRow param) ∧
      (RowsOf (byName (endpoint.params carrier))
          (bodyLines (ofLines (table (endpoint.params carrier)))) ↔
        ∀ param ∈ endpoint.params carrier, FitsRow param) :=
  ⟨exists_table, sortedByName_byName _, fun _ _ => isRow_cells_iff, rowsOf_bodyLines_iff⟩

/-- A listing of photos, by order and page. The order is described on two lines. -/
def photoListing : Endpoint :=
  { Endpoint.bare "/photo" "get" with
    queryParams :=
      [{ Param.named .query "sort" with description := some "Sort\nfield" },
        { Param.named .query "page" with typeName := some "Integer" }] }

theorem table_rows_photoListing :
    (∃ before after, ofEndpoint photoListing =
        before
          ++ ("### Query parameters\n\n" ++ ofLines (table (photoListing.params .query)) ++ "\n")
          ++ after) ∧
      RowsOf (byName (photoListing.params .query))
        (bodyLines (ofLines (table (photoListing.params .query)))) := by
  obtain ⟨hpage, -, -, hrows⟩ := table_rows_iff photoListing .query
  exact ⟨hpage (List.cons_ne_nil _ _), hrows.2 (by decide)⟩

/-- The photos in one format. The order has a default of two lines, the format a pattern with a bar. -/
def formatListing : Endpoint :=
  { Endpoint.bare "/photo/:format" "get" with
    urlParams := [{ Param.named .url "format" with pattern := some "^(png|jpg)$" }]
    queryParams := [{ Param.named .query "sort" with default := some "title\ndate" }] }

/-- The default takes the row of its parameter apart. The pattern adds a cell to the row of its own. -/
theorem not_rowsOf_formatListing :
    ¬ RowsOf (byName (formatListing.params .query))
        (bodyLines (ofLines (table (formatListing.params .query)))) ∧
      ¬ RowsOf (byName (formatListing.params .url))
        (bodyLines (ofLines (table (formatListing.params .url)))) :=
  ⟨fun hrows => absurd (rowsOf_bodyLines_iff.1 hrows) (by decide),
    fun hrows => absurd (rowsOf_bodyLines_iff.1 hrows) (by decide)⟩

end Page

end ApiManual
