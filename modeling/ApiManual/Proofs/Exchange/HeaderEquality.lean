import ApiManual.Proofs.Exchange.Same
import Mathlib.Data.Finmap

/-!
# Equal headers

Two lists of headers are compared by their lengths and by looking up the names of one in the other.
Since no name stands twice in either of them, that is enough: of as many names, all of which are found,
none is left over. So the comparison sees nothing but the finite map from names in small letters to
values, and is as good as equality of these maps.

Entries under exact names are gone through once, with the names so far kept in small letters. They
may have two names that differ in case alone, and then headers collected from them have one name less.
Such entries are equal to no headers; all others are equal to the headers that collecting makes of them.
-/

namespace ApiManual

namespace HeaderMap

variable {a b headers : HeaderMap}

/-- The headers as a finite map from names in small letters to values. -/
def finite (headers : HeaderMap) : Finmap fun _ : String => String :=
  List.toFinmap (headers.lowered.map fun entry => ⟨entry.1, entry.2⟩)

theorem lookup_finite (headers : HeaderMap) (key : String) :
    headers.finite.lookup key = (headers.find? key).map (·.2) := by
  rw [finite, Finmap.dlookup_list_toFinmap, lowered, List.map_map, Keyed.find?]
  induction headers.items with
  | nil => rfl
  | cons header rest ih =>
    rw [List.map_cons, List.find?_cons]
    by_cases hkey : lowercase header.1 = key
    · subst hkey
      simp
    · simp [hkey, Ne.symm hkey, ih]

theorem finite_eq_iff :
    a.finite = b.finite ↔ ∀ key, (a.find? key).map (·.2) = (b.find? key).map (·.2) := by
  simp only [← lookup_finite]
  exact ⟨fun heq key => by rw [heq], Finmap.ext_lookup⟩

/-- One collection is the same as another if it has as many headers and all of its own are found there.
None of the other's is left over then. -/
theorem find?_eq_of_same (hsame : a.same b = true) (key : String) :
    (a.find? key).map (·.2) = (b.find? key).map (·.2) := by
  rw [same, Bool.and_eq_true, beq_iff_eq, List.all_eq_true] at hsame
  obtain ⟨hsize, hall⟩ := hsame
  have hvalue : ∀ header ∈ a.items, (b.find? (lowercase header.1)).map (·.2) = some header.2 :=
    fun header hmem => beq_iff_eq.1 (hall header hmem)
  have hsubset : a.keys ⊆ b.keys := by
    intro k hk
    obtain ⟨header, hmem, rfl⟩ := Keyed.mem_keys_iff.1 hk
    rw [← Keyed.isSome_find?_iff, ← Option.isSome_map, hvalue header hmem, Option.isSome_some]
  cases hfound : a.find? key with
  | some header =>
    obtain ⟨hmem, rfl⟩ := Keyed.find?_eq_some_iff.1 hfound
    exact (hvalue header hmem).symm
  | none =>
    have hnot : key ∉ a.keys := by
      rw [← Keyed.isSome_find?_iff, hfound]
      simp
    rw [(Keyed.perm_keys_of_subset hsize hsubset).mem_iff, ← Keyed.isSome_find?_iff,
      Option.not_isSome_iff_eq_none] at hnot
    rw [hnot]

theorem same_iff_finite_eq : a.same b = true ↔ a.finite = b.finite := by
  rw [finite_eq_iff]
  refine ⟨find?_eq_of_same, fun hfind => ?_⟩
  have hkeys : a.keys.Perm b.keys := by
    refine (List.perm_ext_iff_of_nodup a.distinct b.distinct).2 fun k => ?_
    rw [← Keyed.keys, ← Keyed.keys, ← Keyed.isSome_find?_iff, ← Keyed.isSome_find?_iff, ← Option.isSome_map,
      hfind k, Option.isSome_map]
  rw [same, Bool.and_eq_true, beq_iff_eq, List.all_eq_true]
  refine ⟨?_, fun header hmem => ?_⟩
  · simpa [Keyed.keys, Keyed.size] using hkeys.length_eq
  · rw [beq_iff_eq, get?, ← hfind]
    exact get?_name hmem

theorem equivalence_same : Equivalence fun a b : HeaderMap => a.same b = true where
  refl := same_self
  symm hsame := same_iff_finite_eq.2 (same_iff_finite_eq.1 hsame).symm
  trans hfirst hsecond := same_iff_finite_eq.2
    ((same_iff_finite_eq.1 hfirst).trans (same_iff_finite_eq.1 hsecond))

/-! ### Entries under exact names -/

/-- The names of entries in small letters. -/
def smallNames (entries : List (String × String)) : List String :=
  entries.map fun entry => lowercase entry.1

/-- Going through entries gives the same result in whatever order they come. -/
theorem fitsEntries_iff {seen : List String} {entries : List (String × String)} :
    headers.fitsEntries seen entries = true ↔
      (smallNames entries).Nodup ∧ List.Disjoint seen (smallNames entries) ∧
        ∀ entry ∈ entries, headers.get? entry.1 = some entry.2 := by
  induction entries generalizing seen with
  | nil => simp [fitsEntries, smallNames]
  | cons entry rest ih =>
    have hnames : smallNames (entry :: rest) = lowercase entry.1 :: smallNames rest := rfl
    have hseen : seen.contains (lowercase entry.1) = false ↔ lowercase entry.1 ∉ seen := by simp
    rw [fitsEntries, Bool.and_eq_true, Bool.and_eq_true, Bool.not_eq_true', hseen, beq_iff_eq, ih,
      hnames, List.forall_mem_cons, List.nodup_cons, List.disjoint_cons_left,
      List.disjoint_cons_right]
    tauto

/-- Entries whose names differ in more than case are headers as they stand. -/
theorem sameAsEntries_eq {entries : Dict String} (hnames : (smallNames entries.items).Nodup) :
    headers.sameAsEntries entries = (ofPairs entries.items).same headers := by
  have hitems : (ofPairs entries.items).items = entries.items := Keyed.items_ofList hnames
  rw [Bool.eq_iff_iff, sameAsEntries, same, hitems, Bool.and_eq_true, Bool.and_eq_true, beq_iff_eq,
    beq_iff_eq, fitsEntries_iff, List.all_eq_true, Keyed.size, Keyed.size, Keyed.size, hitems]
  simp only [beq_iff_eq, hnames, List.disjoint_nil_left, true_and]
  exact and_congr_left' eq_comm

theorem smallNames_nodup_iff {entries : Dict String} :
    (smallNames entries.items).Nodup ↔
      ∀ name ∈ entries.keys, ∀ other ∈ entries.keys, lowercase name = lowercase other →
        name = other := by
  have hnames : smallNames entries.items = entries.keys.map lowercase := by
    rw [smallNames, Keyed.keys, List.map_map]
    rfl
  have hdistinct : entries.keys.Nodup := entries.distinct
  rw [hnames, List.nodup_map_iff_inj_on hdistinct]

/-- **All ways to compare headers agree.** Comparing headers with headers is an equivalence, and finds
them the same exactly if the finite maps from names in small letters to values are equal. Comparing them
with entries under exact names finds these the same exactly if no two of the names differ in case alone
and the headers are the same as those collected from the entries, in whatever order the entries are
gone through and collected. -/
theorem comparisons_agree :
    Equivalence (fun a b : HeaderMap => a.same b = true) ∧
      (∀ a b : HeaderMap, a.same b = true ↔ a.finite = b.finite) ∧
      ∀ (headers : HeaderMap) (entries collected : Dict String),
        entries.items.Perm collected.items →
          (headers.sameAsEntries entries = true ↔
            (∀ name ∈ entries.keys, ∀ other ∈ entries.keys, lowercase name = lowercase other →
                name = other) ∧
              headers.same (ofPairs collected.items) = true) := by
  refine ⟨equivalence_same, fun a b => same_iff_finite_eq, fun headers entries collected hperm => ?_⟩
  rw [← smallNames_nodup_iff]
  by_cases hnames : (smallNames entries.items).Nodup
  · have hcollected : (smallNames collected.items).Nodup := (hperm.map _).nodup_iff.1 hnames
    have hitems : (ofPairs entries.items).items.Perm (ofPairs collected.items).items := by
      rwa [ofPairs, ofPairs, Keyed.items_ofList hnames, Keyed.items_ofList hcollected]
    rw [and_iff_right hnames, sameAsEntries_eq hnames, same_congr hitems (List.Perm.refl _)]
    exact ⟨equivalence_same.symm, equivalence_same.symm⟩
  · rw [iff_false_right fun hboth => hnames hboth.1, sameAsEntries, Bool.and_eq_true, fitsEntries_iff]
    exact fun hboth => hnames hboth.2.1

/-- Headers, and entries in two orders, with other letters in capitals than the headers. -/
def acceptHeaders : HeaderMap := ofPairs [("Accept", "text/plain"), ("X-Token", "abc")]

def acceptEntries : Dict String :=
  Keyed.ofList _ [("ACCEPT", "text/plain"), ("x-token", "abc")]

def tokenEntries : Dict String :=
  Keyed.ofList _ [("x-token", "abc"), ("ACCEPT", "text/plain")]

theorem same_acceptEntries :
    acceptEntries.items.Perm tokenEntries.items ∧
      acceptHeaders.sameAsEntries acceptEntries = true ∧
      acceptHeaders.same (ofPairs tokenEntries.items) = true := by
  have hperm : acceptEntries.items.Perm tokenEntries.items := by decide
  have hfits : acceptHeaders.sameAsEntries acceptEntries = true := by decide
  obtain ⟨-, -, hentries⟩ := comparisons_agree
  exact ⟨hperm, hfits, ((hentries acceptHeaders acceptEntries tokenEntries hperm).1 hfits).2⟩

end HeaderMap

end ApiManual
