import ApiManual.BasePath
import ApiManual.Proofs.Text.Marker

/-!
# Paths relative to a base

The base is taken off the front of a path and one slash off its end. What is left after a base starts
with a slash or is empty, because a base ends where a segment ends. A slash at the end of a path makes
no difference unless the base ends in one: else the slash that is added could complete the base.
-/

namespace ApiManual

namespace BasePath

open Text

variable {base path rest : List Char}

/-- Empty, or with a slash at its start. -/
def Rooted (path : List Char) : Prop :=
  path = [] ∨ path.head? = some '/'

instance (path : List Char) : Decidable (Rooted path) := inferInstanceAs (Decidable (_ ∨ _))

/-- The path starts with the segments of the base. -/
def Below (base path : List Char) : Prop :=
  ∃ rest, Rooted rest ∧ path = base ++ rest

theorem Rooted.append_slash (hrooted : Rooted path) : Rooted (path ++ ['/']) := by
  rcases hrooted with rfl | hhead
  · exact Or.inr rfl
  · exact Or.inr (by rw [List.head?_append, hhead, Option.some_or])

theorem withoutBase_append (base : String) (hrooted : Rooted rest) :
    withoutBase (some base) (base.toList ++ rest) = rest := by
  have hstrip : stripStart? base.toList (base.toList ++ rest) = some rest :=
    stripStart?_eq_some_iff.2 rfl
  rw [withoutBase, Option.bind_some, hstrip]
  refine if_pos ?_
  rcases hrooted with rfl | hhead
  · rfl
  · rw [hhead, beq_self_eq_true, Bool.or_true]

theorem withoutBase_of_not_below {base : String} (hbelow : ¬ Below base.toList path) :
    withoutBase (some base) path = path := by
  unfold withoutBase
  split
  · next rest hstrip =>
    have hpath : path = base.toList ++ rest := stripStart?_eq_some hstrip
    refine if_neg fun hrooted => hbelow ⟨rest, ?_, hpath⟩
    simpa [Rooted] using hrooted
  · rfl

/-- A slash at the end does not put a path below a base, unless the base ends in it. -/
theorem below_append_slash_iff (hbase : base.getLast? ≠ some '/') :
    Below base (path ++ ['/']) ↔ Below base path := by
  constructor
  · rintro ⟨rest, hrooted, heq⟩
    rcases List.eq_nil_or_concat' rest with rfl | ⟨front, last, rfl⟩
    · rw [List.append_nil] at heq
      exact absurd (heq ▸ List.getLast?_concat) hbase
    · rw [← List.append_assoc] at heq
      obtain ⟨hpath, -⟩ := List.append_inj' heq rfl
      refine ⟨front, ?_, hpath⟩
      cases front with
      | nil => exact Or.inl rfl
      | cons c front => exact Or.inr (by simpa [Rooted] using hrooted)
  · rintro ⟨rest, hrooted, rfl⟩
    exact ⟨rest ++ ['/'], hrooted.append_slash, List.append_assoc ..⟩

theorem normalized_append_slash (hpath : path.getLast? ≠ some '/') :
    normalized (path ++ ['/']) = normalized path := by
  cases path with
  | nil => rfl
  | cons c path =>
    have hshort : c :: path ≠ ['/'] := by
      intro heq
      exact hpath (heq ▸ rfl)
    rw [normalized, normalized, if_neg (by simp), if_neg (by simpa using hshort),
      stripEnd, stripEnd, if_pos List.getLast?_concat, if_neg hpath, List.dropLast_concat]

variable {root : Option String}

theorem withoutBase_append_slash (hroot : ∀ base ∈ root, base.toList.getLast? ≠ some '/')
    (path : List Char) : withoutBase root (path ++ ['/']) = withoutBase root path ++ ['/'] := by
  cases root with
  | none => rfl
  | some base =>
    have hiff : Below base.toList (path ++ ['/']) ↔ Below base.toList path :=
      below_append_slash_iff (hroot base rfl)
    by_cases hbelow : Below base.toList path
    · obtain ⟨rest, hrooted, rfl⟩ := hbelow
      rw [List.append_assoc, withoutBase_append base hrooted.append_slash,
        withoutBase_append base hrooted]
    · rw [withoutBase_of_not_below hbelow, withoutBase_of_not_below (mt hiff.1 hbelow)]

theorem getLast?_withoutBase (hpath : path.getLast? ≠ some '/') :
    (withoutBase root path).getLast? ≠ some '/' := by
  unfold withoutBase
  split
  · next rest hstrip =>
    obtain ⟨base, -, hrest⟩ := Option.bind_eq_some_iff.1 hstrip
    rw [stripStart?_eq_some hrest, List.getLast?_append] at hpath
    split
    · intro hlast
      exact hpath (by rw [hlast, Option.some_or])
    · rwa [stripStart?_eq_some hrest, List.getLast?_append]
  · exact hpath

theorem relative_append_slash (hroot : ∀ base ∈ root, base.toList.getLast? ≠ some '/')
    {path : String} (hpath : path.toList.getLast? ≠ some '/') :
    relative root (path ++ "/") = relative root path := by
  have hslash : (path ++ "/").toList = path.toList ++ ['/'] := String.toList_append
  rw [relative, relative, hslash, withoutBase_append_slash hroot,
    normalized_append_slash (getLast?_withoutBase hpath)]

theorem relative_append {base path : String} (hrooted : Rooted path.toList)
    (hbelow : ¬ Below base.toList path.toList) :
    relative (some base) (base ++ path) = relative (some base) path := by
  rw [relative, relative, String.toList_append, withoutBase_append base hrooted,
    withoutBase_of_not_below hbelow]

end BasePath

end ApiManual
