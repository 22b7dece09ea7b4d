import ApiManual.Annotation.Tokens
import ApiManual.Proofs.Text.Marker
import ApiManual.Proofs.Text.Words
import Mathlib.Data.Bool.AllAny
import Mathlib.Data.List.Chain
import Mathlib.Data.List.TakeWhile

/-!
# Where tokens are found

Each search goes through a line from left to right and takes the first match. A part of the line in
which there can be no match is gone past, and then the search goes on as if the line began behind it,
with all offsets moved by the length of that part. Names are searched for one after the other, so a
part of the line in which there are matches is gone past together with them, if no match leads out of
it.
-/

namespace ApiManual

open Text

theorem present?_of_plain {text : List Char} (hsome : text ≠ [])
    (hplain : ∀ c ∈ text, isBlank c = false) : present? text = some (String.ofList text) := by
  have hnot : text.isEmpty = false := by simpa using hsome
  simp [present?, content?, trim_eq_self hplain, hnot]

theorem present?_append_of_blank {blanks : List Char} (hblanks : ∀ c ∈ blanks, isBlank c = true)
    (rest : List Char) : present? (blanks ++ rest) = present? rest := by
  rw [present?, content?, trim, trimStart_append_of_blank (List.all_eq_true.2 hblanks), present?,
    content?, trim]

namespace Span

/-- The span in a line that has so many more characters before it. -/
def moved (distance : Nat) (span : Span) : Span :=
  { span with start := distance + span.start, stop := distance + span.stop }

/-! ### Brackets -/

section Brackets

variable {opening closing : Char} {before inner : List Char}

/-- What has no opening bracket is gone past. -/
theorem bracketed?_append (hnot : opening ∉ before) (rest : List Char) :
    bracketed? opening closing (before ++ rest) =
      (bracketed? opening closing rest).map (moved before.length) := by
  unfold bracketed?
  rw [cut_append hnot]
  rcases cut opening rest with ⟨front, _ | inside⟩
  · rfl
  · dsimp only
    rcases cut closing inside with ⟨inner, _ | after⟩
    · rfl
    · simp only [Option.map_some, moved, List.length_append, Nat.add_assoc]

theorem bracketed?_cons (hinner : closing ∉ inner) (rest : List Char) :
    bracketed? opening closing (opening :: (inner ++ closing :: rest)) =
      some ⟨0, inner.length + 2, inner⟩ := by
  unfold bracketed?
  rw [cut, if_pos rfl]
  dsimp only
  rw [cut_append_cons hinner]
  simp

/-- The first opening bracket and the first closing bracket behind it belong together. -/
theorem bracketed?_enclosed (hbefore : opening ∉ before) (hinner : closing ∉ inner)
    (rest : List Char) :
    bracketed? opening closing (before ++ opening :: (inner ++ closing :: rest)) =
      some ⟨before.length, before.length + (inner.length + 2), inner⟩ := by
  rw [bracketed?_append hbefore, bracketed?_cons hinner]
  rfl

theorem start_lt_stop {line : List Char} {span : Span}
    (hfound : bracketed? opening closing line = some span) : span.start < span.stop := by
  unfold bracketed? at hfound
  split at hfound
  · split at hfound
    · cases hfound
      dsimp only
      omega
    · cases hfound
  · cases hfound

theorem length_le_start {rest : List Char} {span : Span} (hbefore : opening ∉ before)
    (hfound : bracketed? opening closing (before ++ rest) = some span) :
    before.length ≤ span.start := by
  rw [bracketed?_append hbefore] at hfound
  obtain ⟨found, -, rfl⟩ := Option.map_eq_some_iff.1 hfound
  exact Nat.le_add_right ..

end Brackets

/-! ### Paths -/

/-- No blank is directly followed by a slash. -/
def StartsNoPath (text : List Char) : Prop :=
  text.IsChain fun c next => isBlank c = true → next ≠ '/'

instance (text : List Char) : Decidable (StartsNoPath text) :=
  inferInstanceAs (Decidable (List.IsChain _ text))

theorem not_isPathChar_of_isBlank {c : Char} (hc : isBlank c = true) : isPathChar c = false := by
  have hapart : ∀ blank ∈ blankRanges, ∀ word ∈ wordRanges, blank.2 < word.1 ∨ word.2 < blank.1 := by
    decide +kernel
  have hword : wordRanges.has c = false := by
    rw [Bool.eq_false_iff]
    intro hword
    obtain ⟨blank, hblank, hlow, hhigh⟩ := Ranges.has_iff.1 hc
    obtain ⟨word, hmem, hfirst, hlast⟩ := Ranges.has_iff.1 hword
    have := hapart blank hblank word hmem
    omega
  have hmarks : ∀ mark ∈ ['-', '.', '~', ':', '{', '}', '/', '%'], c ≠ mark := by
    have hplain : ∀ mark ∈ ['-', '.', '~', ':', '{', '}', '/', '%'], isBlank mark = false :=
      List.all_iff_forall_prop.1 (by decide)
    rintro mark hmark rfl
    exact absurd hc (by simp [hplain c hmark])
  simp only [List.forall_mem_cons] at hmarks
  simp [isPathChar, hword, hmarks]

theorem takeWhile_isPathChar_append {path rest : List Char}
    (hpath : ∀ c ∈ path, isPathChar c = true) (hrest : EndsWord rest) :
    (path ++ rest).takeWhile isPathChar = path := by
  rw [List.takeWhile_append_of_pos hpath]
  cases rest with
  | nil => simp
  | cons c rest => simp [not_isPathChar_of_isBlank (hrest c rfl)]

theorem pathFrom?_cons_of_not_path {c next : Char} (hquiet : isBlank c = true → next ≠ '/')
    (offset : Nat) (rest : List Char) :
    pathFrom? offset (c :: next :: rest) = pathFrom? (offset + 1) (next :: rest) := by
  by_cases hnext : next = '/'
  · subst hnext
    rw [pathFrom?, if_neg fun hc => hquiet hc rfl]
  · rw [pathFrom?]
    rintro rest' ⟨rfl, -⟩
    exact hnext rfl

/-- What has no blank before a slash is gone past. -/
theorem pathFrom?_append (before : List Char) (next : Char) (rest : List Char) (offset : Nat)
    (hquiet : StartsNoPath (before ++ [next])) :
    pathFrom? offset (before ++ next :: rest) =
      pathFrom? (offset + before.length) (next :: rest) := by
  induction before generalizing offset with
  | nil => rfl
  | cons c before ih =>
    have htail : StartsNoPath (before ++ [next]) := hquiet.tail
    have hskip : pathFrom? offset (c :: (before ++ next :: rest)) =
        pathFrom? (offset + 1) (before ++ next :: rest) := by
      cases before with
      | nil => exact pathFrom?_cons_of_not_path hquiet.rel offset rest
      | cons d before => exact pathFrom?_cons_of_not_path hquiet.rel offset _
    rw [List.cons_append, hskip, ih (offset + 1) htail, List.length_cons, Nat.add_assoc,
      Nat.add_comm 1]

/-- The first slash behind a blank starts the path, which goes on as far as path characters do. -/
theorem path?_append {before path rest : List Char} {blank : Char}
    (hquiet : StartsNoPath (before ++ [blank])) (hblank : isBlank blank = true)
    (hpath : ∀ c ∈ path, isPathChar c = true) (hrest : EndsWord rest) :
    path? (before ++ blank :: '/' :: (path ++ rest)) =
      some ⟨before.length + 1, before.length + 1 + (path.length + 1), '/' :: path⟩ := by
  rw [path?, pathFrom?_append before blank _ 0 hquiet, Nat.zero_add, pathFrom?, if_pos hblank,
    takeWhile_isPathChar_append hpath hrest]
  rfl

/-- A path that is found is a slash and characters behind it, in their place. -/
theorem exists_append_of_pathFrom? {offset : Nat} {text : List Char} {span : Span}
    (hfound : pathFrom? offset text = some span) :
    ∃ before path rest, text = before ++ '/' :: (path ++ rest) ∧
      span = ⟨offset + before.length, offset + before.length + (path.length + 1), '/' :: path⟩ := by
  fun_induction pathFrom? offset text with
  | case1 offset c rest _ path =>
    cases hfound
    refine ⟨[c], rest.takeWhile isPathChar, rest.dropWhile isPathChar, ?_, rfl⟩
    rw [List.takeWhile_append_dropWhile]
    rfl
  | case2 offset c rest _ ih =>
    obtain ⟨before, path, after, heq, rfl⟩ := ih hfound
    refine ⟨c :: before, path, after, by rw [heq, List.cons_append], ?_⟩
    simp only [List.length_cons, Nat.add_assoc, Nat.add_comm 1]
  | case3 offset c rest _ ih =>
    obtain ⟨before, path, after, rfl, rfl⟩ := ih hfound
    refine ⟨c :: before, path, after, rfl, ?_⟩
    simp only [List.length_cons, Nat.add_assoc, Nat.add_comm 1]
  | case4 => cases hfound

/-! ### Names -/

section Names

variable {c : Char} {text rest name : List Char}

theorem leadingName?_of_head_ne (hhead : text.head? ≠ some '[') :
    leadingName? text =
      if (text.takeWhile isNameChar).isEmpty then none else some (text.takeWhile isNameChar) := by
  unfold leadingName?
  split
  · exact absurd rfl hhead
  · rfl

/-- No name starts with a blank, with a closing bracket, or with a curly bracket or parenthesis. -/
theorem leadingName?_cons_eq_none (hc : isNameChar c = false) (hopening : c ≠ '[')
    (rest : List Char) : leadingName? (c :: rest) = none := by
  rw [leadingName?_of_head_ne (by simpa using hopening), List.takeWhile_cons, hc]
  rfl

theorem isNameChar_eq_false_of_isBlank (hc : isBlank c = true) : isNameChar c = false := by
  simp [isNameChar, hc]

theorem leadingName?_eq_none_of_endsWord (hrest : EndsWord rest) : leadingName? rest = none := by
  cases rest with
  | nil => rfl
  | cons c rest =>
    have hc : isBlank c = true := hrest c rfl
    refine leadingName?_cons_eq_none (isNameChar_eq_false_of_isBlank hc) ?_ rest
    rintro rfl
    cases hc

/-- A name in square brackets ends with the first closing one. -/
theorem leadingName?_enclosed (hname : ∀ c ∈ name, c ≠ ']' ∧ c ≠ '\n') (rest : List Char) :
    leadingName? ('[' :: (name ++ ']' :: rest)) = some ('[' :: (name ++ [']'])) := by
  have hrun : (name ++ ']' :: rest).takeWhile (fun c => c ≠ ']' && c ≠ '\n') = name := by
    rw [List.takeWhile_append_of_pos (by simpa using hname)]
    simp
  unfold leadingName?
  simp only [hrun, List.drop_left, List.cons_append]

/-- A name without brackets goes on to the next blank. -/
theorem leadingName?_append (hsome : name ≠ []) (hname : ∀ c ∈ name, isNameChar c = true)
    (hrest : EndsWord rest) : leadingName? (name ++ rest) = some name := by
  obtain ⟨c, more, rfl⟩ := List.exists_cons_of_ne_nil hsome
  have hhead : (c :: more ++ rest).head? ≠ some '[' := by
    intro hhead
    cases hhead
    exact absurd (hname '[' List.mem_cons_self) (by decide)
  have hrun : (c :: more ++ rest).takeWhile isNameChar = c :: more := by
    rw [List.takeWhile_append_of_pos hname]
    cases rest with
    | nil => simp
    | cons d rest => simp [isNameChar_eq_false_of_isBlank (hrest d rfl)]
  rw [leadingName?_of_head_ne hhead, hrun]
  rfl

theorem exists_append_of_leadingName? (hname : leadingName? text = some name) :
    ∃ after, text = name ++ after := by
  unfold leadingName? at hname
  split at hname
  · next rest =>
    dsimp only at hname
    split at hname
    · next after hafter =>
      cases hname
      refine ⟨after, ?_⟩
      have hrest := List.prefix_iff_eq_append.1
        (List.takeWhile_prefix (fun c => c ≠ ']' && c ≠ '\n') (l := rest))
      rw [hafter] at hrest
      simpa using hrest.symm
    · cases hname
  · dsimp only at hname
    split at hname
    · cases hname
    · cases hname
      exact ⟨_, (List.takeWhile_append_dropWhile ..).symm⟩

theorem namesFrom_cons_of_not_blank (hc : isBlank c = false) (offset : Nat) (rest : List Char) :
    namesFrom offset (c :: rest) = namesFrom (offset + 1) rest := by
  rw [namesFrom, hc]

theorem namesFrom_cons_of_no_name (hnone : leadingName? rest = none) (c : Char) (offset : Nat) :
    namesFrom offset (c :: rest) = namesFrom (offset + 1) rest := by
  rw [namesFrom, hnone]
  cases isBlank c <;> rfl

theorem namesFrom_cons_of_name (hc : isBlank c = true) (hname : leadingName? rest = some name)
    (offset : Nat) :
    namesFrom offset (c :: rest) =
      ⟨offset + 1, offset + 1 + name.length, name⟩ ::
        namesFrom (offset + 1 + name.length) (rest.drop name.length) := by
  rw [namesFrom, hc, hname]

/-- A word is gone past: its own blank is not there. -/
theorem namesFrom_word_append (hword : ∀ c ∈ text, isBlank c = false) (offset : Nat)
    (rest : List Char) :
    namesFrom offset (text ++ rest) = namesFrom (offset + text.length) rest := by
  induction text generalizing offset with
  | nil => rfl
  | cons c text ih =>
    obtain ⟨hc, hword⟩ := List.forall_mem_cons.1 hword
    rw [List.cons_append, namesFrom_cons_of_not_blank hc, ih hword, List.length_cons]
    congr 1
    omega

/-- Blanks are gone past if no name follows them. -/
theorem namesFrom_blanks_append (hblank : ∀ c ∈ text, isBlank c = true)
    (hnone : leadingName? rest = none) (offset : Nat) :
    namesFrom offset (text ++ rest) = namesFrom (offset + text.length) rest := by
  induction text generalizing offset with
  | nil => rfl
  | cons c text ih =>
    obtain ⟨-, hblank⟩ := List.forall_mem_cons.1 hblank
    have hnext : leadingName? (text ++ rest) = none := by
      cases text with
      | nil => exact hnone
      | cons d text =>
        refine leadingName?_eq_none_of_endsWord fun e he => ?_
        cases he
        exact hblank d List.mem_cons_self
    rw [List.cons_append, namesFrom_cons_of_no_name hnext, ih hblank, List.length_cons]
    congr 1
    omega

/-- The name that follows blanks is found at its place. -/
theorem namesFrom_blanks_name (hsome : text ≠ []) (hblank : ∀ c ∈ text, isBlank c = true)
    (hname : leadingName? (name ++ rest) = some name) (offset : Nat) :
    namesFrom offset (text ++ (name ++ rest)) =
      ⟨offset + text.length, offset + text.length + name.length, name⟩ ::
        namesFrom (offset + text.length + name.length) rest := by
  obtain ⟨front, last, rfl⟩ := List.eq_nil_or_concat' text |>.resolve_left hsome
  have hlast : isBlank last = true := hblank last (by simp)
  have hnone : leadingName? (last :: (name ++ rest)) = none := by
    refine leadingName?_eq_none_of_endsWord fun c hc => ?_
    cases hc
    exact hlast
  rw [List.append_assoc, List.singleton_append,
    namesFrom_blanks_append (fun c hc => hblank c (List.mem_append_left _ hc)) hnone,
    namesFrom_cons_of_name hlast hname, List.drop_left, List.length_append, List.length_singleton,
    Nat.add_assoc offset]

/-- A name ends where a character that is none of a name stands. -/
theorem prefix_of_leadingName? (hclosing : isNameChar c = false) (hc : c ≠ '[')
    (hplain : '[' ∉ text) (hname : leadingName? (text ++ c :: rest) = some name) :
    name <+: text := by
  have hhead : (text ++ c :: rest).head? ≠ some '[' := by
    cases text with
    | nil => simpa using hc
    | cons d text => simpa using Ne.symm (List.ne_of_not_mem_cons hplain)
  have hrun : (text ++ c :: rest).takeWhile isNameChar = text.takeWhile isNameChar := by
    rw [List.takeWhile_append, List.takeWhile_cons, hclosing]
    split
    · next hall => rw [List.takeWhile_prefix isNameChar |>.eq_of_length hall]; simp
    · rfl
  rw [leadingName?_of_head_ne hhead, hrun] at hname
  split at hname
  · cases hname
  · obtain rfl := Option.some.inj hname
    exact List.takeWhile_prefix isNameChar

/-- A text in brackets is gone past together with what is found in it. The closing bracket ends every
name, so none leads out of the brackets. -/
theorem namesFrom_enclosed (hclosing : isNameChar c = false) (hblank : isBlank c = false)
    (hopening : c ≠ '[') (hplain : '[' ∉ text) (offset : Nat) (rest : List Char) :
    ∃ inside, (∀ span ∈ inside, offset ≤ span.start ∧ span.start ≤ offset + text.length) ∧
      namesFrom offset (text ++ c :: rest) = inside ++ namesFrom (offset + text.length + 1) rest := by
  -- A name that is found takes several characters at once, so the induction is on the length.
  induction hlength : text.length using Nat.strong_induction_on generalizing text offset with
  | _ length ih =>
    cases text with
    | nil =>
      subst hlength
      exact ⟨[], by simp, namesFrom_cons_of_not_blank hblank offset rest⟩
    | cons d text =>
      rw [List.mem_cons, not_or] at hplain
      rw [List.length_cons] at hlength
      by_cases hname : isBlank d = true ∧ ∃ name, leadingName? (text ++ c :: rest) = some name
      · obtain ⟨hd, name, hname⟩ := hname
        obtain ⟨more, rfl⟩ := prefix_of_leadingName? hclosing hopening hplain.2 hname
        rw [List.append_assoc] at hname
        obtain ⟨inside, hinside, hnames⟩ := ih more.length (by simp at hlength; omega)
          (fun hmem => hplain.2 (List.mem_append_right _ hmem)) (offset + 1 + name.length) rfl
        refine ⟨⟨offset + 1, offset + 1 + name.length, name⟩ :: inside, ?_, ?_⟩
        · rw [List.forall_mem_cons]
          rw [List.length_append] at hlength
          refine ⟨⟨by simp, by simp; omega⟩, fun span hspan => ?_⟩
          have hbounds := hinside span hspan
          omega
        · rw [List.cons_append, List.append_assoc, namesFrom_cons_of_name hd hname, List.drop_left,
            hnames, List.cons_append]
          rw [List.length_append] at hlength
          congr 3
          omega
      · have hskip : namesFrom offset (d :: (text ++ c :: rest)) =
            namesFrom (offset + 1) (text ++ c :: rest) := by
          cases hd : isBlank d with
          | false => exact namesFrom_cons_of_not_blank hd offset _
          | true =>
            refine namesFrom_cons_of_no_name (Option.eq_none_iff_forall_ne_some.2 ?_) d offset
            exact fun name hfound => hname ⟨hd, name, hfound⟩
        obtain ⟨inside, hinside, hnames⟩ := ih text.length (by omega) hplain.2 (offset + 1) rfl
        refine ⟨inside, fun span hspan => ?_, ?_⟩
        · have hbounds := hinside span hspan
          omega
        · rw [List.cons_append, hskip, hnames]
          congr 2
          omega

end Names

end Span

end ApiManual
