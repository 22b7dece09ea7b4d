import ApiManual.Annotation.Tag
import ApiManual.Proofs.Annotation.TokenSearch

/-!
# Lines of parameter tags

A line is written from a type and a group in brackets, which may be left out and come in either order,
a name with or without a default, and a description. Three searches go over it on their own, one for
braces, one for parentheses and one for names, and each may land in a part that belongs to another: the
words of a type look like names, a default or a description may hold brackets. What brings the parts
together again are the places. Names inside the brackets before the name are passed over, because the
brackets cover them, and brackets that are found behind the start of the name do not count.
-/

namespace ApiManual

open Text ApiManual.Span

def bracketChars : List Char := ['{', '}', '(', ')', '[', ']']

/-- What a bracket before the name holds. -/
inductive BracketKind where
  | type
  | group
deriving DecidableEq, Repr

namespace BracketKind

def opening : BracketKind → Char
  | .type => '{'
  | .group => '('

def closing : BracketKind → Char
  | .type => '}'
  | .group => ')'

theorem opening_mem (kind : BracketKind) : kind.opening ∈ bracketChars := by
  cases kind <;> decide

theorem closing_mem (kind : BracketKind) : kind.closing ∈ bracketChars := by
  cases kind <;> decide

theorem opening_ne_closing (kind other : BracketKind) : kind.opening ≠ other.closing := by
  cases kind <;> cases other <;> decide

theorem opening_injective {kind other : BracketKind} (heq : kind.opening = other.opening) :
    kind = other := by
  revert heq
  cases kind <;> cases other <;> decide

end BracketKind

theorem isBlank_eq_false_of_mem_bracketChars {c : Char} (hc : c ∈ bracketChars) :
    isBlank c = false := by
  have hall : ∀ bracket ∈ bracketChars, isBlank bracket = false :=
    List.all_iff_forall_prop.1 (by decide)
  exact hall c hc

theorem isNameChar_eq_false_of_mem_bracketChars {c : Char} (hc : c ∈ bracketChars) :
    isNameChar c = false := by
  have hall : ∀ bracket ∈ bracketChars, isNameChar bracket = false :=
    List.all_iff_forall_prop.1 (by decide)
  exact hall c hc

theorem BracketKind.opening_not_mem_of_blank {blanks : List Char}
    (hblanks : ∀ c ∈ blanks, isBlank c = true) (kind : BracketKind) : kind.opening ∉ blanks := by
  intro hmem
  have hblank := hblanks _ hmem
  rw [isBlank_eq_false_of_mem_bracketChars kind.opening_mem] at hblank
  cases hblank

/-- A name is made of characters that are neither blank nor brackets. -/
theorem isNameChar_of_plain {c : Char} (hblank : isBlank c = false) (hc : c ∉ bracketChars) :
    isNameChar c = true := by
  simp only [bracketChars, List.mem_cons, not_or] at hc
  simp [isNameChar, hblank, hc]

/-- A type or a group in its brackets, with the blanks before it. -/
structure Bracketed where
  kind : BracketKind
  gap : List Char
  inner : List Char
  gap_blank : ∀ c ∈ gap, isBlank c = true
  inner_plain : ∀ c ∈ inner, c ∉ bracketChars

namespace Bracketed

def text (bracketed : Bracketed) : List Char :=
  bracketed.gap ++ bracketed.kind.opening :: (bracketed.inner ++ [bracketed.kind.closing])

/-- Brackets of one kind are none of the other. -/
theorem opening_not_mem_text {kind : BracketKind} {bracketed : Bracketed}
    (hkind : bracketed.kind ≠ kind) : kind.opening ∉ bracketed.text := by
  simp only [text, List.mem_append, List.mem_cons, List.not_mem_nil, or_false, not_or]
  refine ⟨kind.opening_not_mem_of_blank bracketed.gap_blank, ?_, ?_, kind.opening_ne_closing _⟩
  · exact fun heq => hkind (BracketKind.opening_injective heq.symm)
  · exact fun hmem => bracketed.inner_plain _ hmem kind.opening_mem

theorem opening_not_mem_flatMap {kind : BracketKind} {front : List Bracketed}
    (hkinds : ∀ bracketed ∈ front, bracketed.kind ≠ kind) : kind.opening ∉ front.flatMap text := by
  rw [List.mem_flatMap]
  rintro ⟨bracketed, hmem, hopening⟩
  exact opening_not_mem_text (hkinds bracketed hmem) hopening

/-- Of what is found in brackets all lies in one of them. -/
theorem namesFrom_front (front : List Bracketed) (offset : Nat) (rest : List Char) :
    ∃ inside,
      (∀ span ∈ inside, ∃ before bracketed after, front = before ++ bracketed :: after ∧
        offset + (before.flatMap text).length + bracketed.gap.length ≤ span.start ∧
        span.start < offset + (before.flatMap text).length + bracketed.text.length) ∧
      namesFrom offset (front.flatMap text ++ rest) =
        inside ++ namesFrom (offset + (front.flatMap text).length) rest := by
  induction front generalizing offset with
  | nil => exact ⟨[], by simp, rfl⟩
  | cons first front ih =>
    have hopening := first.kind.opening_mem
    have hclosing := first.kind.closing_mem
    have hplain : '[' ∉ first.inner := fun hmem => first.inner_plain _ hmem (by decide)
    obtain ⟨own, hown, hfirst⟩ := namesFrom_enclosed
      (isNameChar_eq_false_of_mem_bracketChars hclosing)
      (isBlank_eq_false_of_mem_bracketChars hclosing) (by cases first.kind <;> decide) hplain
      (offset + first.gap.length + 1) (front.flatMap text ++ rest)
    obtain ⟨others, hothers, hrest⟩ := ih (offset + first.text.length)
    have hlength : first.text.length = first.gap.length + (first.inner.length + 2) := by
      simp [text]
    refine ⟨own ++ others, fun span hspan => ?_, ?_⟩
    · rcases List.mem_append.1 hspan with hspan | hspan
      · obtain ⟨hlow, hhigh⟩ := hown span hspan
        refine ⟨[], first, front, rfl, ?_, ?_⟩
        · simp
          omega
        · simp
          omega
      · obtain ⟨before, bracketed, after, rfl, hlow, hhigh⟩ := hothers span hspan
        refine ⟨first :: before, bracketed, after, rfl, ?_, ?_⟩
        · rw [List.flatMap_cons, List.length_append]
          omega
        · rw [List.flatMap_cons, List.length_append]
          omega
    · have hnone : leadingName? (first.kind.opening ::
          (first.inner ++ first.kind.closing :: (front.flatMap text ++ rest))) = none :=
        leadingName?_cons_eq_none (isNameChar_eq_false_of_mem_bracketChars hopening)
          (by cases first.kind <;> decide) _
      have hsplit : (first :: front).flatMap text ++ rest = first.gap ++ first.kind.opening ::
          (first.inner ++ first.kind.closing :: (front.flatMap text ++ rest)) := by
        simp [text]
      rw [hsplit, namesFrom_blanks_append first.gap_blank hnone,
        namesFrom_cons_of_not_blank (isBlank_eq_false_of_mem_bracketChars hopening), hfirst,
        List.append_assoc, List.flatMap_cons, List.length_append, ← Nat.add_assoc, ← hrest]
      congr 2
      omega

end Bracketed

/-- What the line of a parameter tag is written from. The brackets before the name come in any order, at
most one of each kind. `space` stands between the name and the description. -/
structure ParamLine where
  tag : String
  carrier : Carrier
  front : List Bracketed
  gap : List Char
  name : List Char
  optional : Bool
  default : Option (List Char)
  space : List Char
  description : List Char
  tag_names : Tag.ofName? tag = some (.param carrier)
  front_distinct : (front.map (·.kind)).Nodup
  gap_some : gap ≠ []
  gap_blank : ∀ c ∈ gap, isBlank c = true
  name_some : name ≠ []
  name_plain : ∀ c ∈ name, isBlank c = false ∧ c ≠ '=' ∧ c ∉ bracketChars
  default_closed : optional = true → ∀ value ∈ default, ']' ∉ value ∧ '\n' ∉ value
  default_plain : optional = false → ∀ value ∈ default, ∀ c ∈ value,
    isBlank c = false ∧ c ∉ bracketChars
  space_blank : ∀ c ∈ space, isBlank c = true
  space_some : space ≠ [] ∨ description = []

namespace ParamLine

variable {line : ParamLine}

/-- The name with its default. -/
def content (line : ParamLine) : List Char :=
  match line.default with
  | some value => line.name ++ '=' :: value
  | none => line.name

/-- The name as it is written, in square brackets when it is optional. -/
def token (line : ParamLine) : List Char :=
  if line.optional then '[' :: (line.content ++ [']']) else line.content

/-- What stands before the name. -/
def heading (line : ParamLine) : List Char :=
  line.tag.toList ++ (line.front.flatMap Bracketed.text ++ line.gap)

def text (line : ParamLine) : List Char :=
  line.heading ++ (line.token ++ (line.space ++ line.description))

/-- The text in the brackets of a kind, if the line has them. -/
def inner? (line : ParamLine) (kind : BracketKind) : Option (List Char) :=
  (line.front.find? (·.kind = kind)).map (·.inner)

/-- What was written: type, group and description trimmed, if they are more than blanks, and the default
trimmed, without the quotes around it, and trimmed again. -/
def tokens (line : ParamLine) : ParamTokens where
  typeName := (line.inner? .type).bind present?
  group := (line.inner? .group).bind present?
  name := some (String.ofList line.name)
  optional := line.optional
  default := line.default.bind fun value => present? (ParamTokens.trimQuotes (trim value))
  description := present? line.description

theorem tag_plain (line : ParamLine) :
    ∀ c ∈ line.tag.toList, isBlank c = false ∧ c ∉ bracketChars := by
  have htag := line.tag_names
  unfold Tag.ofName? at htag
  split at htag
  all_goals first
    | cases htag
    | rename_i heq; rw [heq]; exact List.all_iff_forall_prop.1 (by decide)

theorem opening_not_mem_tag (kind : BracketKind) (line : ParamLine) :
    kind.opening ∉ line.tag.toList :=
  fun hmem => (line.tag_plain _ hmem).2 kind.opening_mem

/-! ### The name token -/

theorem content_plain (hrequired : line.optional = false) :
    ∀ c ∈ line.content, isNameChar c = true := by
  have hname : ∀ c ∈ line.name, isNameChar c = true := fun c hc =>
    isNameChar_of_plain (line.name_plain c hc).1 (line.name_plain c hc).2.2
  intro c hc
  unfold content at hc
  split at hc
  · next value hvalue =>
    rcases List.mem_append.1 hc with hc | hc
    · exact hname c hc
    · rcases List.mem_cons.1 hc with rfl | hc
      · decide
      · obtain ⟨hblank, hbracket⟩ := line.default_plain hrequired value hvalue c hc
        exact isNameChar_of_plain hblank hbracket
  · exact hname c hc

theorem content_closed (hoptional : line.optional = true) :
    ∀ c ∈ line.content, c ≠ ']' ∧ c ≠ '\n' := by
  have hname : ∀ c ∈ line.name, c ≠ ']' ∧ c ≠ '\n' := by
    intro c hc
    obtain ⟨hblank, -, hbracket⟩ := line.name_plain c hc
    refine ⟨?_, ?_⟩
    · rintro rfl
      exact hbracket (by decide)
    · rintro rfl
      cases hblank
  intro c hc
  unfold content at hc
  split at hc
  · next value hvalue =>
    rcases List.mem_append.1 hc with hc | hc
    · exact hname c hc
    · rcases List.mem_cons.1 hc with rfl | hc
      · decide
      · obtain ⟨hclosing, hbreak⟩ := line.default_closed hoptional value hvalue
        exact ⟨fun heq => hclosing (heq ▸ hc), fun heq => hbreak (heq ▸ hc)⟩
  · exact hname c hc

theorem exists_content_eq_cons (line : ParamLine) :
    ∃ c more, line.content = c :: more ∧ c ∈ line.name := by
  obtain ⟨c, rest, hname⟩ := List.exists_cons_of_ne_nil line.name_some
  unfold content
  split
  · exact ⟨c, rest ++ '=' :: _, by rw [hname, List.cons_append], hname ▸ List.mem_cons_self⟩
  · exact ⟨c, rest, hname, hname ▸ List.mem_cons_self⟩

/-- No type and no group starts where the name does. -/
theorem exists_token_eq_cons (line : ParamLine) :
    ∃ c more, line.token = c :: more ∧ ∀ kind : BracketKind, kind.opening ≠ c := by
  unfold token
  split
  · exact ⟨'[', _, rfl, fun kind => by cases kind <;> decide⟩
  · obtain ⟨c, more, hcontent, hmem⟩ := line.exists_content_eq_cons
    refine ⟨c, more, hcontent, fun kind heq => ?_⟩
    exact (line.name_plain c hmem).2.2 (heq ▸ kind.opening_mem)

theorem endsWord_space (line : ParamLine) : EndsWord (line.space ++ line.description) := by
  intro c hc
  cases hspace : line.space with
  | nil =>
    have hdescription := line.space_some.resolve_left (fun hsome => hsome hspace)
    rw [hspace, hdescription] at hc
    cases hc
  | cons blank space =>
    rw [hspace] at hc
    cases hc
    refine line.space_blank _ ?_
    rw [hspace]
    exact List.mem_cons_self

theorem leadingName?_token (line : ParamLine) :
    leadingName? (line.token ++ (line.space ++ line.description)) = some line.token := by
  cases hoptional : line.optional with
  | true =>
    have htoken : line.token = '[' :: (line.content ++ [']']) := by simp [token, hoptional]
    rw [htoken, List.cons_append, List.append_assoc, List.singleton_append,
      leadingName?_enclosed (content_closed hoptional)]
  | false =>
    have htoken : line.token = line.content := by simp [token, hoptional]
    obtain ⟨c, more, hcontent, -⟩ := line.exists_content_eq_cons
    rw [htoken, leadingName?_append (by simp [hcontent]) (content_plain hoptional)
      line.endsWord_space]

/-- Square brackets are around the name exactly if it is optional. -/
theorem unwrap?_token (line : ParamLine) :
    ParamTokens.unwrap? line.token = if line.optional then some line.content else none := by
  cases hoptional : line.optional with
  | true =>
    have htoken : line.token = '[' :: (line.content ++ [']']) := by simp [token, hoptional]
    rw [htoken, ParamTokens.unwrap?, List.getLast?_concat, List.dropLast_concat]
    rfl
  | false =>
    have htoken : line.token = line.content := by simp [token, hoptional]
    obtain ⟨c, more, hcontent, hmem⟩ := line.exists_content_eq_cons
    have hc : c ≠ '[' := by
      rintro rfl
      exact (line.name_plain _ hmem).2.2 (by decide)
    rw [htoken, hcontent]
    unfold ParamTokens.unwrap?
    split
    · next heq => exact absurd (List.cons.inj heq).1 hc
    · rfl

theorem content_of_token (line : ParamLine) :
    (ParamTokens.unwrap? line.token).getD line.token = line.content := by
  rw [unwrap?_token]
  cases hoptional : line.optional with
  | true => rfl
  | false => simp [token, hoptional]

theorem isSome_unwrap?_token (line : ParamLine) :
    (ParamTokens.unwrap? line.token).isSome = line.optional := by
  rw [unwrap?_token]
  cases line.optional <;> rfl

theorem present?_name (line : ParamLine) : present? line.name = some (String.ofList line.name) :=
  present?_of_plain line.name_some fun c hc => (line.name_plain c hc).1

theorem nameAndDefault_content (line : ParamLine) :
    ParamTokens.nameAndDefault line.content =
      (some (String.ofList line.name),
        line.default.bind fun value => present? (ParamTokens.trimQuotes (trim value))) := by
  have hequals : '=' ∉ line.name := fun hmem => (line.name_plain '=' hmem).2.1 rfl
  rw [ParamTokens.nameAndDefault, content]
  cases line.default with
  | some value =>
    dsimp only
    rw [cut_append_cons hequals, present?_name]
  | none =>
    dsimp only
    rw [cut_of_not_mem hequals, present?_name]

/-! ### The three searches -/

/-- The brackets of a kind, wherever they stand in the line. -/
def found? (line : ParamLine) (kind : BracketKind) : Option Span :=
  bracketed? kind.opening kind.closing line.text

theorem found?_of_front {before after : List Bracketed} {bracketed : Bracketed}
    (hfront : line.front = before ++ bracketed :: after) :
    line.found? bracketed.kind =
      some ⟨line.tag.toList.length + (before.flatMap Bracketed.text).length + bracketed.gap.length,
        line.tag.toList.length + (before.flatMap Bracketed.text).length + bracketed.text.length,
        bracketed.inner⟩ := by
  have hkinds : ∀ other ∈ before, other.kind ≠ bracketed.kind := by
    have hdistinct := line.front_distinct
    rw [hfront, List.map_append, List.nodup_append] at hdistinct
    intro other hother
    exact hdistinct.2.2 _ (List.mem_map_of_mem hother) _ (by simp)
  have hbefore : bracketed.kind.opening ∉
      line.tag.toList ++ before.flatMap Bracketed.text ++ bracketed.gap := by
    rw [List.mem_append, List.mem_append, not_or, not_or]
    exact ⟨⟨line.opening_not_mem_tag bracketed.kind, Bracketed.opening_not_mem_flatMap hkinds⟩,
      bracketed.kind.opening_not_mem_of_blank bracketed.gap_blank⟩
  have hinner : bracketed.kind.closing ∉ bracketed.inner :=
    fun hmem => bracketed.inner_plain _ hmem bracketed.kind.closing_mem
  have htext : line.text = line.tag.toList ++ before.flatMap Bracketed.text ++ bracketed.gap ++
      bracketed.kind.opening :: (bracketed.inner ++ bracketed.kind.closing ::
        (after.flatMap Bracketed.text ++ line.gap ++
          (line.token ++ (line.space ++ line.description)))) := by
    simp [text, heading, hfront, Bracketed.text]
  rw [found?, htext, bracketed?_enclosed hbefore hinner]
  simp only [List.length_append, Bracketed.text, List.length_cons, List.length_nil, Nat.add_assoc]

/-- Brackets of a kind that the line does not have before the name are found behind its start, if at
all. -/
theorem start_of_found? {kind : BracketKind} (hkinds : ∀ bracketed ∈ line.front, bracketed.kind ≠ kind)
    {span : Span} (hfound : line.found? kind = some span) : line.heading.length < span.start := by
  obtain ⟨c, more, htoken, hc⟩ := line.exists_token_eq_cons
  have hgap : kind.opening ∉ line.gap := kind.opening_not_mem_of_blank line.gap_blank
  have hbefore : kind.opening ∉ line.heading ++ [c] := by
    simp only [heading, List.mem_append, List.mem_singleton, not_or]
    exact ⟨⟨line.opening_not_mem_tag kind, Bracketed.opening_not_mem_flatMap hkinds, hgap⟩, hc kind⟩
  have htext : line.text = line.heading ++ [c] ++ (more ++ (line.space ++ line.description)) := by
    simp [text, htoken]
  rw [found?, htext] at hfound
  have hstart := length_le_start hbefore hfound
  rwa [List.length_append, List.length_singleton] at hstart

theorem length_heading {before after : List Bracketed} {bracketed : Bracketed}
    (hfront : line.front = before ++ bracketed :: after) :
    line.heading.length = line.tag.toList.length + (before.flatMap Bracketed.text).length +
      bracketed.text.length + (after.flatMap Bracketed.text).length + line.gap.length := by
  simp only [heading, hfront, List.flatMap_append, List.flatMap_cons, List.length_append,
    Nat.add_assoc]

/-- The brackets of a kind if they start before the name. -/
def counted? (line : ParamLine) (kind : BracketKind) : Option Span :=
  (line.found? kind).filter fun span => span.start < line.heading.length

theorem counted?_of_front {before after : List Bracketed} {bracketed : Bracketed}
    (hfront : line.front = before ++ bracketed :: after) :
    line.counted? bracketed.kind = line.found? bracketed.kind := by
  have hlength := length_heading hfront
  have hopened : bracketed.gap.length < bracketed.text.length := by simp [Bracketed.text]
  rw [counted?, found?_of_front hfront]
  refine Option.filter_some_pos ?_
  rw [decide_eq_true_eq]
  dsimp only
  omega

theorem counted?_eq_none {kind : BracketKind}
    (hkinds : ∀ bracketed ∈ line.front, bracketed.kind ≠ kind) : line.counted? kind = none := by
  rw [counted?, Option.filter_eq_none_iff]
  intro span hfound
  have hstart := start_of_found? hkinds hfound
  rw [decide_eq_true_eq]
  omega

/-- Brackets that count were written before the name, with the text that they hold. -/
theorem of_counted? (line : ParamLine) (kind : BracketKind) :
    (line.counted? kind).map (·.text) = line.inner? kind ∧
      ∀ span ∈ line.counted? kind, span.stop ≤ line.heading.length := by
  cases hfind : line.front.find? (·.kind = kind) with
  | some bracketed =>
    obtain ⟨before, after, hfront⟩ := List.append_of_mem (List.mem_of_find?_eq_some hfind)
    obtain rfl : bracketed.kind = kind := by simpa using List.find?_some hfind
    rw [counted?_of_front hfront, found?_of_front hfront, inner?, hfind]
    refine ⟨rfl, fun span hspan => ?_⟩
    have hlength := length_heading hfront
    cases hspan
    dsimp only
    omega
  | none =>
    have hkinds : ∀ bracketed ∈ line.front, bracketed.kind ≠ kind := by
      simpa using List.find?_eq_none.1 hfind
    rw [counted?_eq_none hkinds, inner?, hfind]
    exact ⟨rfl, fun _ hspan => by cases hspan⟩

theorem present?_counted? (line : ParamLine) (kind : BracketKind) :
    ((line.counted? kind).bind fun span => present? span.text) =
      (line.inner? kind).bind present? := by
  rw [← (line.of_counted? kind).1, Option.bind_map]
  rfl

theorem stop_counted?_le (line : ParamLine) (kind : BracketKind) :
    ((line.counted? kind).map (·.stop)).getD 0 ≤ line.heading.length := by
  cases hcounted : line.counted? kind with
  | none => exact Nat.zero_le _
  | some span => exact (line.of_counted? kind).2 span hcounted

/-- A place that no brackets cover. -/
def Open (line : ParamLine) (offset : Nat) : Prop :=
  ∀ kind, ∀ span ∈ line.found? kind, span.covers offset = false

theorem open_heading (line : ParamLine) : line.Open line.heading.length := by
  intro kind span hfound
  by_cases hkinds : ∀ bracketed ∈ line.front, bracketed.kind ≠ kind
  · have hstart := start_of_found? hkinds hfound
    simp only [covers, Bool.and_eq_false_iff, decide_eq_false_iff_not]
    omega
  · push Not at hkinds
    obtain ⟨bracketed, hmem, rfl⟩ := hkinds
    obtain ⟨before, after, hfront⟩ := List.append_of_mem hmem
    have hlength := length_heading hfront
    rw [found?_of_front hfront] at hfound
    cases hfound
    simp only [covers, Bool.and_eq_false_iff, decide_eq_false_iff_not]
    omega

/-- The name that was written is the first that stands outside the brackets: all that are found before
it are words of a type or a group. -/
theorem exists_namesFrom_text (line : ParamLine) :
    ∃ inside more, namesFrom 0 line.text =
        inside ++ ⟨line.heading.length, line.heading.length + line.token.length, line.token⟩ :: more ∧
      ∀ span ∈ inside, ¬ line.Open span.start := by
  obtain ⟨inside, hinside, hnames⟩ := Bracketed.namesFrom_front line.front line.tag.toList.length
    (line.gap ++ (line.token ++ (line.space ++ line.description)))
  refine ⟨inside, namesFrom (line.heading.length + line.token.length)
    (line.space ++ line.description), ?_, fun span hspan hopen => ?_⟩
  · have htext : line.text = line.tag.toList ++ (line.front.flatMap Bracketed.text ++
        (line.gap ++ (line.token ++ (line.space ++ line.description)))) := by
      simp [text, heading]
    have hlength : line.heading.length = line.tag.toList.length +
        (line.front.flatMap Bracketed.text).length + line.gap.length := by
      simp [heading, Nat.add_assoc]
    rw [htext, namesFrom_word_append fun c hc => (line.tag_plain c hc).1, Nat.zero_add, hnames,
      namesFrom_blanks_name line.gap_some line.gap_blank line.leadingName?_token, hlength]
  · obtain ⟨before, bracketed, after, hfront, hlow, hhigh⟩ := hinside span hspan
    have hcovered := hopen bracketed.kind _ (found?_of_front hfront)
    simp only [covers, Bool.and_eq_false_iff, decide_eq_false_iff_not] at hcovered
    omega

theorem open_iff {offset : Nat} :
    ((!(line.found? .type).any fun span => span.covers offset) &&
        !(line.found? .group).any fun span => span.covers offset) = true ↔ line.Open offset := by
  have huncovered : ∀ kind, (!(line.found? kind).any fun span => span.covers offset) = true ↔
      ∀ span ∈ line.found? kind, span.covers offset = false := by
    intro kind
    cases line.found? kind <;> simp
  rw [Bool.and_eq_true, huncovered, huncovered]
  constructor
  · rintro ⟨htype, hgroup⟩ kind
    cases kind
    · exact htype
    · exact hgroup
  · exact fun hopen => ⟨hopen .type, hopen .group⟩

theorem find?_namesFrom_text (line : ParamLine) :
    ((namesFrom 0 line.text).find? fun name =>
        (!(line.found? .type).any fun span => span.covers name.start) &&
          !(line.found? .group).any fun span => span.covers name.start) =
      some ⟨line.heading.length, line.heading.length + line.token.length, line.token⟩ := by
  obtain ⟨inside, more, hnames, hinside⟩ := line.exists_namesFrom_text
  have hcovered : inside.find? (fun name =>
      (!(line.found? .type).any fun span => span.covers name.start) &&
        !(line.found? .group).any fun span => span.covers name.start) = none :=
    List.find?_eq_none.2 fun span hspan => mt open_iff.1 (hinside span hspan)
  rw [hnames, List.find?_append, hcovered, Option.none_or, List.find?_cons,
    open_iff.2 line.open_heading]

theorem drop_text (line : ParamLine) :
    line.text.drop (line.heading.length + line.token.length) = line.space ++ line.description := by
  rw [text, ← List.append_assoc, List.drop_left' List.length_append]

/-- **What is written in the line of a parameter tag is read from it.** Type, group and description are
trimmed, the name and whether it is optional are exactly as they were written, and the default is
trimmed, freed from the quotes around it and trimmed again. Parts that are blank are absent. -/
theorem ofLine_written (line : ParamLine) : ParamTokens.ofLine line.text = line.tokens := by
  have hfind := line.find?_namesFrom_text
  have htype : (line.found? .type).filter (fun span => decide (span.start < line.heading.length)) =
      line.counted? .type := rfl
  have hgroup : (line.found? .group).filter (fun span => decide (span.start < line.heading.length)) =
      line.counted? .group := rfl
  simp only [found?, BracketKind.opening, BracketKind.closing] at hfind htype hgroup
  unfold ParamTokens.ofLine
  simp only [hfind, Option.all_some, htype, hgroup, Option.map_some, Option.getD_some,
    content_of_token, isSome_unwrap?_token, nameAndDefault_content, Option.bind_some,
    present?_counted?]
  -- What is left are the places: the name is the last token that counts.
  have htypeStop := line.stop_counted?_le .type
  have hgroupStop := line.stop_counted?_le .group
  have hstop : max (max (((line.counted? .type).map (·.stop)).getD 0)
      (((line.counted? .group).map (·.stop)).getD 0)) (line.heading.length + line.token.length) =
        line.heading.length + line.token.length := by
    omega
  rw [hstop, drop_text, present?_append_of_blank line.space_blank, tokens]

/-- A line whose default and description hold what looks like a type, a group and a name. -/
def lookalikeLine : ParamLine where
  tag := "@apiParam"
  carrier := .form
  front := [
    { kind := .group, gap := [' '], inner := "Login".toList,
      gap_blank := List.all_iff_forall_prop.1 (by decide), inner_plain := List.all_iff_forall_prop.1 (by decide) },
    { kind := .type, gap := [' '], inner := " String ".toList,
      gap_blank := List.all_iff_forall_prop.1 (by decide), inner_plain := List.all_iff_forall_prop.1 (by decide) }]
  gap := [' ']
  name := "user.name".toList
  optional := true
  default := some "\"\x7bno\x7d (type)\"".toList
  space := [' ']
  description := "of \x7bthe\x7d (user) [since=1]".toList
  tag_names := rfl
  front_distinct := by decide
  gap_some := by decide
  gap_blank := List.all_iff_forall_prop.1 (by decide)
  name_some := by decide
  name_plain := List.all_iff_forall_prop.1 (by decide)
  default_closed := by
    rintro - value hvalue
    cases hvalue
    decide
  default_plain := by decide
  space_blank := List.all_iff_forall_prop.1 (by decide)
  space_some := .inl (by decide)

theorem tokens_of_lookalikeLine :
    String.ofList lookalikeLine.text =
        "@apiParam (Login) \x7b String \x7d [user.name=\"\x7bno\x7d (type)\"] " ++
          "of \x7bthe\x7d (user) [since=1]" ∧
      ParamTokens.ofLine lookalikeLine.text =
        { typeName := some "String", group := some "Login", name := some "user.name",
          optional := true, default := some "\x7bno\x7d (type)",
          description := some "of \x7bthe\x7d (user) [since=1]" } := by
  refine ⟨by decide, ?_⟩
  rw [ofLine_written]
  decide

/-! ### Blanks inside the quotes -/

/-- A default trimmed and without the quotes around it, unless nothing but blanks is left. -/
def unquoted? (value : List Char) : Option String :=
  let inner := ParamTokens.trimQuotes (trim value)
  if inner.all isBlank then none else some (String.ofList inner)

def seaLine : ParamLine where
  tag := "@apiParam"
  carrier := .form
  front := []
  gap := [' ']
  name := "title".toList
  optional := true
  default := some "\" Sea \"".toList
  space := []
  description := []
  tag_names := rfl
  front_distinct := by decide
  gap_some := by decide
  gap_blank := List.all_iff_forall_prop.1 (by decide)
  name_some := by decide
  name_plain := List.all_iff_forall_prop.1 (by decide)
  default_closed := by
    rintro - value hvalue
    cases hvalue
    decide
  default_plain := by decide
  space_blank := List.all_iff_forall_prop.1 (by decide)
  space_some := .inr rfl

/-- Blanks between the quotes and the text go as well, so the default that is read is not what stood
between the quotes. -/
theorem quoted_blanks_lost_in_seaLine :
    String.ofList seaLine.text = "@apiParam [title=\" Sea \"]" ∧
      (ParamTokens.ofLine seaLine.text).default = some "Sea" ∧
      seaLine.default.bind unquoted? = some " Sea " ∧
      ¬ ∀ line : ParamLine,
        (ParamTokens.ofLine line.text).default = line.default.bind unquoted? := by
  have hread : (ParamTokens.ofLine seaLine.text).default = some "Sea" := by decide +kernel
  have hquoted : seaLine.default.bind unquoted? = some " Sea " := by decide
  refine ⟨by decide, hread, hquoted, fun hall => ?_⟩
  have hsame := (hread.symm.trans (hall seaLine)).trans hquoted
  exact absurd hsame (by decide)

end ParamLine

end ApiManual
