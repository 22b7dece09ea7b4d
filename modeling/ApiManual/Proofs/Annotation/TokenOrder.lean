import ApiManual.Proofs.Annotation.Margin
import ApiManual.Proofs.Annotation.ParamLine

/-!
# The order of tokens

Braces, parentheses and names are searched for on their own, on lines of any form. So what is found
may overlap: parentheses may open inside the braces and close behind them, a name may stand in either,
and both may stand inside a name in square brackets. All that is tested is where tokens start. The name
starts outside of the brackets, and the brackets that count start before the name. That is enough for
them to end there as well, since otherwise they would cover the start of the name. So of all that is
left out of the description, the name is the last. An `@api` tag has its method before the path in the
same way, only that the test is on where the method ends.

A position that a text is cut at lies within the line, because the token before it stands in the line
as it was found. That goes for positions in bytes too. The one that is not the end of a match is the end
of the method, which is taken as one byte behind what the braces hold. There a brace stands, which is one
byte long.
-/

namespace ApiManual

open Text ApiManual.Span

namespace Span

variable {offset : Nat} {text line written : List Char} {span : Span}

/-- A token stands in a text where its span says. `offset` is that of the first character of the
text. -/
def StandsFrom (span : Span) (offset : Nat) (text written : List Char) : Prop :=
  ∃ before after, text = before ++ (written ++ after) ∧
    span.start = offset + before.length ∧ span.stop = span.start + written.length

def StandsIn (span : Span) (line written : List Char) : Prop :=
  span.StandsFrom 0 line written

theorem StandsFrom.append {before : List Char}
    (hstands : span.StandsFrom (offset + before.length) text written) :
    span.StandsFrom offset (before ++ text) written := by
  obtain ⟨front, after, rfl, hstart, hstop⟩ := hstands
  refine ⟨before ++ front, after, (List.append_assoc ..).symm, ?_, hstop⟩
  rw [hstart, List.length_append, Nat.add_assoc]

theorem StandsIn.stop_le (hstands : span.StandsIn line written) : span.stop ≤ line.length := by
  obtain ⟨before, after, rfl, hstart, hstop⟩ := hstands
  simp only [List.length_append]
  omega

theorem StandsIn.dropBytes?_stop {inner : List Char} {closing : Char}
    (hstands : span.StandsIn line (inner ++ [closing])) (hclosing : closing.utf8Size = 1) :
    dropBytes? ((utf8Bytes (line.take (span.stop - 1))).length + 1) line =
      some (line.drop span.stop) := by
  obtain ⟨before, after, rfl, hstart, hstop⟩ := hstands
  rw [List.length_append, List.length_singleton] at hstop
  have hsplit : before ++ (inner ++ [closing] ++ after) = before ++ inner ++ [closing] ++ after := by
    simp
  have hlength : (before ++ inner).length = span.stop - 1 := by
    rw [List.length_append]
    omega
  have hwhole : (before ++ inner ++ [closing]).length = span.stop := by
    rw [List.length_append, hlength, List.length_singleton]
    omega
  have hbytes : (utf8Bytes (before ++ inner)).length + 1 =
      (utf8Bytes (before ++ inner ++ [closing])).length := by
    simp [utf8Bytes, hclosing, Nat.add_assoc]
  have htake : (before ++ inner ++ [closing] ++ after).take (span.stop - 1) = before ++ inner := by
    rw [List.append_assoc (before ++ inner), List.take_left' hlength]
  rw [hsplit, htake, hbytes, dropBytes?_utf8Bytes_append, List.drop_left' hwhole]

theorem StandsFrom.start_le_stop (hstands : span.StandsFrom offset text written) :
    span.start ≤ span.stop := by
  obtain ⟨-, -, -, -, hstop⟩ := hstands
  omega

theorem stop_getD_le {found : Option Span} {bound : Nat} (hle : ∀ span ∈ found, span.stop ≤ bound) :
    (found.map (·.stop)).getD 0 ≤ bound := by
  cases found with
  | none => exact Nat.zero_le bound
  | some span => exact hle span rfl

/-! ### What the searches find -/

theorem standsIn_of_bracketed? {opening closing : Char}
    (hfound : bracketed? opening closing line = some span) :
    span.StandsIn line (opening :: (span.text ++ [closing])) := by
  unfold bracketed? at hfound
  split at hfound
  · next before rest hopening =>
    split at hfound
    · next inner after hclosing =>
      cases hfound
      refine ⟨before, after, ?_, (Nat.zero_add _).symm, ?_⟩
      · rw [eq_append_of_cut hopening, eq_append_of_cut hclosing]
        simp
      · simp [Nat.add_assoc]
    · cases hfound
  · cases hfound

theorem standsIn_of_path? (hfound : path? line = some span) : span.StandsIn line span.text := by
  obtain ⟨before, path, rest, rfl, rfl⟩ := exists_append_of_pathFrom? hfound
  exact ⟨before, rest, rfl, rfl, rfl⟩

theorem standsFrom_of_mem_namesFrom (hmem : span ∈ namesFrom offset text) :
    span.StandsFrom offset text span.text := by
  fun_induction namesFrom offset text with
  | case1 => cases hmem
  | case2 offset c rest name hname _ ih =>
    obtain ⟨after, rfl⟩ := exists_append_of_leadingName? hname
    rcases List.mem_cons.1 hmem with rfl | hlater
    · exact ⟨[c], after, rfl, rfl, rfl⟩
    · have hoffset : offset + (c :: name).length = offset + 1 + name.length := by
        rw [List.length_cons, Nat.add_comm name.length, Nat.add_assoc]
      rw [List.drop_left] at ih hlater
      rw [← hoffset] at ih hlater
      exact (ih hlater).append
  | case3 offset c rest _ ih =>
    change span.StandsFrom offset ([c] ++ rest) span.text
    exact (ih hmem).append

end Span

def BracketKind.enclose (kind : BracketKind) (inner : List Char) : List Char :=
  kind.opening :: (inner ++ [kind.closing])

/-! ### Parameter tags -/

namespace ParamTokens

variable {line : List Char}

def bracket? (line : List Char) (kind : BracketKind) : Option Span :=
  bracketed? kind.opening kind.closing line

/-- The first name that starts outside of the brackets. -/
def name? (line : List Char) : Option Span :=
  (namesFrom 0 line).find? fun name =>
    (!(bracket? line .type).any fun span => span.covers name.start) &&
      !(bracket? line .group).any fun span => span.covers name.start

/-- The brackets of a kind that count: all that start before the name, if there is one. -/
def counted? (line : List Char) (kind : BracketKind) : Option Span :=
  (bracket? line kind).filter fun span => (name? line).all fun name => span.start < name.start

/-- Where the last of the name and the brackets that count ends. -/
def descriptionStart (line : List Char) : Nat :=
  max (max (((counted? line .type).map (·.stop)).getD 0)
    (((counted? line .group).map (·.stop)).getD 0)) (((name? line).map (·.stop)).getD 0)

theorem covers_start_eq_false {name : Span} (hname : name? line = some name) {kind : BracketKind}
    {span : Span} (hspan : bracket? line kind = some span) : span.covers name.start = false := by
  have houtside := List.find?_some hname
  rw [Bool.and_eq_true] at houtside
  cases kind with
  | type => simpa [hspan] using houtside.1
  | group => simpa [hspan] using houtside.2

theorem stop_le_start_of_counted {name : Span} (hname : name? line = some name) {kind : BracketKind}
    {span : Span} (hspan : counted? line kind = some span) : span.stop ≤ name.start := by
  obtain ⟨hfound, hcounts⟩ := Option.filter_eq_some_iff.1 hspan
  have hbefore : span.start < name.start := by simpa [hname] using hcounts
  have houtside := covers_start_eq_false hname hfound
  simp only [covers, Bool.and_eq_false_iff, decide_eq_false_iff_not] at houtside
  omega

theorem standsIn_of_counted {kind : BracketKind} {span : Span}
    (hspan : counted? line kind = some span) : span.StandsIn line (kind.enclose span.text) :=
  standsIn_of_bracketed? (Option.filter_eq_some_iff.1 hspan).1

theorem standsIn_of_name {name : Span} (hname : name? line = some name) :
    name.StandsIn line name.text :=
  standsFrom_of_mem_namesFrom (List.mem_of_find?_eq_some hname)

/-- The tokens of a parameter line stand in the line, and the brackets that count come to an end before
the name. So what the description is read from is the line behind the name. -/
structure InOrder (line : List Char) : Prop where
  typeName_eq : (ofLine line).typeName = (counted? line .type).bind (present? ·.text)
  group_eq : (ofLine line).group = (counted? line .group).bind (present? ·.text)
  name_eq : (ofLine line).name =
    (name? line).bind fun name => (nameAndDefault ((unwrap? name.text).getD name.text)).1
  description_eq : (ofLine line).description =
    (ofLine line).name.bind fun _ => present? (line.drop (descriptionStart line))
  bracket_stands : ∀ kind, ∀ span ∈ counted? line kind, span.StandsIn line (kind.enclose span.text)
  name_stands : ∀ name ∈ name? line, name.StandsIn line name.text
  bracket_before : ∀ name ∈ name? line, ∀ kind, ∀ span ∈ counted? line kind, span.stop ≤ name.start
  start_eq : ∀ name ∈ name? line, descriptionStart line = name.stop
  start_le : descriptionStart line ≤ line.length

theorem inOrder (line : List Char) : InOrder line where
  typeName_eq := rfl
  group_eq := rfl
  name_eq := by
    have hread : (ofLine line).name = (nameAndDefault
        ((unwrap? (((name? line).map (·.text)).getD [])).getD
          (((name? line).map (·.text)).getD []))).1 := rfl
    rw [hread]
    cases name? line <;> rfl
  description_eq := rfl
  bracket_stands _ _ := standsIn_of_counted
  name_stands _ := standsIn_of_name
  bracket_before _ hname _ _ := stop_le_start_of_counted hname
  start_eq name hname := by
    have hbrackets : ∀ kind, ((counted? line kind).map (·.stop)).getD 0 ≤ name.start := fun kind =>
      stop_getD_le fun _ hspan => stop_le_start_of_counted hname hspan
    have htype := hbrackets .type
    have hgroup := hbrackets .group
    have hstop := (standsIn_of_name hname).start_le_stop
    rw [descriptionStart, Option.mem_def.1 hname, Option.map_some, Option.getD_some]
    omega
  start_le := by
    have hbrackets : ∀ kind, ((counted? line kind).map (·.stop)).getD 0 ≤ line.length := fun kind =>
      stop_getD_le fun _ hspan => (standsIn_of_counted hspan).stop_le
    have hname : ((name? line).map (·.stop)).getD 0 ≤ line.length :=
      stop_getD_le fun _ hspan => (standsIn_of_name hspan).stop_le
    exact max_le (max_le (hbrackets .type) (hbrackets .group)) hname

end ParamTokens

/-! ### `@api` tags -/

namespace ApiTokens

variable {line : List Char}

/-- The braces that count as the method: the first ones, unless they end behind the start of the
path. -/
def method? (line : List Char) : Option Span :=
  (bracketed? '{' '}' line).filter fun braces =>
    match path? line with
    | some path => braces.stop ≤ path.start
    | none => true

/-- Where the last of the method and the path ends; the end of the line when there is neither. -/
def titleStart (line : List Char) : Nat :=
  match method? line, path? line with
  | none, none => line.length
  | some method, none => method.stop
  | none, some path => path.stop
  | some method, some path => max method.stop path.stop

theorem stop_le_start_of_method {path braces : Span} (hpath : path? line = some path)
    (hmethod : method? line = some braces) : braces.stop ≤ path.start := by
  obtain ⟨-, hcounts⟩ := Option.filter_eq_some_iff.1 hmethod
  simpa [hpath] using hcounts

theorem standsIn_of_method {braces : Span} (hmethod : method? line = some braces) :
    braces.StandsIn line (BracketKind.type.enclose braces.text) :=
  standsIn_of_bracketed? (Option.filter_eq_some_iff.1 hmethod).1

/-- The tokens of an `@api` line stand in the line, and the method comes to an end before the path. So
what the title is read from is the line behind the path. -/
structure InOrder (line : List Char) : Prop where
  method_eq : (ofLine line).method =
    (method? line).map fun braces => lowercase (String.ofList (trim braces.text))
  path_eq : (ofLine line).path = (path? line).map fun path => String.ofList path.text
  title_eq : (ofLine line).title = present? (line.drop (titleStart line))
  method_stands : ∀ braces ∈ method? line,
    braces.StandsIn line (BracketKind.type.enclose braces.text)
  path_stands : ∀ path ∈ path? line, path.StandsIn line path.text
  method_before : ∀ path ∈ path? line, ∀ braces ∈ method? line, braces.stop ≤ path.start
  start_eq : ∀ path ∈ path? line, titleStart line = path.stop
  start_le : titleStart line ≤ line.length
  /-- One byte behind what the braces hold, the closing brace has been gone past. -/
  method_bytes : ∀ braces ∈ method? line,
    dropBytes? ((utf8Bytes (line.take (braces.stop - 1))).length + 1) line =
      some (line.drop braces.stop)

theorem inOrder (line : List Char) : InOrder line where
  method_eq := rfl
  path_eq := rfl
  title_eq := rfl
  method_stands _ := standsIn_of_method
  path_stands _ := standsIn_of_path?
  method_before _ hpath _ := stop_le_start_of_method hpath
  start_eq path hpath := by
    have hstop := (standsIn_of_path? hpath).start_le_stop
    rw [titleStart, Option.mem_def.1 hpath]
    cases hmethod : method? line with
    | none => rfl
    | some braces =>
      have hbefore := stop_le_start_of_method hpath hmethod
      dsimp only
      omega
  start_le := by
    unfold titleStart
    split
    · exact Nat.le_refl _
    · next braces hmethod _ => exact (standsIn_of_method hmethod).stop_le
    · next path _ hpath => exact (standsIn_of_path? hpath).stop_le
    · next braces path hmethod hpath =>
      exact max_le (standsIn_of_method hmethod).stop_le (standsIn_of_path? hpath).stop_le
  method_bytes braces hmethod := by
    have hstands : braces.StandsIn line (('{' :: braces.text) ++ ['}']) :=
      standsIn_of_method hmethod
    exact hstands.dropBytes?_stop rfl

end ApiTokens

/-- **Nothing that was read before is read again at the end.** On every line that gives a name, the
type and the group that count have come to an end where the name starts, and the description is what
follows the name, trimmed. On every line that gives a path, the method that counts has come to an end
where the path starts, and the title is what follows the path, trimmed. All tokens stand in the line,
and what is cut off begins within it. -/
theorem rest_follows_last_token (line : List Char) :
    (ParamTokens.InOrder line ∧
      ∀ text, (ParamTokens.ofLine line).name = some text →
        ∃ name ∈ ParamTokens.name? line,
          (∀ kind, ∀ span ∈ ParamTokens.counted? line kind, span.stop ≤ name.start) ∧
          (ParamTokens.ofLine line).description = present? (line.drop name.stop)) ∧
    (ApiTokens.InOrder line ∧
      ∀ text, (ApiTokens.ofLine line).path = some text →
        ∃ path ∈ path? line,
          (∀ braces ∈ ApiTokens.method? line, braces.stop ≤ path.start) ∧
          (ApiTokens.ofLine line).title = present? (line.drop path.stop)) := by
  have hparam := ParamTokens.inOrder line
  have hapi := ApiTokens.inOrder line
  refine ⟨⟨hparam, fun text htext => ?_⟩, ⟨hapi, fun text htext => ?_⟩⟩
  · have hread := htext
    rw [hparam.name_eq] at hread
    obtain ⟨name, hname, -⟩ := Option.bind_eq_some_iff.1 hread
    refine ⟨name, hname, hparam.bracket_before name hname, ?_⟩
    rw [hparam.description_eq, htext, Option.bind_some, hparam.start_eq name hname]
  · rw [hapi.path_eq] at htext
    obtain ⟨path, hpath, -⟩ := Option.map_eq_some_iff.1 htext
    refine ⟨path, hpath, hapi.method_before path hpath, ?_⟩
    rw [hapi.title_eq, hapi.start_eq path hpath]

/-- Parentheses that open inside the braces and close behind them, with a name in what is left of them,
and more brackets inside the name and behind it. -/
def tangledLine : List Char := "@apiParam \x7ba (b\x7d c) [n=(d)] the \x7brest\x7d (of it)".toList

def bracedLine : List Char := "@api \x7bGet\x7d /photo/\x7bid\x7d the \x7brest\x7d".toList

/-- The parts that are read from the two lines. -/
def tangledTokens : ParamTokens where
  typeName := some "a (b"
  group := some "b\x7d c"
  name := some "n"
  optional := true
  default := some "(d)"
  description := some "the \x7brest\x7d (of it)"

def bracedTokens : ApiTokens where
  method := some "get"
  path := some "/photo/\x7bid\x7d"
  title := some "the \x7brest\x7d"

theorem rest_follows_in_tangledLine :
    (ParamTokens.ofLine tangledLine = tangledTokens ∧
      ∃ name ∈ ParamTokens.name? tangledLine,
        (∀ kind, ∀ span ∈ ParamTokens.counted? tangledLine kind, span.stop ≤ name.start) ∧
        (ParamTokens.ofLine tangledLine).description = present? (tangledLine.drop name.stop)) ∧
    (ApiTokens.ofLine bracedLine = bracedTokens ∧
      ∃ path ∈ path? bracedLine,
        (∀ braces ∈ ApiTokens.method? bracedLine, braces.stop ≤ path.start) ∧
        (ApiTokens.ofLine bracedLine).title = present? (bracedLine.drop path.stop)) := by
  have hparam : ParamTokens.ofLine tangledLine = tangledTokens := by decide +kernel
  have hapi : ApiTokens.ofLine bracedLine = bracedTokens := by decide +kernel
  obtain ⟨⟨-, hdescription⟩, -⟩ := rest_follows_last_token tangledLine
  obtain ⟨-, -, htitle⟩ := rest_follows_last_token bracedLine
  exact ⟨⟨hparam, hdescription "n" (congrArg ParamTokens.name hparam)⟩,
    ⟨hapi, htitle "/photo/\x7bid\x7d" (congrArg ApiTokens.path hapi)⟩⟩

end ApiManual
