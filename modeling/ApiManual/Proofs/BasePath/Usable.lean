import ApiManual.Proofs.BasePath.Relative
import Mathlib.Data.List.DropRight

/-!
# Bases that can stand before a path

A base is of use only if it can stand before the path of a request, so it has to start with a slash. A
text without a scheme is checked for that, and the path of a URI starts with a slash whenever it has a
host or a slash behind the scheme. That leaves the URIs with a scheme of their own and no slash behind
it. Their path is the text as it is, and it is accepted. A host with a port is read in this way: the
host is taken for a scheme and the port for the start of a path. The base of such a URI is never taken
off a path.
-/

namespace ApiManual

namespace Text

/-- An escaped text starts with the percent sign of an escape or with the character itself. -/
theorem exists_head?_percentEncode (reserved : Char → Bool) {c : Char} (hc : c ≠ '/')
    (rest : List Char) :
    ∃ first, (percentEncode reserved (c :: rest)).head? = some first ∧ first ≠ '/' := by
  rw [percentEncode, List.flatMap_cons]
  split
  · have hbytes : String.utf8EncodeChar c ≠ [] := by
      rw [← List.length_pos_iff, String.length_utf8EncodeChar]
      exact c.utf8Size_pos
    obtain ⟨byte, bytes, hcons⟩ := List.exists_cons_of_ne_nil hbytes
    rw [hcons]
    exact ⟨'%', rfl, by decide⟩
  · exact ⟨c, rfl, hc⟩

end Text

/-! ### Paths of URIs -/

namespace Uri

open BasePath Text

variable {domain? : DomainReading} {uri path text : List Char}

/-- A scheme that is none of the web's and not that of files, and behind its colon a path that does not
start with a slash. -/
def Rootless (uri : List Char) : Prop :=
  ∃ scheme c rest, takeScheme (cleaned uri) = some (scheme, c :: rest) ∧
    SchemeKind.ofName scheme = .other ∧ c ≠ '/' ∧ endsPath c = false

theorem rooted_of_afterAuthority {kind : SchemeKind} (hpath : afterAuthority domain? kind text = .ok path) :
    Rooted path := by
  unfold afterAuthority at hpath
  dsimp only at hpath
  split at hpath
  · split at hpath
    · obtain rfl := Except.ok.inj hpath
      split
      · exact Or.inl rfl
      · exact Or.inr rfl
    · obtain rfl := Except.ok.inj hpath
      exact Or.inr rfl
  · cases hpath

theorem rooted_of_filePath (hpath : filePath domain? text = .ok path) : Rooted path := by
  unfold filePath at hpath
  dsimp only at hpath
  split at hpath
  · split at hpath
    · split at hpath
      · obtain rfl := Except.ok.inj hpath
        exact Or.inr rfl
      · split at hpath
        · obtain rfl := Except.ok.inj hpath
          exact Or.inr rfl
        · cases hpath
    · obtain rfl := Except.ok.inj hpath
      exact Or.inr rfl
  · obtain rfl := Except.ok.inj hpath
    exact Or.inr rfl

theorem rooted_of_path? (hroot : ¬ Rootless uri) (hpath : path? domain? uri = .ok path) : Rooted path := by
  unfold path? at hpath
  split at hpath
  · cases hpath
  · next scheme rest hscheme =>
    split at hpath
    · exact rooted_of_afterAuthority hpath
    · exact rooted_of_filePath hpath
    · next hkind =>
      split at hpath
      · exact rooted_of_afterAuthority hpath
      · obtain rfl := Except.ok.inj hpath
        exact Or.inr rfl
      · next _ hslash =>
        obtain rfl := Except.ok.inj hpath
        -- The path is empty: it would be rootless if anything but its end came first.
        refine Or.inl ?_
        cases rest with
        | nil => rfl
        | cons c rest =>
          have hends : endsPath c = true := by
            by_contra hnot
            have hc : c ≠ '/' := fun heq => hslash rest (by rw [heq])
            exact hroot ⟨scheme, c, rest, hscheme, hkind, hc, eq_false_of_ne_true hnot⟩
          rw [pathText, List.takeWhile_cons, hends]
          rfl

theorem exists_path?_of_rootless (domain? : DomainReading) (hrootless : Rootless uri) :
    ∃ path c, path? domain? uri = .ok path ∧ path.head? = some c ∧ c ≠ '/' := by
  obtain ⟨scheme, c, rest, hscheme, hkind, hc, hends⟩ := hrootless
  have htext : pathText (c :: rest) = c :: rest.takeWhile (!endsPath ·) := by
    rw [pathText, List.takeWhile_cons, hends]
    rfl
  obtain ⟨first, hfirst, hne⟩ :=
    exists_head?_percentEncode isControl hc (rest.takeWhile (!endsPath ·))
  rw [← htext] at hfirst
  refine ⟨_, first, ?_, hfirst, hne⟩
  unfold path?
  rw [hscheme]
  dsimp only
  rw [hkind]
  dsimp only
  split
  · next heq => exact absurd (List.cons.inj heq).1 hc
  · next heq => exact absurd (List.cons.inj heq).1 hc
  · rfl

end Uri

/-! ### Outcomes of a base URI -/

namespace BasePath

open Text Uri

variable {domain? : DomainReading} {uri : Option String} {text base : String} {path : List Char}

theorem withoutFinalSlashes_eq (path : List Char) :
    withoutFinalSlashes path = path.rdropWhile (· == '/') := rfl

theorem getLast?_withoutFinalSlashes (path : List Char) :
    (withoutFinalSlashes path).getLast? ≠ some '/' := by
  rw [withoutFinalSlashes, List.getLast?_reverse]
  have hnot := List.head?_dropWhile_not (· == '/') path.reverse
  intro hlast
  rw [hlast] at hnot
  cases hnot

/-- What is left of a path starts as the path does. -/
theorem head?_withoutFinalSlashes (hne : withoutFinalSlashes path ≠ []) :
    (withoutFinalSlashes path).head? = path.head? := by
  obtain ⟨slashes, hpath⟩ := List.rdropWhile_prefix (· == '/') path
  rw [← withoutFinalSlashes_eq] at hpath
  rw [← hpath, List.head?_append_of_ne_nil _ hne, hpath]

theorem withoutFinalSlashes_ne_nil {c : Char} (hhead : path.head? = some c) (hc : c ≠ '/') :
    withoutFinalSlashes path ≠ [] := by
  rw [withoutFinalSlashes_eq, Ne, List.rdropWhile_eq_nil_iff]
  intro hslashes
  exact hc (beq_iff_eq.1 (hslashes c (List.mem_of_head? hhead)))

theorem uriPath_eq_error {failure : Failure} (hpath : uriPath domain? text = .error failure) :
    failure = .invalidBaseUri text := by
  unfold uriPath at hpath
  split at hpath
  · cases hpath
  · split at hpath
    · cases hpath
    · exact (Except.error.inj hpath).symm
  · exact (Except.error.inj hpath).symm

theorem rooted_of_uriPath (hroot : ¬ Rootless text.toList) (hpath : uriPath domain? text = .ok path) :
    Rooted path := by
  unfold uriPath at hpath
  split at hpath
  · next found hfound =>
    obtain rfl := Except.ok.inj hpath
    exact rooted_of_path? hroot hfound
  · split at hpath
    · next hslash =>
      obtain rfl := Except.ok.inj hpath
      exact Or.inr (beq_iff_eq.1 hslash)
    · cases hpath
  · cases hpath

/-- The only way to fail is a base URI that is none. -/
theorem ofUri_eq_error {failure : Failure} (houtcome : ofUri uri domain? = .error failure) :
    ∃ text, uri = some text ∧ failure = .invalidBaseUri text := by
  cases uri with
  | none => cases houtcome
  | some text =>
    rw [ofUri.eq_def] at houtcome
    dsimp only at houtcome
    cases hpath : uriPath domain? text with
    | ok path =>
      rw [hpath] at houtcome
      cases houtcome
    | error cause =>
      rw [hpath] at houtcome
      cases houtcome
      exact ⟨text, rfl, uriPath_eq_error hpath⟩

/-- A base is what is left of the path of a URI without the slashes at its end. -/
theorem ofUri_eq_some_iff :
    ofUri uri domain? = .ok (some base) ↔
      ∃ text path, uri = some text ∧ uriPath domain? text = .ok path ∧
        base.toList = withoutFinalSlashes path ∧ withoutFinalSlashes path ≠ [] := by
  cases uri with
  | none => simp [ofUri]
  | some text =>
    have hbase : ∀ trimmed, String.ofList trimmed = base ↔ base.toList = trimmed := fun trimmed =>
      ⟨fun heq => heq ▸ String.toList_ofList, fun heq => heq ▸ String.ofList_toList⟩
    rw [ofUri]
    cases hpath : uriPath domain? text with
    | error cause => simp [Except.map, hpath]
    | ok path =>
      by_cases hnil : withoutFinalSlashes path = []
      · simp [Except.map, hpath, hnil]
      · simp [Except.map, hpath, hnil, hbase]

/-- All slashes are taken off the end of a base. -/
theorem getLast?_of_ofUri (hbase : ofUri uri domain? = .ok (some base)) :
    base.toList.getLast? ≠ some '/' := by
  obtain ⟨text, path, -, -, htoList, -⟩ := ofUri_eq_some_iff.1 hbase
  rw [htoList]
  exact getLast?_withoutFinalSlashes path

theorem head?_of_ofUri (hbase : ofUri uri domain? = .ok (some base))
    (hroot : ∀ text ∈ uri, ¬ Rootless text.toList) : base.toList.head? = some '/' := by
  obtain ⟨text, path, htext, hpath, htoList, hne⟩ := ofUri_eq_some_iff.1 hbase
  rw [htoList, head?_withoutFinalSlashes hne]
  rcases rooted_of_uriPath (hroot text htext) hpath with rfl | hhead
  · exact absurd rfl hne
  · exact hhead

theorem exists_ofUri_of_rootless (domain? : DomainReading) (hrootless : Rootless text.toList) :
    ∃ base, ofUri (some text) domain? = .ok (some base) ∧ base.toList.head? ≠ some '/' ∧
      base.toList ≠ [] := by
  obtain ⟨path, c, hpath, hhead, hc⟩ := exists_path?_of_rootless domain? hrootless
  have huri : uriPath domain? text = .ok path := by
    rw [uriPath, hpath]
  have hne := withoutFinalSlashes_ne_nil hhead hc
  have htoList : (String.ofList (withoutFinalSlashes path)).toList = withoutFinalSlashes path :=
    String.toList_ofList
  refine ⟨_, ofUri_eq_some_iff.2 ⟨text, path, rfl, huri, htoList, hne⟩, ?_, ?_⟩
  · rw [htoList, head?_withoutFinalSlashes hne, hhead]
    exact fun heq => hc (Option.some.inj heq)
  · rwa [htoList]

/-- A base that does not start with a slash stands before no path that does. -/
theorem withoutBase_of_head?_ne (hhead : base.toList.head? ≠ some '/') (hne : base.toList ≠ [])
    (hpath : path.head? = some '/') : withoutBase (some base) path = path := by
  refine withoutBase_of_not_below ?_
  rintro ⟨rest, -, rfl⟩
  rw [List.head?_append_of_ne_nil _ hne] at hpath
  exact hhead hpath

/-- What a base URI may come to: a failure that names it, no base, or a base that starts with a slash and
does not end in one. -/
def Usable (uri : Option String) : Except Failure (Option String) → Prop
  | .error failure => ∃ text ∈ uri, failure = .invalidBaseUri text
  | .ok none => True
  | .ok (some base) => base.toList.head? = some '/' ∧ base.toList.getLast? ≠ some '/'

/-- **Which base URIs are usable or refused.** A base URI comes to a failure, to no base, or to a base
that can stand before a path, unless it is rootless. A rootless one is accepted, with a base that no path
of a request starts with, so it is never taken off. None of this depends on what is read as a domain. -/
theorem usable_ofUri_iff (uri : Option String) (domain? : DomainReading) :
    (Usable uri (ofUri uri domain?) ↔ ∀ text ∈ uri, ¬ Rootless text.toList) ∧
      ∀ text ∈ uri, Rootless text.toList → ∃ base, ofUri uri domain? = .ok (some base) ∧
        ∀ path, path.head? = some '/' → withoutBase (some base) path = path := by
  refine ⟨⟨fun husable text htext hrootless => ?_, fun hroot => ?_⟩, fun text htext hrootless => ?_⟩
  · obtain rfl := Option.mem_def.1 htext
    obtain ⟨base, hbase, hhead, -⟩ := exists_ofUri_of_rootless domain? hrootless
    rw [hbase] at husable
    exact hhead husable.1
  · match houtcome : ofUri uri domain? with
    | .error failure => exact ofUri_eq_error houtcome
    | .ok none => exact trivial
    | .ok (some base) => exact ⟨head?_of_ofUri houtcome hroot, getLast?_of_ofUri houtcome⟩
  · obtain rfl := Option.mem_def.1 htext
    obtain ⟨base, hbase, hhead, hne⟩ := exists_ofUri_of_rootless domain? hrootless
    exact ⟨base, hbase, fun path => withoutBase_of_head?_ne hhead hne⟩

/-- A host with a port has the form of a scheme with a path. -/
theorem rootless_hostPort : Rootless "localhost:8080/api".toList :=
  ⟨"localhost".toList, '8', "080/api".toList, by decide, by decide, by decide, by decide⟩

theorem base_kept_hostPort :
    Rootless "localhost:8080/api".toList ∧ ofUri (some "localhost:8080/api") = .ok (some "8080/api") ∧
      withoutBase (some "8080/api") "/8080/api/photo".toList = "/8080/api/photo".toList := by
  obtain ⟨-, hrootless⟩ := usable_ofUri_iff (some "localhost:8080/api") webDomain?
  obtain ⟨base, hbase, hkept⟩ := hrootless _ rfl rootless_hostPort
  have hport : ofUri (some "localhost:8080/api") = .ok (some "8080/api") := by decide
  obtain rfl : base = "8080/api" := by
    rw [hport] at hbase
    exact (Option.some.inj (Except.ok.inj hbase)).symm
  exact ⟨rootless_hostPort, hport, hkept _ rfl⟩

theorem not_usable_hostPort :
    ¬ Usable (some "localhost:8080/api") (ofUri (some "localhost:8080/api")) := by
  have hport : ofUri (some "localhost:8080/api") = .ok (some "8080/api") := by decide
  rw [hport]
  intro husable
  exact absurd husable.1 (by decide)

end BasePath

end ApiManual
