import ApiManual.Proofs.Manual.Recording
import ApiManual.Proofs.Manual.Rereading
import ApiManual.Proofs.Registry.Arrangement
import ApiManual.Report

/-!
# Manuals that are built from sources

The documented endpoints of a built manual come from drafts, without any exchange. So all exchanges
that they have later were recorded, and each of them stands where its request is routed to.
-/

namespace ApiManual

/-- The endpoint is as a draft makes it. -/
structure Endpoint.Drafted (endpoint : Endpoint) : Prop where
  written : endpoint.Written
  exchanges : endpoint.exchanges = []
  documented : endpoint.companion = false

theorem Endpoint.Drafted.addParam {endpoint : Endpoint} (hdrafted : endpoint.Drafted)
    {param : Param} (hwritten : param.Written) : (endpoint.addParam param).Drafted := by
  obtain ⟨⟨hmethod, hparams, hexchanges⟩, hnone, hdocumented⟩ := hdrafted
  have hadded : ∀ carrier, ∀ added ∈ (endpoint.addParam param).params carrier,
      added ∈ endpoint.params carrier ∨ added = param ∧ param.carrier = carrier := by
    intro carrier added hmem
    unfold Endpoint.addParam at hmem
    split at hmem <;> cases carrier <;>
      simp_all [Endpoint.params]
  have hframe : (endpoint.addParam param).method = endpoint.method ∧
      (endpoint.addParam param).exchanges = endpoint.exchanges ∧
      (endpoint.addParam param).companion = endpoint.companion := by
    unfold Endpoint.addParam
    split <;> exact ⟨rfl, rfl, rfl⟩
  refine ⟨⟨by rwa [hframe.1], fun carrier added hmem => ?_, by rwa [hframe.2.1]⟩,
    by rw [hframe.2.1, hnone], by rw [hframe.2.2, hdocumented]⟩
  rcases hadded carrier added hmem with hold | ⟨rfl, hcarrier⟩
  · exact hparams carrier added hold
  · exact ⟨hwritten, hcarrier⟩

theorem Endpoint.Drafted.addParams {endpoint : Endpoint} (hdrafted : endpoint.Drafted)
    {params : List Param} (hwritten : ∀ param ∈ params, param.Written) :
    (endpoint.addParams params).Drafted := by
  induction params generalizing endpoint with
  | nil => exact hdrafted
  | cons param params ih =>
    refine ih (hdrafted.addParam (hwritten param (List.mem_cons_self ..))) ?_
    intro later hlater
    exact hwritten later (List.mem_cons_of_mem _ hlater)

theorem DraftParam.written_toParam (param : DraftParam) : param.toParam.Written where
  minLength := by rintro length ⟨⟩
  maxLength := by rintro length ⟨⟩

theorem Draft.drafted_toEndpoint? {draft : Draft} {endpoint : Endpoint}
    (hendpoint : draft.toEndpoint? = some endpoint) : endpoint.Drafted := by
  obtain ⟨method, _, rfl⟩ := Option.map_eq_some_iff.1 hendpoint
  refine Endpoint.Drafted.addParams ⟨⟨?_, ?_, ?_⟩, rfl, rfl⟩ ?_
  · dsimp only [Endpoint.bare]
    exact lowercase_lowercase method
  · rintro (_ | _ | _ | _) param ⟨⟩
  · rintro exchange ⟨⟩
  · intro param hparam
    obtain ⟨written, _, rfl⟩ := List.mem_map.1 hparam
    exact written.written_toParam

/-- The documented endpoints of a built manual come from drafts. -/
theorem Report.exists_draft_of_documented {settings : Settings} {sources : List SourceFile}
    {endpoint : Endpoint}
    (hmem : endpoint ∈ Registry.documented (ofSources settings sources).manual.registry) :
    ∃ draft ∈ (SourceFile.readAll settings.delimiters sources).drafts,
      draft.toEndpoint? = some endpoint := by
  obtain ⟨hitem, hdocumented⟩ := List.mem_filter.1 hmem
  rcases Registry.mem_or_companion_of_mem_insertAll hitem with hempty | hdraft | ⟨path, rfl⟩
  · cases hempty
  · exact List.mem_filterMap.1 hdraft
  · cases hdocumented

theorem Report.drafted_of_documented {settings : Settings} {sources : List SourceFile}
    {endpoint : Endpoint}
    (hmem : endpoint ∈ Registry.documented (ofSources settings sources).manual.registry) :
    endpoint.Drafted := by
  obtain ⟨draft, -, hendpoint⟩ := exists_draft_of_documented hmem
  exact Draft.drafted_toEndpoint? hendpoint

namespace Manual

variable {base : Option String} {manual recorded : Manual} {exchanges : List Exchange}

/-- Every documented endpoint can be written, and has only exchanges whose requests are routed to
it. -/
structure Settled (base : Option String) (manual : Manual) : Prop where
  written : ∀ endpoint ∈ Registry.documented manual.registry, endpoint.Written
  home : ∀ endpoint ∈ Registry.documented manual.registry, ∀ exchange ∈ endpoint.exchanges,
    manual.homeOf base exchange = some endpoint.key

theorem Records.exists_of_documented (hrecords : Records base exchanges manual recorded)
    {endpoint : Endpoint} (hmem : endpoint ∈ Registry.documented recorded.registry) :
    ∃ bare ∈ Registry.documented manual.registry,
      endpoint = bare.extended (manual.recordedAt base exchanges bare.key) := by
  obtain ⟨hitem, hdocumented⟩ := List.mem_filter.1 hmem
  rw [hrecords.items] at hitem
  obtain ⟨bare, hbare, rfl⟩ := List.mem_map.1 hitem
  exact ⟨bare, List.mem_filter.2 ⟨hbare, hdocumented⟩, rfl⟩

/-- Recording in a manual without exchanges puts every exchange where it belongs. -/
theorem Records.settled (hrecords : Records base exchanges manual recorded)
    (hdrafted : ∀ endpoint ∈ Registry.documented manual.registry, endpoint.Drafted)
    (hwritten : ∀ exchange ∈ exchanges, exchange.Written) : recorded.Settled base where
  written endpoint hmem := by
    obtain ⟨bare, hbare, rfl⟩ := hrecords.exists_of_documented hmem
    have hdraft := hdrafted bare hbare
    refine ⟨hdraft.written.method, hdraft.written.params, fun exchange hexchange => ?_⟩
    rw [Endpoint.extended, hdraft.exchanges, List.nil_append] at hexchange
    exact hwritten exchange (List.mem_of_mem_filter hexchange)
  home endpoint hmem exchange hexchange := by
    obtain ⟨bare, hbare, rfl⟩ := hrecords.exists_of_documented hmem
    rw [Endpoint.extended, (hdrafted bare hbare).exchanges, List.nil_append] at hexchange
    have hhome := (List.mem_filter.1 hexchange).2
    rw [hrecords.homeOf_eq, Endpoint.key_extended]
    exact of_decide_eq_true hhome

theorem Records.arranged (hrecords : Records base exchanges manual recorded)
    (harranged : Registry.Arranged manual.registry.items) :
    Registry.Arranged recorded.registry.items := by
  rw [hrecords.items]
  exact harranged.map ⟨fun _ _ => rfl, fun _ _ => rfl, fun _ _ hdocumented => hdocumented⟩

end Manual

end ApiManual
