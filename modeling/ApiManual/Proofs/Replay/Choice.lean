import ApiManual.Replay.Responder
import Mathlib.Tactic.ByContra

/-!
# The earliest best recording

The recordings of an endpoint are gone through once, with the best so far at hand. A later one takes
its place only with more points. So what is left at the end has at least as many points as any
other, and more than any before it.
-/

namespace ApiManual

namespace Responder

/-- What is known of the best exchange among those that were gone through. -/
def Leads (score : Exchange → Option Nat) (done : List Exchange) : Option (Nat × Exchange) → Prop
  | none => ∀ exchange ∈ done, score exchange = none
  | some (top, best) =>
    ∃ before after, done = before ++ best :: after ∧ score best = some top ∧
      (∀ exchange ∈ before, ∀ points ∈ score exchange, points < top) ∧
      ∀ exchange ∈ after, ∀ points ∈ score exchange, points ≤ top

variable {score : Exchange → Option Nat} {done : List Exchange} {best : Option (Nat × Exchange)}
  {exchange : Exchange}

theorem Leads.skip (hleads : Leads score done best)
    (hskip : ∀ points ∈ score exchange, ∃ top ∈ best, points ≤ top.1) :
    Leads score (done ++ [exchange]) best := by
  cases best with
  | none =>
    intro other hother
    rcases List.mem_append.1 hother with hold | hnew
    · exact hleads other hold
    · rw [List.mem_singleton.1 hnew]
      by_contra hsome
      obtain ⟨points, hpoints⟩ := Option.ne_none_iff_exists'.1 hsome
      obtain ⟨top, htop, _⟩ := hskip points hpoints
      cases htop
  | some leader =>
    obtain ⟨before, after, hdone, hscore, hbefore, hafter⟩ := hleads
    refine ⟨before, after ++ [exchange], by simp [hdone], hscore, hbefore, ?_⟩
    intro other hother points hpoints
    rcases List.mem_append.1 hother with hold | hnew
    · exact hafter other hold points hpoints
    · rw [List.mem_singleton.1 hnew] at hpoints
      obtain ⟨top, htop, hle⟩ := hskip points hpoints
      obtain rfl := Option.mem_some_iff.1 htop
      exact hle

theorem Leads.replace {points : Nat} (hleads : Leads score done best)
    (hpoints : score exchange = some points) (hmore : ∀ top ∈ best, top.1 < points) :
    Leads score (done ++ [exchange]) (some (points, exchange)) := by
  refine ⟨done, [], rfl, hpoints, ?_, by simp⟩
  intro other hother points' hpoints'
  cases best with
  | none =>
    rw [hleads other hother] at hpoints'
    cases hpoints'
  | some leader =>
    obtain ⟨before, after, hdone, hscore, hbefore, hafter⟩ := hleads
    have htop : leader.1 < points := hmore leader rfl
    rw [hdone] at hother
    rcases List.mem_append.1 hother with hmem | hmem
    · exact Nat.lt_trans (hbefore other hmem points' hpoints') htop
    · rcases List.mem_cons.1 hmem with rfl | hmem
      · rw [hscore] at hpoints'
        obtain rfl := Option.mem_some_iff.1 hpoints'
        exact htop
      · exact Nat.lt_of_le_of_lt (hafter other hmem points' hpoints') htop

/-- Going through more exchanges keeps the best of all that were gone through. -/
theorem leads_bestOf (responder : Responder) (candidate : Request) (rest : List Exchange)
    (hleads : Leads (responder.scoreOf? candidate) done best) :
    Leads (responder.scoreOf? candidate) (done ++ rest) (responder.bestOf candidate best rest) := by
  induction rest generalizing done best with
  | nil => simpa [bestOf] using hleads
  | cons exchange rest ih =>
    rw [bestOf, List.append_cons]
    cases hscore : responder.scoreOf? candidate exchange with
    | none => exact ih (hleads.skip (by simp [hscore]))
    | some points =>
      dsimp only
      split
      · next hmore =>
        refine ih (hleads.replace hscore ?_)
        rintro top ⟨⟩
        simpa using hmore
      · next hless =>
        refine ih (hleads.skip ?_)
        intro points' hpoints'
        rw [hscore] at hpoints'
        obtain rfl := Option.mem_some_iff.1 hpoints'
        cases best with
        | none => exact absurd rfl hless
        | some top => exact ⟨top, rfl, by simpa using hless⟩

theorem leads_nil (score : Exchange → Option Nat) : Leads score [] none := by
  simp [Leads]

/-- If no exchange has more points than one of them, the earliest with as many is chosen. -/
theorem bestOf_eq_find? {responder : Responder} {candidate : Request} {exchanges : List Exchange}
    {greatest : Nat} (hmem : exchange ∈ exchanges)
    (hgreatest : responder.scoreOf? candidate exchange = some greatest)
    (hle : ∀ other ∈ exchanges, ∀ points ∈ responder.scoreOf? candidate other, points ≤ greatest) :
    ∃ chosen, responder.bestOf candidate none exchanges = some (greatest, chosen) ∧
      exchanges.find? (fun other => responder.scoreOf? candidate other == some greatest) =
        some chosen := by
  have hleads := leads_bestOf responder candidate exchanges (leads_nil _)
  rw [List.nil_append] at hleads
  cases hbest : responder.bestOf candidate none exchanges with
  | none =>
    rw [hbest] at hleads
    rw [hleads exchange hmem] at hgreatest
    cases hgreatest
  | some leader =>
    obtain ⟨top, chosen⟩ := leader
    rw [hbest] at hleads
    obtain ⟨before, after, hsplit, hscore, hbefore, hafter⟩ := hleads
    have htop : top ≤ greatest := hle chosen (by simp [hsplit]) top hscore
    have hreach : greatest ≤ top := by
      rw [hsplit] at hmem
      rcases List.mem_append.1 hmem with hbeforeMem | hrest
      · exact Nat.le_of_lt (hbefore exchange hbeforeMem greatest hgreatest)
      · rcases List.mem_cons.1 hrest with rfl | hafterMem
        · rw [hgreatest] at hscore
          exact Nat.le_of_eq (Option.some.inj hscore)
        · exact hafter exchange hafterMem greatest hgreatest
    obtain rfl : top = greatest := Nat.le_antisymm htop hreach
    refine ⟨chosen, rfl, ?_⟩
    rw [List.find?_eq_some_iff_append]
    refine ⟨by simp [hscore], before, after, hsplit, ?_⟩
    intro other hother
    simp only [Bool.not_eq_true', beq_eq_false_iff_ne]
    intro heq
    exact Nat.lt_irrefl _ (hbefore other hother top heq)

/-! ### The chosen exchange -/

/-- The endpoint that a request is routed to. -/
def home? (responder : Responder) (request : Request) : Option Endpoint :=
  Registry.route? responder.manual.registry (BasePath.relative responder.base request.path)
    request.method

/-- The request as the recordings are compared with it. -/
def candidate (responder : Responder) (request : Request) : Request :=
  { responder.relativeRequest request with method := lowercase request.method }

theorem choose?_eq (responder : Responder) (request : Request) :
    responder.choose? request = (responder.home? request).bind fun endpoint =>
      (responder.bestOf (responder.candidate request) none endpoint.exchanges).map (·.2) := by
  rw [choose?, home?]
  simp only [Option.bind_eq_bind, relativeRequest]
  congr 1
  funext endpoint
  exact (Option.map_eq_bind).symm

theorem respond_eq (responder : Responder) (request : Request) :
    responder.respond request = (responder.choose? request).elim notFound (·.response) := by
  delta respond
  cases responder.choose? request <;> rfl

/-- The exchange was recorded for the path of the request, relative to the base, and for its method. -/
def Eligible (responder : Responder) (request : Request) (exchange : Exchange) : Prop :=
  BasePath.relative responder.base exchange.request.path =
      BasePath.relative responder.base request.path ∧
    exchange.request.method = lowercase request.method

/-- How many features the recorded request shares with the one that is asked. -/
def points (responder : Responder) (request : Request) (exchange : Exchange) : Nat :=
  (Replay.sharedFeatures (responder.relativeRequest exchange.request)
    (responder.candidate request)).count true

variable {responder : Responder} {request : Request}

theorem scoreOf?_of_eligible (heligible : responder.Eligible request exchange) :
    responder.scoreOf? (responder.candidate request) exchange =
      some (responder.points request exchange) :=
  if_pos heligible

theorem scoreOf?_of_not_eligible (heligible : ¬ responder.Eligible request exchange) :
    responder.scoreOf? (responder.candidate request) exchange = none :=
  if_neg heligible

theorem scoreOf?_eq_some_iff {score : Nat} :
    responder.scoreOf? (responder.candidate request) exchange = some score ↔
      responder.Eligible request exchange ∧ responder.points request exchange = score := by
  by_cases heligible : responder.Eligible request exchange
  · rw [scoreOf?_of_eligible heligible, Option.some_inj, and_iff_right heligible]
  · simp [scoreOf?_of_not_eligible heligible, heligible]

/-- The exchange stands at the index, and no eligible one has more points or, before it, as many. -/
structure EarliestBest (responder : Responder) (request : Request) (exchanges : List Exchange)
    (index : Nat) (best : Exchange) : Prop where
  stands : exchanges[index]? = some best
  eligible : responder.Eligible request best
  most : ∀ other ∈ exchanges, responder.Eligible request other →
    responder.points request other ≤ responder.points request best
  earliest : ∀ earlier < index, ∀ other, exchanges[earlier]? = some other →
    responder.Eligible request other →
      responder.points request other < responder.points request best

variable {exchanges : List Exchange}

theorem EarliestBest.le {index later : Nat} {best other : Exchange}
    (hbest : responder.EarliestBest request exchanges index best)
    (hother : responder.EarliestBest request exchanges later other) : later ≤ index := by
  by_contra hbefore
  have hless := hother.earliest index (Nat.lt_of_not_le hbefore) best hbest.stands hbest.eligible
  have hmost := hbest.most other (List.mem_of_getElem? hother.stands) hother.eligible
  omega

theorem EarliestBest.unique {index later : Nat} {best other : Exchange}
    (hbest : responder.EarliestBest request exchanges index best)
    (hother : responder.EarliestBest request exchanges later other) : best = other := by
  obtain rfl : index = later := Nat.le_antisymm (hother.le hbest) (hbest.le hother)
  exact Option.some.inj (hbest.stands.symm.trans hother.stands)

theorem earliestBest_of_bestOf {score : Nat} {best : Exchange}
    (hbest : responder.bestOf (responder.candidate request) none exchanges = some (score, best)) :
    ∃ index, responder.EarliestBest request exchanges index best := by
  have hleads := leads_bestOf responder (responder.candidate request) exchanges (leads_nil _)
  rw [List.nil_append, hbest] at hleads
  obtain ⟨before, after, hsplit, hscore, hbefore, hafter⟩ := hleads
  obtain ⟨heligible, rfl⟩ := scoreOf?_eq_some_iff.1 hscore
  refine ⟨before.length, ?_, heligible, ?_, ?_⟩
  · rw [hsplit, List.getElem?_append_right (Nat.le_refl _), Nat.sub_self, List.getElem?_cons_zero]
  · intro other hother hother'
    have hpoints := scoreOf?_of_eligible hother'
    rw [hsplit] at hother
    rcases List.mem_append.1 hother with hmem | hmem
    · exact Nat.le_of_lt (hbefore other hmem _ hpoints)
    · rcases List.mem_cons.1 hmem with rfl | hmem
      · exact Nat.le_refl _
      · exact hafter other hmem _ hpoints
  · intro earlier hearlier other hother hother'
    rw [hsplit, List.getElem?_append_left hearlier] at hother
    exact hbefore other (List.mem_of_getElem? hother) _ (scoreOf?_of_eligible hother')

theorem bestOf_eq_none_iff :
    responder.bestOf (responder.candidate request) none exchanges = none ↔
      ∀ exchange ∈ exchanges, ¬ responder.Eligible request exchange := by
  constructor
  · intro hnone exchange hmem heligible
    have hleads := leads_bestOf responder (responder.candidate request) exchanges (leads_nil _)
    rw [List.nil_append, hnone] at hleads
    have hscore := hleads exchange hmem
    rw [scoreOf?_of_eligible heligible] at hscore
    cases hscore
  · intro hnot
    by_contra hsome
    obtain ⟨⟨score, best⟩, hbest⟩ := Option.ne_none_iff_exists'.1 hsome
    obtain ⟨index, hchosen⟩ := earliestBest_of_bestOf hbest
    exact hnot best (List.mem_of_getElem? hchosen.stands) hchosen.eligible

theorem choose?_eq_none_iff :
    responder.choose? request = none ↔
      ∀ endpoint, responder.home? request = some endpoint →
        ∀ exchange ∈ endpoint.exchanges, ¬ responder.Eligible request exchange := by
  rw [choose?_eq, Option.bind_eq_none_iff]
  refine forall₂_congr fun endpoint _ => ?_
  rw [Option.map_eq_none_iff, bestOf_eq_none_iff]

theorem choose?_eq_some_iff {best : Exchange} :
    responder.choose? request = some best ↔
      ∃ endpoint, responder.home? request = some endpoint ∧
        ∃ index, responder.EarliestBest request endpoint.exchanges index best := by
  rw [choose?_eq, Option.bind_eq_some_iff]
  refine exists_congr fun endpoint => and_congr_right fun _ => ?_
  rw [Option.map_eq_some_iff]
  constructor
  · rintro ⟨⟨score, chosen⟩, hbest, rfl⟩
    exact earliestBest_of_bestOf hbest
  · rintro ⟨index, hbest⟩
    have hsome : responder.bestOf (responder.candidate request) none endpoint.exchanges ≠ none := by
      intro hnone
      exact bestOf_eq_none_iff.1 hnone best (List.mem_of_getElem? hbest.stands) hbest.eligible
    obtain ⟨⟨score, chosen⟩, hchosen⟩ := Option.ne_none_iff_exists'.1 hsome
    obtain ⟨_, hother⟩ := earliestBest_of_bestOf hchosen
    exact ⟨_, hchosen, hother.unique hbest⟩

/-- **The earliest best recording is chosen.** No recording is chosen exactly when the request is routed
to no endpoint, or to one without a recording for its path and method. Otherwise it is the recording
of that endpoint that has at least as many points as any other for the path and method, and more than
any before it. The answer is the recorded response, or else the one that says that there is none. -/
theorem chooses_earliest_best (responder : Responder) (request : Request) :
    (responder.choose? request = none ↔
      ∀ endpoint, responder.home? request = some endpoint →
        ∀ exchange ∈ endpoint.exchanges, ¬ responder.Eligible request exchange) ∧
    (∀ best, responder.choose? request = some best ↔
      ∃ endpoint, responder.home? request = some endpoint ∧
        ∃ index, responder.EarliestBest request endpoint.exchanges index best) ∧
    (∀ best, responder.choose? request = some best → responder.respond request = best.response) ∧
    (responder.choose? request = none →
      responder.respond request = ⟨404, some "Example Not Found", .empty, some ""⟩) := by
  refine ⟨choose?_eq_none_iff, fun best => choose?_eq_some_iff, fun best hbest => ?_, fun hnone => ?_⟩
  · rw [respond_eq, hbest, Option.elim_some]
  · rw [respond_eq, hnone, Option.elim_none, notFound]

def itemExchange (query : List (String × String)) (status : Nat) : Exchange where
  request := { Request.bare "get" "/item" with query := FieldMap.ofPairs query }
  response := ⟨status, none, .empty, none⟩
  visible := false

/-- Three recordings for the same path. The last two score the same for any other query. -/
def itemResponder : Responder where
  base := none
  manual :=
    { title := "Items"
      version := none
      baseUri := none
      mediaType := none
      protocols := []
      articles := []
      registry := .insertAll .empty [{ Endpoint.bare "/item" "get" with
        exchanges := [itemExchange [] 204, itemExchange [("a", "1")] 200,
          itemExchange [("a", "1")] 201] }] }

theorem chooses_earliest_item :
    itemResponder.choose? (itemExchange [("a", "2")] 0).request =
        some (itemExchange [("a", "1")] 200) ∧
      itemResponder.respond (itemExchange [("a", "2")] 0).request =
        (itemExchange [("a", "1")] 200).response := by
  have hchosen : itemResponder.choose? (itemExchange [("a", "2")] 0).request =
      some (itemExchange [("a", "1")] 200) := rfl
  exact ⟨hchosen, (chooses_earliest_best itemResponder _).2.2.1 _ hchosen⟩

end Responder

end ApiManual
