import ApiManual.Proofs.BasePath.Usable
import ApiManual.Proofs.Host.Session
import ApiManual.Proofs.Manual.Recording
import ApiManual.Proofs.Registry.Grouping
import ApiManual.Proofs.Replay.ExactReplay

/-!
# Attaching an archive

The exchanges of an archive are attached to a manual one after the other, and each is routed by the
manual as the ones before it have left it. Recording changes no path and no method, so all of them are
routed as by the manual at the start, and none is lost or recorded twice: the exchanges that the manual
has more at the end are as many as were counted. When the base URI is no URI there is no base to take
off a path, and the manual is left as it was.
-/

namespace ApiManual

namespace Manual

variable {base : Option String} {manual recorded : Manual} {exchanges : List Exchange}

/-! ### The manual that is worked on -/

/-- Records an exchange in the manual that is worked on, and counts it if an endpoint takes it. -/
def attachOne (base : Option String) (count : Nat) (exchange : Exchange) :
    Task (StateM Manual) Nat := do
  match (← get).record? base exchange with
  | some recorded =>
    set recorded
    return count + 1
  | none => return count

/-- Attaches exchanges to the manual that is worked on, which is still there when this fails. The base
is read once, before the first exchange. -/
def attachAll (exchanges : List Exchange) : Task (StateM Manual) Nat := do
  let base ← Task.ofExcept (← get).basePath
  exchanges.foldlM (attachOne base) 0

theorem run_attachOne (base : Option String) (manual : Manual) (count : Nat) (exchange : Exchange) :
    (attachOne base count exchange).run manual =
      match manual.record? base exchange with
      | some recorded => (.ok (count + 1), recorded)
      | none => (.ok count, manual) := by
  rw [attachOne, Task.run_bind]
  change (match manual.record? base exchange with
    | some recorded => (do set recorded; return count + 1 : Task (StateM Manual) Nat)
    | none => return count).run manual = _
  cases manual.record? base exchange <;> rfl

theorem run_foldlM_attachOne (base : Option String) (manual : Manual) (exchanges : List Exchange)
    (count : Nat) :
    let outcome := exchanges.foldl
      (fun (manual, count) exchange =>
        match manual.record? base exchange with
        | some recorded => (recorded, count + 1)
        | none => (manual, count))
      (manual, count)
    (exchanges.foldlM (attachOne base) count).run manual = (.ok outcome.2, outcome.1) := by
  induction exchanges generalizing manual count with
  | nil => rfl
  | cons exchange exchanges ih =>
    rw [List.foldlM_cons, Task.run_bind, run_attachOne]
    simp only [List.foldl_cons]
    cases manual.record? base exchange with
    | none => exact ih manual count
    | some next => exact ih next (count + 1)

/-- The manual that is worked on becomes what attaching gives, and stays as it was when attaching
fails. -/
theorem run_attachAll (manual : Manual) (exchanges : List Exchange) :
    (attachAll exchanges).run manual =
      match manual.attach exchanges with
      | .ok (recorded, count) => (.ok count, recorded)
      | .error failure => (.error failure, manual) := by
  rw [attachAll, Task.run_bind, attach]
  change ((Task.ofExcept manual.basePath : Task (StateM Manual) _) >>= fun base =>
    exchanges.foldlM (attachOne base) 0).run manual = _
  rw [Task.run_bind]
  cases manual.basePath with
  | error failure => rfl
  | ok base => exact run_foldlM_attachOne base manual exchanges 0

/-! ### What is attached -/

/-- The exchange is routed to some endpoint of the manual. -/
def routed (base : Option String) (manual : Manual) (exchange : Exchange) : Bool :=
  (manual.homeOf base exchange).isSome

theorem key_mem_of_homeOf {exchange : Exchange} {key : String}
    (hhome : manual.homeOf base exchange = some key) : key ∈ manual.registry.keys := by
  obtain ⟨endpoint, hroute, rfl⟩ := Option.map_eq_some_iff.1 hhome
  exact List.mem_map_of_mem (Registry.of_route?_eq_some hroute).1

/-- What the endpoints get is, all together, what is routed, each exchange once. -/
theorem flatMap_recordedAt_perm (base : Option String) (manual : Manual)
    (exchanges : List Exchange) :
    (manual.registry.items.flatMap fun endpoint =>
        manual.recordedAt base exchanges endpoint.key).Perm
      (exchanges.filter (manual.routed base)) := by
  have hkeys : (manual.registry.keys.map some).Nodup :=
    manual.registry.distinct.map fun _ _ => Option.some.inj
  have hhomes : ∀ exchange ∈ exchanges.filter (manual.routed base),
      manual.homeOf base exchange ∈ manual.registry.keys.map some := by
    intro exchange hmem
    obtain ⟨key, hhome⟩ := Option.isSome_iff_exists.1 (List.mem_filter.1 hmem).2
    rw [hhome]
    exact List.mem_map_of_mem (key_mem_of_homeOf hhome)
  have hat : ∀ key, manual.recordedAt base exchanges key =
      (exchanges.filter (manual.routed base)).filter (manual.homeOf base · == some key) := by
    intro key
    rw [recordedAt, List.filter_filter]
    refine List.filter_congr fun exchange _ => ?_
    by_cases hhome : manual.homeOf base exchange = some key
    · simp [routed, hhome]
    · simp [hhome]
  have hperm := Registry.flatMap_filter_perm (manual.homeOf base) hkeys hhomes
  rw [Keyed.keys, List.map_map, List.flatMap_map] at hperm
  simp only [hat]
  exact hperm

theorem Records.keys_eq (hrecords : Records base exchanges manual recorded) :
    recorded.registry.keys = manual.registry.keys := by
  rw [Keyed.keys, hrecords.items]
  exact Keyed.map_map_key_eq fun _ _ => rfl

/-- What is routed to an endpoint belongs to what is recorded with it. -/
theorem mem_recordedAt_of_route? {exchange : Exchange} (hmem : exchange ∈ exchanges)
    {endpoint : Endpoint}
    (hroute : manual.registry.route? (BasePath.relative base exchange.request.path)
      exchange.request.method = some endpoint) :
    exchange ∈ manual.recordedAt base exchanges endpoint.key := by
  refine List.mem_filter.2 ⟨hmem, ?_⟩
  rw [decide_eq_true_eq, homeOf, hroute, Option.map_some]

/-- The second manual is the first with the exchanges attached that it routes, of which there are
`count`. Every endpoint keeps its place, its key and what it had, and gets the exchanges that are routed
to it behind its own ones, in their order. Each exchange that is routed is attached once. -/
structure Attached (base : Option String) (exchanges : List Exchange) (manual recorded : Manual)
    (count : Nat) : Prop where
  records : Records base exchanges manual recorded
  keys : recorded.registry.keys = manual.registry.keys
  found : ∀ exchange ∈ exchanges, ∀ endpoint,
    manual.registry.route? (BasePath.relative base exchange.request.path) exchange.request.method =
        some endpoint →
      endpoint ∈ manual.registry.items ∧
        exchange ∈ manual.recordedAt base exchanges endpoint.key
  once : (manual.registry.items.flatMap fun endpoint =>
    manual.recordedAt base exchanges endpoint.key).Perm (exchanges.filter (manual.routed base))
  count : count = exchanges.countP (manual.routed base)

theorem attached_recordAll (base : Option String) (manual : Manual) (exchanges : List Exchange) :
    Attached base exchanges manual (manual.recordAll base exchanges).1
      (manual.recordAll base exchanges).2 := by
  obtain ⟨hrecords, hcount⟩ := records_recordAll base manual exchanges
  exact {
    records := hrecords
    keys := hrecords.keys_eq
    found := fun _ hmem _ hroute =>
      ⟨(Registry.of_route?_eq_some hroute).1, mem_recordedAt_of_route? hmem hroute⟩
    once := flatMap_recordedAt_perm base manual exchanges
    count := hcount }

/-- The only way to fail is a base URI that is none. -/
theorem basePath_eq_error {failure : Failure} (hbase : manual.basePath = .error failure) :
    ∃ uri, manual.baseUri = some uri ∧ failure = .invalidBaseUri uri := by
  obtain ⟨uri, huri, hfailure⟩ := BasePath.ofUri_eq_error hbase
  exact ⟨uri, huri, hfailure⟩

/-- **Attaching is exact.** With a base path, attaching an archive counts the exchanges that the manual
as it was before routes to some endpoint. Each of them is appended once, in the order of the archive, to
the endpoint that it is routed to, and nothing else changes. Without one, because the base URI is
invalid, attaching fails and the manual that is worked on is still the same. -/
theorem attach_exact (manual : Manual) (archive : Archive) :
    (∀ base, manual.basePath = .ok base → ∃ recorded count,
      manual.attach archive.exchanges = .ok (recorded, count) ∧
        (attachAll archive.exchanges).run manual = (.ok count, recorded) ∧
        Attached base archive.exchanges manual recorded count) ∧
    ∀ failure, manual.basePath = .error failure →
      (∃ uri, manual.baseUri = some uri ∧ failure = .invalidBaseUri uri) ∧
        manual.attach archive.exchanges = .error failure ∧
        (attachAll archive.exchanges).run manual = (.error failure, manual) := by
  constructor
  · intro base hbase
    have hattach : manual.attach archive.exchanges =
        .ok (manual.recordAll base archive.exchanges) := by
      rw [attach, hbase]
      rfl
    refine ⟨(manual.recordAll base archive.exchanges).1, (manual.recordAll base archive.exchanges).2,
      hattach, ?_, attached_recordAll base manual archive.exchanges⟩
    rw [run_attachAll, hattach]
  · intro failure hbase
    have hattach : manual.attach archive.exchanges = .error failure := by
      rw [attach, hbase]
      rfl
    refine ⟨basePath_eq_error hbase, hattach, ?_⟩
    rw [run_attachAll, hattach]

/-- The photos under a base URI that is none. -/
def strayManual : Manual := { Responder.photoManual with baseUri := some "photos" }

/-- Of five exchanges four are routed, all to one endpoint, behind the exchange it has already. -/
theorem attach_photoRecords :
    (∃ recorded count,
      Responder.basedManual.attach (Archive.holding Responder.photoRecords).exchanges =
          .ok (recorded, count) ∧
        Attached (some "/api/v1") Responder.photoRecords Responder.basedManual recorded count ∧
        count = 4 ∧
        recorded.registry.items.map Endpoint.exchanges =
          [Responder.photoExchange :: Responder.photoRecords.take 4, []]) ∧
      (attachAll (Archive.holding Responder.photoRecords).exchanges).run strayManual =
        (.error (.invalidBaseUri "photos"), strayManual) := by
  obtain ⟨hbased, -⟩ :=
    attach_exact Responder.basedManual (Archive.holding Responder.photoRecords)
  obtain ⟨-, hstray⟩ := attach_exact strayManual (Archive.holding Responder.photoRecords)
  obtain ⟨recorded, count, hattach, -, hattached⟩ := hbased (some "/api/v1") rfl
  refine ⟨⟨recorded, count, hattach, ?_⟩, (hstray (.invalidBaseUri "photos") rfl).2.2⟩
  rw [Responder.exchanges_photoRecords] at hattached
  refine ⟨hattached, ?_, ?_⟩
  · rw [hattached.count]
    decide
  · rw [hattached.records.items]
    rfl

end Manual

end ApiManual
