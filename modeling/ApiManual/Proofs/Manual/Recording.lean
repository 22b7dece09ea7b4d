import ApiManual.Manual
import ApiManual.Proofs.Registry.Routing

/-!
# Recording exchanges

Recorded exchanges are appended to the endpoints that their requests are routed to, and nothing else
changes. In particular paths and methods stay, so every later exchange is routed as it would have
been before, and a whole list can be described by the routes of the manual it was recorded in.
-/

namespace ApiManual

def Endpoint.extended (endpoint : Endpoint) (more : List Exchange) : Endpoint :=
  { endpoint with exchanges := endpoint.exchanges ++ more }

theorem Endpoint.extended_extended (endpoint : Endpoint) (first second : List Exchange) :
    (endpoint.extended first).extended second = endpoint.extended (first ++ second) := by
  simp [extended]

theorem Endpoint.extended_nil (endpoint : Endpoint) : endpoint.extended [] = endpoint := by
  simp [extended]

@[simp]
theorem Endpoint.key_extended (endpoint : Endpoint) (more : List Exchange) :
    (endpoint.extended more).key = endpoint.key := rfl

namespace Manual

/-- The key of the endpoint that an exchange is recorded with, if there is one. -/
def homeOf (base : Option String) (manual : Manual) (exchange : Exchange) : Option String :=
  (manual.registry.route? (BasePath.relative base exchange.request.path)
    exchange.request.method).map Endpoint.key

/-- Those of some exchanges that are recorded with the endpoint at a key. -/
def recordedAt (base : Option String) (manual : Manual) (exchanges : List Exchange)
    (key : String) : List Exchange :=
  exchanges.filter fun exchange => manual.homeOf base exchange = some key

/-- The second manual is the first with some exchanges recorded, each where it belongs. -/
structure Records (base : Option String) (exchanges : List Exchange) (manual recorded : Manual) :
    Prop where
  rest : recorded = { manual with registry := recorded.registry }
  items : recorded.registry.items = manual.registry.items.map fun endpoint =>
    endpoint.extended (manual.recordedAt base exchanges endpoint.key)

variable {base : Option String} {manual recorded : Manual} {exchanges : List Exchange}

theorem Records.route?_eq (hrecords : Records base exchanges manual recorded)
    (path method : String) :
    recorded.registry.route? path method = (manual.registry.route? path method).map fun endpoint =>
      endpoint.extended (manual.recordedAt base exchanges endpoint.key) :=
  Registry.route?_eq_map hrecords.items (fun _ _ => rfl) (fun _ _ => rfl) path method

theorem Records.homeOf_eq (hrecords : Records base exchanges manual recorded)
    (exchange : Exchange) : recorded.homeOf base exchange = manual.homeOf base exchange := by
  rw [homeOf, homeOf, hrecords.route?_eq, Option.map_map]
  rfl

theorem Records.nil : Records base [] manual manual where
  rest := rfl
  items := by simp [recordedAt, Endpoint.extended_nil]

theorem Records.cons {exchange : Exchange} {next : Manual}
    (hfirst : Records base [exchange] manual next) (hrest : Records base exchanges next recorded) :
    Records base (exchange :: exchanges) manual recorded where
  rest := by
    rw [hrest.rest, hfirst.rest]
  items := by
    have hat : ∀ key,
        next.recordedAt base exchanges key = manual.recordedAt base exchanges key := by
      intro key
      simp only [recordedAt, hfirst.homeOf_eq]
    have happend : ∀ key, manual.recordedAt base (exchange :: exchanges) key =
        manual.recordedAt base [exchange] key ++ manual.recordedAt base exchanges key := by
      intro key
      simp only [recordedAt, ← List.filter_append, List.singleton_append]
    rw [hrest.items, hfirst.items, List.map_map]
    simp only [Function.comp_def, Endpoint.extended_extended, Endpoint.key_extended, hat, happend]

theorem records_record? (base : Option String) (manual : Manual) (exchange : Exchange) :
    Records base [exchange] manual ((manual.record? base exchange).getD manual) := by
  cases hroute : manual.registry.route? (BasePath.relative base exchange.request.path)
      exchange.request.method with
  | none =>
    have hhome : manual.homeOf base exchange = none := by rw [homeOf, hroute, Option.map_none]
    have hrecord : manual.record? base exchange = none := by
      simp only [record?, Registry.record?_eq_map, hroute, Option.map_none]
    rw [hrecord, Option.getD_none]
    refine ⟨rfl, ?_⟩
    simp [recordedAt, hhome, Endpoint.extended_nil]
  | some endpoint =>
    have hhome : manual.homeOf base exchange = some endpoint.key := by
      rw [homeOf, hroute, Option.map_some]
    have hrecord : manual.record? base exchange =
        some { manual with
          registry := manual.registry.adjust endpoint.key (·.addExchange exchange) } := by
      simp only [record?, Registry.record?_eq_map, hroute, Option.map_some]
    rw [hrecord, Option.getD_some]
    refine ⟨rfl, List.map_congr_left fun other _ => ?_⟩
    by_cases hkey : other.key = endpoint.key
    · rw [Keyed.adjustItem, if_pos ⟨hkey, hkey⟩]
      simp [recordedAt, hhome, hkey, Endpoint.extended, Endpoint.addExchange]
    · rw [Keyed.adjustItem, if_neg (fun hboth => hkey hboth.1)]
      simp [recordedAt, hhome, Ne.symm hkey, Endpoint.extended_nil]

theorem isSome_record? (base : Option String) (manual : Manual) (exchange : Exchange) :
    (manual.record? base exchange).isSome = (manual.homeOf base exchange).isSome := by
  simp [record?, Registry.record?_eq_map, homeOf]

theorem records_foldl (base : Option String) (manual : Manual) (exchanges : List Exchange)
    (count : Nat) :
    let outcome := exchanges.foldl
      (fun (manual, count) exchange =>
        match manual.record? base exchange with
        | some recorded => (recorded, count + 1)
        | none => (manual, count))
      (manual, count)
    Records base exchanges manual outcome.1 ∧
      outcome.2 =
        count + exchanges.countP fun exchange => (manual.homeOf base exchange).isSome := by
  induction exchanges generalizing manual count with
  | nil => exact ⟨.nil, rfl⟩
  | cons exchange exchanges ih =>
    have hfirst := records_record? base manual exchange
    have hsome := isSome_record? base manual exchange
    simp only [List.foldl_cons, List.countP_cons]
    cases hrecord : manual.record? base exchange with
    | none =>
      rw [hrecord, Option.getD_none] at hfirst
      rw [hrecord] at hsome
      dsimp only
      obtain ⟨hrest, hcount⟩ := ih manual count
      refine ⟨hfirst.cons hrest, hcount.trans ?_⟩
      simp [← hsome]
    | some next =>
      rw [hrecord, Option.getD_some] at hfirst
      rw [hrecord] at hsome
      dsimp only
      obtain ⟨hrest, hcount⟩ := ih next (count + 1)
      refine ⟨hfirst.cons hrest, hcount.trans ?_⟩
      simp only [hfirst.homeOf_eq, ← hsome, Option.isSome_some, if_true]
      omega

/-- **Recording is exact.** Every exchange is appended to the endpoint that the manual routes it to,
in the order of the list, and to no other. Nothing else changes, and the count is that of the
exchanges that are routed at all. -/
theorem records_recordAll (base : Option String) (manual : Manual) (exchanges : List Exchange) :
    Records base exchanges manual (manual.recordAll base exchanges).1 ∧
      (manual.recordAll base exchanges).2 =
        exchanges.countP fun exchange => (manual.homeOf base exchange).isSome := by
  obtain ⟨hrecords, hcount⟩ := records_foldl base manual exchanges 0
  exact ⟨hrecords, hcount.trans (Nat.zero_add _)⟩

/-- Attaching is recording under the base path, which the exchanges do not change. -/
theorem records_of_attach {count : Nat}
    (hattach : manual.attach exchanges = .ok (recorded, count)) :
    ∃ base, manual.basePath = .ok base ∧ recorded.basePath = .ok base ∧
      Records base exchanges manual recorded := by
  unfold attach at hattach
  cases hbase : manual.basePath with
  | error failure =>
    rw [hbase] at hattach
    cases hattach
  | ok base =>
    rw [hbase] at hattach
    have hrecord : manual.recordAll base exchanges = (recorded, count) := Except.ok.inj hattach
    have hrecords := (records_recordAll base manual exchanges).1
    rw [hrecord] at hrecords
    dsimp only at hrecords
    have hsame : recorded.basePath = manual.basePath := by
      rw [hrecords.rest]
      rfl
    exact ⟨base, rfl, hsame.trans hbase, hrecords⟩

end Manual

end ApiManual
