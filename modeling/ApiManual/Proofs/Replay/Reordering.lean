import ApiManual.Proofs.Exchange.Rereading
import ApiManual.Replay.Responder

/-!
# The order of headers and fields does not matter to a responder

A recorded exchange whose headers and fields come in another order has the same score for every
request, so the same exchange is chosen.
-/

namespace ApiManual

theorem BodyFormat.ofHeaders?_reordered (headers : HeaderMap) :
    ofHeaders? headers.reordered = ofHeaders? headers := by
  rw [ofHeaders?, ofHeaders?, HeaderMap.get?_congr headers.reordered_perm]

theorem Request.bodyValue?_reordered (request : Request) :
    request.reordered.bodyValue? = request.bodyValue? := by
  have hformat := BodyFormat.ofHeaders?_reordered request.headers
  simp only [bodyValue?, ApiManual.bodyValue?, reordered, hformat]

namespace Replay

theorem sameFormNames_reordered (form other : Option FieldMap) :
    sameFormNames (form.map FieldMap.reordered) other = sameFormNames form other := by
  cases form with
  | none => rfl
  | some fields =>
    cases other with
    | none => rfl
    | some others =>
      have hempty := FieldMap.isEmpty_reordered fields
      have hnames := FieldMap.sameNames_congr (FieldMap.reordered_perm fields)
        (List.Perm.refl others.items)
      simp only [Option.map_some, sameFormNames, hempty, hnames]

theorem sharedFeatures_reordered (recorded candidate : Request) :
    sharedFeatures recorded.reordered candidate = sharedFeatures recorded candidate := by
  have hquery := FieldMap.reordered_perm recorded.query
  have hheaders := recorded.headers.reordered_perm
  have hnames := FieldMap.sameNames_congr hquery (List.Perm.refl candidate.query.items)
  have hvalues := FieldMap.same_congr hquery (List.Perm.refl candidate.query.items)
  have hsame := HeaderMap.same_congr hheaders (List.Perm.refl candidate.headers.items)
  have hforms := sameFormNames_reordered recorded.form candidate.form
  have hform := Request.sameForm_reordered recorded.form candidate.form
  simp only [sharedFeatures, Request.bodyValue?_reordered]
  simp only [Request.reordered, hnames, hvalues, hsame, hforms, hform]

theorem score?_reordered (recorded candidate : Request) :
    score? recorded.reordered candidate = score? recorded candidate := by
  rw [score?, score?, sharedFeatures_reordered]
  rfl

end Replay

namespace Responder

/-- The score depends on nothing of a responder but its base. -/
theorem scoreOf?_reordered (fresh served : Responder) (hbase : served.base = fresh.base)
    (candidate : Request) (exchange : Exchange) :
    served.scoreOf? candidate exchange.reordered = fresh.scoreOf? candidate exchange := by
  have hrelative : served.relativeRequest exchange.reordered.request =
      (fresh.relativeRequest exchange.request).reordered := by
    rw [relativeRequest, hbase]
    rfl
  rw [scoreOf?, scoreOf?, hrelative, Replay.score?_reordered]

theorem bestOf_reordered (fresh served : Responder) (hbase : served.base = fresh.base)
    (candidate : Request) (best : Option (Nat × Exchange)) (exchanges : List Exchange) :
    served.bestOf candidate (best.map fun (top, leader) => (top, leader.reordered))
        (exchanges.map Exchange.reordered) =
      (fresh.bestOf candidate best exchanges).map fun (top, leader) => (top, leader.reordered) := by
  induction exchanges generalizing best with
  | nil => rfl
  | cons exchange exchanges ih =>
    have hscore := scoreOf?_reordered fresh served hbase candidate exchange
    rw [List.map_cons, bestOf, bestOf, hscore]
    cases fresh.scoreOf? candidate exchange with
    | none => exact ih best
    | some points =>
      have hbest : (best.map fun (top, leader) => (top, leader.reordered)).all
          (fun (top, _) => points > top) = best.all fun (top, _) => points > top := by
        cases best <;> rfl
      dsimp only
      rw [hbest]
      split
      · exact ih (some (points, exchange))
      · exact ih best

end Responder

end ApiManual
