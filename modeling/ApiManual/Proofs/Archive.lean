import ApiManual.Archive
import ApiManual.Proofs.Exchange.Rereading

/-!
# What an archive holds

The exchanges of an archive are read from JSON, so they are such as JSON tells apart.
-/

namespace ApiManual.Archive

theorem exchangeOf?_toUTF8 (text : String) :
    exchangeOf? text.toUTF8 = (Json.read? text).bind Exchange.ofJson? := by
  have htext : String.fromUTF8? text.toUTF8 = some text := dif_pos text.isValidUTF8
  rw [exchangeOf?, htext]
  rfl

theorem written_of_mem {archive : Archive} {exchange : Exchange}
    (hmem : exchange ∈ archive.exchanges) : exchange.Written := by
  obtain ⟨name, _, hfile⟩ := List.mem_filterMap.1 hmem
  obtain ⟨content, _, hcontent⟩ := Option.bind_eq_some_iff.1 hfile
  simp only [exchangeOf?, Option.bind_eq_bind, Option.bind_eq_some_iff] at hcontent
  obtain ⟨_, _, _, _, hread⟩ := hcontent
  exact Exchange.written_of_ofJson? hread

def single (text : String) : Archive where
  files := some (Keyed.ofList _ [(recordName 0 "0", text.toUTF8)])

theorem exchanges_single (text : String) :
    (single text).exchanges = ((Json.read? text).bind Exchange.ofJson?).toList := by
  have hnames : recordNames (single text).fileNames = [↑(recordName 0 "0")] := by
    have hfiles : (single text).fileNames = [↑(recordName 0 "0")] := rfl
    rw [hfiles]
    cbv
  have hcontent : (single text).content? (recordName 0 "0") = some text.toUTF8 := by
    simp [single, content?, Keyed.ofList, Keyed.put, Keyed.find?, Keyed.contains]
  rw [exchanges, hnames, List.filterMap_cons, hcontent, Option.bind_some, exchangeOf?_toUTF8]
  cases (Json.read? text).bind Exchange.ofJson? <;> rfl

/-- A record may leave everything out but path, method and status. -/
theorem exchanges_single_of_read? {text path method : String} {status : Nat}
    (hread : Json.read? text = some (.object [
      ("request", .object [("path", .string path), ("method", .string method)]),
      ("response", .object [("status", .nat status)])]))
    (hstatus : status ≤ greatestStatus) :
    (single text).exchanges =
      [⟨Request.bare method path, ⟨status, none, .empty, none⟩, false⟩] := by
  rw [exchanges_single, hread]
  simp [Exchange.ofJson?, Request.ofJson?, Response.ofJson?, Json.record?, Json.Fields.required,
    Json.Fields.optional, Json.Fields.withDefault, List.lookup_cons, Json.string?,
    Json.nat?_nat hstatus, Request.bare]

end ApiManual.Archive
