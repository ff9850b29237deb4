import CaptureDesk.Proofs.Positions.Writers
import CaptureDesk.Proofs.Transcript

/-!
# Rows of the proof ledger

The proof ledger verifies the first exports of a session, one request for each, and shows a row for
each of them.  The turns with the backend and the rows run in step: the request at a place is about
the export at that place, and the row there shows what the export says of itself and what the answer
at that place says about it (`Combines`).  An answer that fails, or that says nothing that can be
read, leaves a mark in its own row and in no other.
-/

namespace CaptureDesk.Screen

/-! ## Exports and their rows -/

/-- The exports of a listing: those of its rows that are objects, in their order. -/
def exportsIn (listing : Outcome) : List Value :=
  (listing.payload.itemsAt "exports").filter Value.isObject

/-- The request to verify the bundle of an export. -/
def verification (row : Value) : Request :=
  ⟨"export_verify_bundle", .object [("bundle_path", row.field "output_path")]⟩

/-- What a row shows of its export, and two values about the verification. -/
def rowOf (row valid issues : Value) : Value :=
  .object
    [("export_id", row.field "export_id"), ("output_path", row.field "output_path"),
      ("bundle_hash", row.field "bundle_hash"),
      ("warnings", .int (row.itemsAt "warnings").length),
      ("verify_valid", valid), ("verify_issues", issues)]

/-- `Combines row answer shown`: `shown` is the row of the ledger for the export `row` when `answer`
is the answer to its verification. -/
inductive Combines (row : Value) : Outcome → Value → Prop
  | failed (error : Failure) : Combines row (.failure error) (rowOf row .null .null)
  | answered (verdict : Value) :
      Combines row (.success verdict)
        (rowOf row (verdict.field "valid") (.array (verdict.itemsAt "issues")))

/-- The fields of an answer that is no object are those of the empty one. -/
theorem field_payload (value : Value) (key : Str) :
    (Outcome.success value).payload.field key = value.field key := by
  cases value <;> rfl

theorem combines_exportRow (row : Value) (answer : Outcome) :
    Combines row answer (exportRow row answer) := by
  cases answer with
  | failure error => exact .failed error
  | success verdict =>
      have shown : exportRow row (.success verdict) =
          rowOf row (verdict.field "valid") (.array (verdict.itemsAt "issues")) := by
        simp [exportRow, rowOf, Outcome.isOk, Value.itemsAt, field_payload]
      rw [shown]
      exact .answered verdict

/-! ## The loop over the exports -/

section Rows

variable {rows shown : List Value} {turns : List Turn} {acts : List Act}

/-- Exports are verified one after another, and each makes a row with its own answer. -/
theorem transcript_verifyRows (transcript : Transcript (verifyRows rows) turns acts shown) :
    turns.map Turn.request = rows.map verification ∧
      shown = List.zipWith exportRow rows (turns.map Turn.answer) := by
  induction rows generalizing turns acts shown with
  | nil =>
      obtain ⟨rfl, _, rfl⟩ := Transcript.of_done transcript
      exact ⟨rfl, rfl⟩
  | cons row rows ih =>
      obtain ⟨answer, rest, rfl, later⟩ := Transcript.of_request_bind transcript
      obtain ⟨turns, _, others, _, _, verified, ended, rfl, _⟩ := Transcript.of_bind later
      obtain ⟨rfl, _, rfl⟩ := Transcript.of_done ended
      obtain ⟨asked, rfl⟩ := ih verified
      exact ⟨by simp [asked, verification], by simp⟩

/-- The first five exports, the turns in which they were verified, and the rows that are shown: one
for each place, and no more. -/
structure InStep (rows : List Value) (verdicts : List Turn) (shown : List Value) : Prop where
  asked : verdicts.length = min 5 rows.length
  length : shown.length = min 5 rows.length
  own : ∀ i row, i < 5 → rows[i]? = some row →
    ∃ answer entry, verdicts[i]? = some ⟨verification row, answer⟩ ∧ shown[i]? = some entry ∧
      Combines row answer entry

theorem inStep_of_transcript
    (transcript : Transcript (verifyRows (rows.take verifiedExports)) turns acts shown) :
    InStep rows turns shown := by
  obtain ⟨asked, rfl⟩ := transcript_verifyRows transcript
  have length : turns.length = min 5 rows.length := by
    have lengths := congrArg List.length asked
    rwa [List.length_map, List.length_map, List.length_take] at lengths
  refine ⟨length, ?_, ?_⟩
  · rw [List.length_zipWith, List.length_take, List.length_map, length]
    exact Nat.min_self _
  · intro i row early found
    have taken : (rows.take verifiedExports)[i]? = some row := by
      rw [List.getElem?_take, if_pos (show i < verifiedExports from early), found]
    have request : (turns.map Turn.request)[i]? = some (verification row) := by
      rw [asked, List.getElem?_map, taken]
      rfl
    rw [List.getElem?_map] at request
    obtain ⟨⟨_, answer⟩, turn, rfl⟩ := Option.map_eq_some_iff.mp request
    refine ⟨answer, exportRow row answer, turn, ?_, combines_exportRow row answer⟩
    simp [List.getElem?_zipWith, taken, turn]

end Rows

/-! ## The ledger -/

/-- The request for the proof of a session. -/
def proofRequest (session : Str) : Request := ⟨"proof_get_view", scope session⟩

/-- The request for the exports of a session. -/
def exportsRequest (session : Str) : Request := ⟨"exports_list", scope session⟩

/-- Over the oracle `o` from the desk `d`, the ledger of a session asks for the proof, which is
given, for the exports, and for the verifications of the first five, and it shows these in step. -/
def Verifies (o : Oracle) (d : Desk (List Request)) (session : Str) (proof : Value) : Prop :=
  ∃ listing verdicts warnings steps evidence shown after,
    (load .proofLedger (some session)).run o.link d =
      (.ok (.proofLedger warnings steps evidence shown), after) ∧
    o.Gave d.link
      (⟨proofRequest session, .success proof⟩ :: ⟨exportsRequest session, listing⟩ :: verdicts) ∧
    after.link =
      d.link ++ proofRequest session :: exportsRequest session :: verdicts.map Turn.request ∧
    InStep (exportsIn listing) verdicts shown

/-- **Each row keeps its own verdict.**  Once the proof of a session is given, the ledger verifies
the first five exports of the listing in their order and no others, whatever the listing holds and
however the verifications end, and the row of each export shows the answer to its own. -/
theorem verifies_of_proof {session : Str} (named : session ≠ "") {o : Oracle}
    {d : Desk (List Request)} {proof : Value}
    (given : o (d.link ++ [proofRequest session]) = .success proof) :
    Verifies o d session proof := by
  obtain ⟨turns, acts, screen, transcript, gave⟩ :=
    o.exists_transcript (load .proofLedger (some session)) d.link
  have ran := transcript.run gave
  rw [load, aboutSession_named named] at transcript
  obtain ⟨answer, rest, rfl, proved⟩ := Transcript.of_request_bind transcript
  obtain ⟨answered, _⟩ := Oracle.gave_cons.mp gave
  obtain rfl : answer = .success proof := answered.trans given
  obtain ⟨listing, verdicts, rfl, listed⟩ := Transcript.of_request_bind proved
  obtain ⟨turns, _, shown, _, _, verified, ended, rfl, _⟩ := Transcript.of_bind listed
  obtain ⟨rfl, _, rfl⟩ := Transcript.of_done ended
  rw [List.append_nil] at gave ran
  exact ⟨listing, turns, _, _, _, shown, _, ran, gave, by simp [proofRequest, exportsRequest],
    inStep_of_transcript verified⟩

/-- A backend with two exports among other rows, of which the first cannot be verified. -/
def halfVerified : Oracle := fun asked =>
  match asked.getLast? with
  | some ⟨"proof_get_view", _⟩ => .success (.object [])
  | some ⟨"exports_list", _⟩ =>
      .success (.object [("exports", .array
        [.int 1, .object [("output_path", .str "a.zip")], .null,
          .object [("output_path", .str "b.zip")]])])
  | some ⟨"export_verify_bundle", .object [("bundle_path", .str "b.zip")]⟩ =>
      .success (.object [("valid", .bool true)])
  | _ => .failure { code := .io, message := "gone" }

/-- A verification that fails does not keep the next export from being shown as verified. -/
theorem verifies_half_verified :
    "s1" ≠ "" ∧
      halfVerified (([] : List Request) ++ [proofRequest "s1"]) = .success (.object []) ∧
      Verifies halfVerified { link := [] } "s1" (.object []) ∧
      ((load .proofLedger (some "s1")).run halfVerified.link { link := [] }).1 =
        .ok (.proofLedger 0 0 0
          [rowOf (.object [("output_path", .str "a.zip")]) .null .null,
            rowOf (.object [("output_path", .str "b.zip")]) (.bool true) (.array [])]) :=
  ⟨by decide, rfl, verifies_of_proof (by decide) rfl, by decide +kernel⟩

end CaptureDesk.Screen
