import CaptureDesk.Procedure

/-!
# The production flow

From a new session to a verified tutorial: nine stages, of which all but the last ask the backend
one thing.  The first stage that fails ends the flow, and its failure is the answer; what was done
before is left in place.  Two stages are gates: the validation must allow the export, and the
verification must find the exported bundle valid.
-/

namespace CaptureDesk.Production

/-- What is to be produced. -/
structure Order where
  label : Str
  outputDir : Value
  deriving DecidableEq, Repr

/-- What was produced. -/
structure Delivery where
  session : Str
  outputPath : Str
  bundleHash : Str
  issues : List Str
  deriving DecidableEq, Repr

/-- A delivery as an object. -/
def Delivery.toValue (d : Delivery) : Value :=
  .object
    [("session_id", .str d.session), ("tutorial_export_ok", .bool true),
      ("output_path", .str d.outputPath), ("bundle_hash", .str d.bundleHash),
      ("verify_valid", .bool true), ("verify_issues", .array (d.issues.map .str))]

/-- The failure of a stage. -/
structure StageFailure where
  stage : Stage
  error : Failure
  deriving DecidableEq, Repr

/-- A part of the flow, which a stage may end. -/
abbrev Staged := ExceptT StageFailure Procedure

/-- A step of a procedure as a part of the flow. -/
def lift {α : Type} (t : Procedure α) : Staged α := ExceptT.lift t

/-- A value that a stage must find in an answer. -/
def expect {α : Type} (found : Except StageFailure α) : Staged α := ExceptT.mk (.done found)

/-- An answer lacks what a stage needs of it. -/
def missing (stage : Stage) (key : Str) : StageFailure :=
  ⟨stage, Failure.internal (stage.name ++ " stage response is missing '" ++ key ++ "'")⟩

/-- A string of the answer that is not empty. -/
def requireText (stage : Stage) (answer : Value) (key : Str) : Except StageFailure Str :=
  match (answer.field key).nonEmptyStr? with
  | some s => .ok s
  | none => .error (missing stage key)

/-- A truth value of the answer. -/
def requireVerdict (stage : Stage) (answer : Value) (key : Str) : Except StageFailure Bool :=
  match (answer.field key).bool? with
  | some b => .ok b
  | none => .error (missing stage key)

/-- Begins a stage. -/
def enter (stage : Stage) : Procedure Unit := do
  Procedure.report (.stageStarted stage)
  Procedure.announce stage

/-- The request of a stage. -/
def ask (stage : Stage) (command : Str) (body : Value) : Staged Value := do
  match ← lift (Procedure.request command body) with
  | .success value => pure value
  | .failure error => throw ⟨stage, error⟩

/-- Notes the job that an answer names. -/
def recordJob (answer : Value) : Procedure Unit :=
  match answer.field "job_id" with
  | .str job => Procedure.change (.recordJobHandle job)
  | _ => .done ()

/-- The position at which a new session starts, zero when the answer leaves it out. -/
def startPosition (answer : Value) : Option Int :=
  match answer.field? "head_seq" with
  | none => some 0
  | some v => v.int?

/-- The validation does not allow the export. -/
def gateClosed (decision : Value) : Failure :=
  { code := .exportGateFailed
    message := Str.intercalate "; " (decision.field "reasons").itemTexts
    actionHint := some "Fix steps or anchors before export" }

/-- The exported bundle is not valid. -/
def bundleInvalid (issues : List Str) : Failure :=
  { code := .exportGateFailed
    message := "Export verification failed"
    details := some (Str.intercalate "; " issues)
    recoverable := true
    actionHint := some "Inspect proof ledger and fix policy issues" }

/-- The first stage: a session, which becomes the active one. -/
def openSession (order : Order) : Staged Str := do
  lift (enter .session)
  let answer ← ask .session "session_create"
    (.object [("label", .str order.label), ("metadata", .object [])])
  let session ← expect (requireText .session answer "session_id")
  lift (Procedure.change (.setActiveSession (some session)))
  match startPosition answer with
  | some head => lift (Procedure.change (.setHeadSeq session head))
  | none => pure ()
  pure session

/-- A stage that schedules a job. -/
def schedule (stage : Stage) (command : Str) (scope : Value) : Staged Unit := do
  lift (enter stage)
  let answer ← ask stage command scope
  lift (recordJob answer)

/-- The gate before the export. -/
def validate (scope : Value) : Staged Unit := do
  lift (enter .validation)
  let decision ← ask .validation "tutorial_validate_export" scope
  let allowed ← expect (requireVerdict .validation decision "allowed")
  if allowed then pure () else throw ⟨.validation, gateClosed decision⟩

/-- The export: the path of the bundle, and its hash. -/
def pack (session : Str) (outputDir : Value) : Staged (Str × Str) := do
  lift (enter .packing)
  let answer ← ask .packing "tutorial_export_pack"
    (.object [("session_id", .str session), ("output_dir", outputDir)])
  let outputPath ← expect (requireText .packing answer "output_path")
  let bundleHash ← expect (requireText .packing answer "bundle_hash")
  pure (outputPath, bundleHash)

/-- The gate after the export: the issues of a valid bundle. -/
def verify (outputPath : Str) : Staged (List Str) := do
  lift (enter .verification)
  let answer ← ask .verification "export_verify_bundle"
    (.object [("bundle_path", .str outputPath)])
  let valid ← expect (requireVerdict .verification answer "valid")
  let issues := (answer.field "issues").itemTexts
  if valid then pure issues else throw ⟨.verification, bundleInvalid issues⟩

/-- Stops the capture.  A failure is reported and does not matter to the flow. -/
def stopCapture (scope : Value) : Procedure Unit := do
  match ← Procedure.request "capture_stop" scope with
  | .success _ => pure ()
  | .failure error => Procedure.report (.captureStopFailed error.code)

/-- The stages of the flow. -/
def stages (order : Order) : Staged Delivery := do
  let session ← openSession order
  let scope := Value.object [("session_id", .str session)]
  lift (enter .capture)
  let _ ← ask .capture "capture_start" scope
  schedule .ocr "ocr_schedule" scope
  schedule .steps "steps_generate_candidates" scope
  schedule .tutorial "tutorial_generate" scope
  validate scope
  let (outputPath, bundleHash) ← pack session order.outputDir
  let issues ← verify outputPath
  lift (stopCapture scope)
  lift (Procedure.change (.setLastError none))
  lift (enter .complete)
  pure { session, outputPath, bundleHash, issues }

/-- Ends the flow: the board shows how it went, and the last report says so. -/
def conclude : Except StageFailure Delivery → Procedure (Except Failure Delivery)
  | .error failure => do
      let error := failure.error
      Procedure.change (.setLastError (some error.code.name))
      Procedure.change
        (.setStatusMessage ("Flow failed: " ++ error.code.name ++ " " ++ error.message))
      Procedure.report (.stageFailed failure.stage error.code error.recoverable)
      pure (.error error)
  | .ok delivery => do
      Procedure.change (.setStatusMessage ("Export verified: " ++ delivery.outputPath))
      Procedure.report (.flowCompleted delivery.session delivery.outputPath)
      pure (.ok delivery)

/-- The production flow. -/
def flow (order : Order) : Procedure (Except Failure Delivery) := do
  let result ← (stages order).run
  conclude result

/-- The answer of the flow as an outcome. -/
def outcome : Except Failure Delivery → Outcome
  | .ok delivery => .success delivery.toValue
  | .error error => .failure error

end CaptureDesk.Production
