import CaptureDesk.Procedure

/-!
# Screens

Each route has a screen, which is filled from answers of the backend.  A failed or odd answer never
keeps a screen from being shown: what cannot be read is left at its default.  Only the steps screen
touches the board, where it notes the position that the listing reports.
-/

namespace CaptureDesk

/-- The routes. -/
inductive Route where
  | permissions
  | capture
  | evidence
  | steps
  | anchors
  | slicerStudio
  | proofLedger
  | modelDock
  | agentPlant
  deriving DecidableEq, Repr

namespace Route

/-- All routes. -/
def all : List Route :=
  [permissions, capture, evidence, steps, anchors, slicerStudio, proofLedger, modelDock,
    agentPlant]

/-- The name of a route. -/
def name : Route → String
  | permissions => "permissions"
  | capture => "capture"
  | evidence => "evidence"
  | steps => "steps"
  | anchors => "anchors"
  | slicerStudio => "slicer_studio"
  | proofLedger => "proof_ledger"
  | modelDock => "model_dock"
  | agentPlant => "agent_plant"

/-- The route of a name. -/
def ofName? (name : Str) : Option Route :=
  all.find? fun route => .plain route.name == name

end Route

/-- What a screen shows. -/
inductive Screen where
  | permissions (screenRecording accessibility fullDiskAccess offlineMode : Bool)
  | capture (status : Value) (keyframes : List Value)
  | evidence (coveragePct : Nat) (missingSteps : List Str) (count : Nat)
  | steps (rows : List Value) (head : Int)
  | anchors (step : Option Str) (found : List Value)
  | slicerStudio (ready : Bool) (issues : List Str)
  | proofLedger (warningCount stepCount evidenceCount : Nat) (exports : List Value)
  | modelDock (models benches : Nat) (roles : List (Str × Str))
  | agentPlant (pipelines : List Str) (canRun : Bool)
  deriving DecidableEq, Repr

namespace Screen

/-- A screen as an object. -/
def toValue : Screen → Value
  | .permissions screenRecording accessibility fullDiskAccess offlineMode =>
      .object
        [("screen_recording", .bool screenRecording), ("accessibility", .bool accessibility),
          ("full_disk_access", .bool fullDiskAccess), ("offline_mode", .bool offlineMode)]
  | .capture status keyframes => .object [("status", status), ("keyframes", .array keyframes)]
  | .evidence coveragePct missingSteps count =>
      .object
        [("coverage_pct", .int coveragePct),
          ("missing_step_ids", .array (missingSteps.map .str)), ("evidence_count", .int count)]
  | .steps rows head => .object [("steps", .array rows), ("head_seq", .int head)]
  | .anchors step found =>
      .object [("step_id", Value.ofText? step), ("anchors", .array found)]
  | .slicerStudio ready issues =>
      .object [("strict_ready", .bool ready), ("issues", .array (issues.map .str))]
  | .proofLedger warningCount stepCount evidenceCount exports =>
      .object
        [("warning_count", .int warningCount), ("step_count", .int stepCount),
          ("evidence_count", .int evidenceCount), ("exports", .array exports)]
  | .modelDock models benches roles =>
      .object
        [("model_count", .int models), ("bench_count", .int benches),
          ("role_map", .object (roles.map fun r => (r.1, .str r.2)))]
  | .agentPlant pipelines canRun =>
      .object [("pipelines", .array (pipelines.map .str)), ("can_run", .bool canRun)]

/-- The argument of a request about a session. -/
def scope (session : Str) : Value :=
  .object [("session_id", .str session)]

/-- The argument of a request about all of a session's time. -/
def wholeTime (session : Str) : Value :=
  .object
    [("session_id", .str session), ("start_ms", .int 0), ("end_ms", .int 9007199254740991)]

/-- The permissions screen. -/
def loadPermissions : Procedure Screen := do
  let granted ← Procedure.request "app_get_permissions_status" (.object [])
  let settings ← Procedure.request "settings_get" (.object [])
  let isGranted (key : Str) := (granted.payload.field key).truthy
  pure <| permissions (isGranted "screen_recording") (isGranted "accessibility")
    (isGranted "full_disk_access")
    (((settings.payload.field? "offline_mode").map Value.truthy).getD true)

/-- A keyframe as the capture screen shows it. -/
def keyframe (frame : Value) : Value :=
  .object
    [("frame_event_id", frame.field "frame_event_id"), ("frame_ms", frame.field "frame_ms"),
      ("asset_id", (frame.field "asset").field "asset_id")]

/-- The capture screen.  Without a session it shows the status alone. -/
def loadCapture (session : Option Str) : Procedure Screen := do
  let answer ← Procedure.request "capture_get_status"
    (.object [("session_id", Value.ofText? session)])
  let status := match answer with
    | .success value => value
    | .failure _ => .null
  match session with
  | none | some "" => pure (capture status [])
  | some session =>
      let frames ← Procedure.request "timeline_get_keyframes" (wholeTime session)
      pure <| capture status
        (((frames.payload.itemsAt "keyframes").filter Value.isObject).map keyframe)

/-- The evidence screen. -/
def loadEvidence (session : Str) : Procedure Screen := do
  let coverage ← Procedure.request "evidence_get_coverage" (scope session)
  let found ← Procedure.request "evidence_for_time_range" (wholeTime session)
  pure <| evidence (if (coverage.payload.field "pass").truthy then 100 else 0)
    (coverage.payload.field "missing_step_ids").itemTexts
    (found.payload.itemsAt "evidence").length

/-- A step as the steps screen shows it. -/
def stepRow (step : Value) : Value :=
  .object
    [("step_id", step.field "step_id"), ("title", step.field "title"),
      ("order_index", step.field "order_index")]

/-- The steps screen.  The position of the listing, zero when it has none, is noted on the board. -/
def loadSteps (session : Str) : Procedure Screen := do
  match ← Procedure.request "steps_list" (scope session) with
  | .failure _ => pure (steps [] 0)
  | .success listing =>
      let head := (listing.field "head_seq").int?.getD 0
      Procedure.change (.setHeadSeq session head)
      pure (steps (((listing.itemsAt "steps").filter Value.isObject).map stepRow) head)

/-- The anchors screen, about the first step of the session. -/
def loadAnchors (session : Str) : Procedure Screen := do
  let listing ← Procedure.request "steps_list" (scope session)
  match (listing.payload.itemsAt "steps").filter Value.isObject with
  | [] => pure (anchors none [])
  | step :: _ =>
      let id := (step.field "step_id").text
      let found ← Procedure.request "anchors_list_for_step"
        (.object [("session_id", .str session), ("step_id", .str id)])
      pure (anchors (some id) (found.payload.itemsAt "anchors"))

/-- The slicer studio: whether the session may be exported, and what stands against it. -/
def loadSlicerStudio (session : Str) : Procedure Screen := do
  match ← Procedure.request "tutorial_validate_export" (scope session) with
  | .failure error => pure (slicerStudio false [error.message])
  | .success decision =>
      pure (slicerStudio (decision.field "allowed").truthy (decision.field "reasons").itemTexts)

/-- The greatest number of exports that the proof ledger verifies. -/
def verifiedExports : Nat := 5

/-- A row of the proof ledger: an export with its own verdict, or none when the verification
failed. -/
def exportRow (row : Value) (verdict : Outcome) : Value :=
  .object
    [("export_id", row.field "export_id"), ("output_path", row.field "output_path"),
      ("bundle_hash", row.field "bundle_hash"),
      ("warnings", .int (row.itemsAt "warnings").length),
      ("verify_valid",
        if verdict.isOk then verdict.payload.field "valid" else .null),
      ("verify_issues",
        if verdict.isOk then .array (verdict.payload.itemsAt "issues") else .null)]

/-- Verifies exports one after another. -/
def verifyRows : List Value → Procedure (List Value)
  | [] => pure []
  | row :: rest => do
      let verdict ← Procedure.request "export_verify_bundle"
        (.object [("bundle_path", row.field "output_path")])
      let others ← verifyRows rest
      pure (exportRow row verdict :: others)

/-- The proof ledger: what the proof holds, and the first exports with their verdicts. -/
def loadProofLedger (session : Str) : Procedure Screen := do
  match ← Procedure.request "proof_get_view" (scope session) with
  | .failure _ => pure (proofLedger 0 0 0 [])
  | .success ledger =>
      let listing ← Procedure.request "exports_list" (scope session)
      let rows := (listing.payload.itemsAt "exports").filter Value.isObject
      let verified ← verifyRows (rows.take verifiedExports)
      pure <| proofLedger (ledger.itemsAt "warnings").length (ledger.itemsAt "steps").length
        ((ledger.field "evidence").itemsAt "evidence").length verified

/-- The roles that models are assigned to. -/
def modelRoles : List Str := ["tutorial_generation", "screen_explainer", "anchor_grounding"]

/-- The model dock. -/
def loadModelDock : Procedure Screen := do
  let models ← Procedure.request "models_list" (.object [("include_unhealthy", .bool false)])
  let benches ← Procedure.request "bench_list" (.object [])
  let assigned ← Procedure.request "model_roles_get" (.object [])
  let assignee (role : Str) :=
    let v := assigned.payload.field role
    if v.truthy then v.text else ""
  pure <| modelDock (models.payload.itemsAt "models").length
    (benches.payload.itemsAt "benches").length
    (if assigned.isOk then modelRoles.map fun role => (role, assignee role) else [])

/-- The agent plant. -/
def loadAgentPlant (session : Option Str) : Procedure Screen := do
  let listing ← Procedure.request "agent_pipelines_list" (.object [])
  let canRun := match session with
    | none | some "" => false
    | some _ => true
  pure (agentPlant (listing.payload.field "pipelines").itemTexts canRun)

/-- A screen about the active session, or the one to show when there is none. -/
def aboutSession (session : Option Str) (absent : Screen) (load : Str → Procedure Screen) :
    Procedure Screen :=
  match session with
  | none | some "" => pure absent
  | some session => load session

/-- The screen of a route, about a session. -/
def load (route : Route) (session : Option Str) : Procedure Screen :=
  match route with
  | .permissions => loadPermissions
  | .capture => loadCapture session
  | .evidence => aboutSession session (evidence 0 [] 0) loadEvidence
  | .steps => aboutSession session (steps [] 0) loadSteps
  | .anchors => aboutSession session (anchors none []) loadAnchors
  | .slicerStudio =>
      aboutSession session (slicerStudio false ["No active session"]) loadSlicerStudio
  | .proofLedger => aboutSession session (proofLedger 0 0 0 []) loadProofLedger
  | .modelDock => loadModelDock
  | .agentPlant => loadAgentPlant session

end Screen

/-- Shows the screen of a route by its name.  The route becomes the active one, and the screen is
about the session that is active now. -/
def Desk.loadRoute {σ : Type} (link : Link σ) (d : Desk σ) (name : Str) :
    Except Fault Screen × Desk σ :=
  match Route.ofName? name with
  | none => (.error (.unknownRoute name), d)
  | some route =>
      (Screen.load route d.board.activeSession).run link
        (d.perform (.change (.setActiveRoute route.name)))

end CaptureDesk
