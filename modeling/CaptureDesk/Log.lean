import CaptureDesk.Failure

/-!
# The log

What the operations report while they run, as one object each.  The stages of the production flow
are here because reports name them.
-/

namespace CaptureDesk

/-- The stages of the production flow, in their order. -/
inductive Stage where
  | session
  | capture
  | ocr
  | steps
  | tutorial
  | validation
  | packing
  | verification
  | complete
  deriving DecidableEq, Repr

namespace Stage

/-- All stages in their order. -/
def all : List Stage :=
  [session, capture, ocr, steps, tutorial, validation, packing, verification, complete]

/-- The name of a stage. -/
def name : Stage → String
  | session => "session"
  | capture => "capture"
  | ocr => "ocr"
  | steps => "steps"
  | tutorial => "tutorial"
  | validation => "validate"
  | packing => "export"
  | verification => "verify"
  | complete => "complete"

end Stage

/-- A report. -/
inductive Report where
  | invokeStarted (command : Str)
  | invokeKilled (command : Str)
  | invokeExited (command : Str) (exitCode : Int) (stderr : String)
  | invokeTimedOut (command : Str) (seconds : Value)
  | helperStarted (helper : String) (command : List Value)
  | helperTimedOut (helper : String) (seconds : Value)
  | helperExited (helper : String) (exitCode : Int) (stderr : String)
  | editAttempted (session : Str) (base : Int) (attempt : Nat)
  | editConflicted (session : Str) (base : Int)
  | refreshFailed (session : Str) (code : ErrorCode)
  | stageStarted (stage : Stage)
  | stageFailed (stage : Stage) (code : ErrorCode) (recoverable : Bool)
  | flowCompleted (session outputPath : Str)
  | captureStopFailed (code : ErrorCode)
  deriving DecidableEq, Repr

namespace Report

/-- The name of a report. -/
def name : Report → String
  | invokeStarted .. => "gateway_invoke_start"
  | invokeKilled .. => "gateway_invoke_killed"
  | invokeExited .. => "gateway_invoke_exit"
  | invokeTimedOut .. => "gateway_timeout"
  | helperStarted .. => "helper_start"
  | helperTimedOut .. => "helper_timeout"
  | helperExited .. => "helper_exit"
  | editAttempted .. => "edit_attempt"
  | editConflicted .. => "edit_conflict"
  | refreshFailed .. => "edit_refresh_failed"
  | stageStarted .. => "stage_started"
  | stageFailed .. => "stage_failed"
  | flowCompleted .. => "flow_complete"
  | captureStopFailed .. => "capture_stop_failed"

/-- The particulars of a report. -/
def particulars : Report → List (Str × Value)
  | invokeStarted command | invokeKilled command => [("command", .str command)]
  | invokeExited command exitCode stderr =>
      [("command", .str command), ("exit_code", .int exitCode), ("stderr", .str stderr)]
  | invokeTimedOut command seconds =>
      [("command", .str command), ("timeout_seconds", seconds)]
  | helperStarted helper command => [("helper", .str helper), ("command", .array command)]
  | helperTimedOut helper seconds => [("helper", .str helper), ("timeout_seconds", seconds)]
  | helperExited helper exitCode stderr =>
      [("helper", .str helper), ("exit_code", .int exitCode), ("stderr", .str stderr)]
  | editAttempted session base attempt =>
      [("session_id", .str session), ("base_seq", .int base), ("attempt", .int attempt)]
  | editConflicted session base => [("session_id", .str session), ("base_seq", .int base)]
  | refreshFailed session code => [("session_id", .str session), ("code", .str code.name)]
  | stageStarted stage => [("stage", .str stage.name)]
  | stageFailed stage code recoverable =>
      [("stage", .str stage.name), ("code", .str code.name), ("recoverable", .bool recoverable)]
  | flowCompleted session outputPath =>
      [("session_id", .str session), ("output_path", .str outputPath)]
  | captureStopFailed code => [("code", .str code.name)]

/-- A report as an object: its name, then its particulars. -/
def toValue (r : Report) : Value :=
  .object (("event", .str r.name) :: r.particulars)

end Report

end CaptureDesk
