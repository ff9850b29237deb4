import CaptureDesk.Value

/-!
# The board

The state that screens show: the active route and session, the newest known position of each
session's step log, the jobs with their progress, and the last error and message.  All of it is
derived from answers of the backend and from pushed events.

Three flags tell a reader which part has changed since the flags were cleared.  The mutators are
also given as data (`Change`), so that a sequence of them is a list.
-/

namespace CaptureDesk

/-- How far a job has come. -/
structure Progress where
  jobId : Str
  stage : Str
  pct : Int
  done : Int := 0
  total : Int := 0
  deriving DecidableEq, Repr

/-- What has changed since the flags were cleared. -/
structure Invalidations where
  jobs : Bool := false
  capture : Bool := false
  session : Bool := false
  deriving DecidableEq, Repr

/-- The state that screens show. -/
structure Board where
  activeRoute : Str := "permissions"
  activeSession : Option Str := none
  headSeqs : Table Int := []
  jobs : Table Str := []
  jobProgress : Table Progress := []
  captureState : Str := "IDLE"
  invalidated : Invalidations := {}
  lastErrorCode : Option Str := none
  statusMessage : Str := "Ready"
  deriving DecidableEq, Repr

namespace Board

/-- A change of the board. -/
inductive Change where
  | setActiveRoute (route : Str)
  | setActiveSession (session : Option Str)
  | setHeadSeq (session : Str) (head : Int)
  | ingestJobStatus (job status : Str)
  | ingestJobProgress (progress : Progress)
  | ingestCaptureStatus (state : Str) (session : Option Str)
  | recordJobHandle (job : Str)
  | clearInvalidations
  | setLastError (code : Option Str)
  | setStatusMessage (message : Str)
  deriving DecidableEq, Repr

/-- Shows another route. -/
def setActiveRoute (b : Board) (route : Str) : Board :=
  { b with activeRoute := route }

/-- Makes a session active; the flag is raised when it was not. -/
def setActiveSession (b : Board) (session : Option Str) : Board :=
  if b.activeSession = session then b
  else { b with activeSession := session, invalidated := { b.invalidated with session := true } }

/-- Whether a position is news about a session: its first, or one past the known position. -/
def isNews (b : Board) (session : Str) (head : Int) : Bool :=
  match b.headSeqs.get? session with
  | some known => known < head
  | none => true

/-- Notes a position of a session's step log, if it is news. -/
def setHeadSeq (b : Board) (session : Str) (head : Int) : Board :=
  if b.isNews session head then
    { b with
      headSeqs := b.headSeqs.put session head
      invalidated := { b.invalidated with session := true } }
  else b

/-- Notes the status of a job. -/
def ingestJobStatus (b : Board) (job status : Str) : Board :=
  { b with
    jobs := b.jobs.put job status
    invalidated := { b.invalidated with jobs := true } }

/-- Notes the progress of a job. -/
def ingestJobProgress (b : Board) (progress : Progress) : Board :=
  { b with
    jobProgress := b.jobProgress.put progress.jobId progress
    invalidated := { b.invalidated with jobs := true } }

/-- Notes the state of the capture, and makes the session that it names active. -/
def ingestCaptureStatus (b : Board) (state : Str) (session : Option Str) : Board :=
  { b with
    captureState := state
    activeSession := match session with
      | some s => if s = "" then b.activeSession else some s
      | none => b.activeSession
    invalidated := { b.invalidated with capture := true } }

/-- Notes a job that has just been scheduled.  A status that is already there stays. -/
def recordJobHandle (b : Board) (job : Str) : Board :=
  if b.jobs.has job then b
  else
    { b with
      jobs := b.jobs.put job "QUEUED"
      invalidated := { b.invalidated with jobs := true } }

/-- Clears the flags. -/
def clearInvalidations (b : Board) : Board :=
  { b with invalidated := {} }

/-- Notes the code of the last error. -/
def setLastError (b : Board) (code : Option Str) : Board :=
  { b with lastErrorCode := code }

/-- Shows a message. -/
def setStatusMessage (b : Board) (message : Str) : Board :=
  { b with statusMessage := message }

/-- Carries a change out. -/
def apply (b : Board) : Change → Board
  | .setActiveRoute route => b.setActiveRoute route
  | .setActiveSession session => b.setActiveSession session
  | .setHeadSeq session head => b.setHeadSeq session head
  | .ingestJobStatus job status => b.ingestJobStatus job status
  | .ingestJobProgress progress => b.ingestJobProgress progress
  | .ingestCaptureStatus state session => b.ingestCaptureStatus state session
  | .recordJobHandle job => b.recordJobHandle job
  | .clearInvalidations => b.clearInvalidations
  | .setLastError code => b.setLastError code
  | .setStatusMessage message => b.setStatusMessage message

/-- Carries changes out one after another. -/
def applyAll (b : Board) (changes : List Change) : Board :=
  changes.foldl apply b

/-- The progress of a job as an object. -/
def progressValue (p : Progress) : Value :=
  .object
    [("stage", .str p.stage), ("pct", .int p.pct),
      ("counters", .object [("done", .int p.done), ("total", .int p.total)])]

/-- The board as an object. -/
def toValue (b : Board) : Value :=
  .object
    [("active_route", .str b.activeRoute),
      ("active_session_id", Value.ofText? b.activeSession),
      ("session_head_seq", .object (b.headSeqs.map fun e => (e.1, .int e.2))),
      ("jobs", .object (b.jobs.map fun e => (e.1, .str e.2))),
      ("job_progress", .object (b.jobProgress.map fun e => (e.1, progressValue e.2))),
      ("capture_state", .str b.captureState),
      ("invalidated", .object
        [("jobs", .bool b.invalidated.jobs), ("capture", .bool b.invalidated.capture),
          ("session", .bool b.invalidated.session)]),
      ("last_error_code", Value.ofText? b.lastErrorCode),
      ("status_message", .str b.statusMessage)]

end Board

end CaptureDesk
