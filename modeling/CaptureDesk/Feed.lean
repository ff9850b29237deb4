import CaptureDesk.Board
import CaptureDesk.Fault
import CaptureDesk.Text.Blank

/-!
# The feed of pushed events

Events arrive on three channels, each event in an envelope with a sequence number.  An envelope
that is well formed is folded into the board whatever its number is; the numbers only serve to
account for what was lost.  An envelope that is not well formed is counted and dropped.

Reading an envelope (`Envelope.read`) and folding it in (`Feed.accept`) are separate: the first
looks at the envelope alone, and the second cannot fail.
-/

namespace CaptureDesk

/-- The channels. -/
inductive Channel where
  | jobStatus
  | jobProgress
  | captureStatus
  deriving DecidableEq, Repr

namespace Channel

/-- All channels. -/
def all : List Channel := [jobStatus, jobProgress, captureStatus]

/-- The name of a channel. -/
def name : Channel → String
  | jobStatus => "job_status"
  | jobProgress => "job_progress"
  | captureStatus => "capture_status"

/-- The channel of a name. -/
def ofName? (name : Str) : Option Channel :=
  all.find? fun channel => .plain channel.name == name

end Channel

/-- The statuses of a job. -/
inductive JobStatus where
  | queued
  | running
  | succeeded
  | failed
  | cancelled
  deriving DecidableEq, Repr

namespace JobStatus

/-- All statuses. -/
def all : List JobStatus := [queued, running, succeeded, failed, cancelled]

/-- A status as it is written. -/
def name : JobStatus → String
  | queued => "QUEUED"
  | running => "RUNNING"
  | succeeded => "SUCCEEDED"
  | failed => "FAILED"
  | cancelled => "CANCELLED"

end JobStatus

/-- The states of the capture. -/
inductive CaptureState where
  | idle
  | capturing
  | stopped
  deriving DecidableEq, Repr

namespace CaptureState

/-- All states. -/
def all : List CaptureState := [idle, capturing, stopped]

/-- A state as it is written. -/
def name : CaptureState → String
  | idle => "IDLE"
  | capturing => "CAPTURING"
  | stopped => "STOPPED"

/-- A state as a message gives it. -/
def word : CaptureState → String
  | idle => "idle"
  | capturing => "capturing"
  | stopped => "stopped"

end CaptureState

/-- What an envelope tells. -/
inductive Event where
  | jobStatus (job : Str) (status : JobStatus)
  | jobProgress (progress : Progress)
  | captureStatus (state : CaptureState) (session : Option Str)
  deriving DecidableEq, Repr

/-- An event with its sequence number, and when it is said to have been sent. -/
structure Envelope where
  seq : Int
  sentAt : Str
  event : Event
  deriving DecidableEq, Repr

namespace Envelope

/-- Looks a value up in a closed list of words.  A list or a table cannot be looked up at all. -/
def lookUp {α : Type} (all : List α) (name : α → String) (v : Value) : Except Fault (Option α) :=
  match v with
  | .str s => .ok (all.find? fun a => .plain (name a) == s)
  | .array _ | .object _ => .error (.unhashable v.kind)
  | _ => .ok none

/-- A counter that is not a whole number, or a negative one, counts as zero. -/
def count (v : Value) : Int :=
  max 0 (v.int?.getD 0)

/-- The event that a payload stands for, if it is well formed. -/
def readEvent (channel : Channel) (payload : Value) : Except Fault (Option Event) :=
  match payload, channel with
  | .object _, .jobStatus =>
      match (payload.field "job_id").nonEmptyStr? with
      | none => .ok none
      | some job => do
          let status ← lookUp JobStatus.all JobStatus.name (payload.field "status")
          pure (status.map (.jobStatus job))
  | .object _, .jobProgress =>
      match (payload.field "job_id").nonEmptyStr?, (payload.field "pct").int? with
      | some job, some pct =>
          let counters := payload.field "counters"
          .ok <| some <| .jobProgress
            { jobId := job
              stage := ((payload.field? "stage").map Value.text).getD ""
              pct := max 0 (min 100 pct)
              done := count (counters.field "done")
              total := count (counters.field "total") }
      | _, _ => .ok none
  | .object _, .captureStatus => do
      let state ← lookUp CaptureState.all CaptureState.name (payload.field "state")
      pure (state.map fun s => .captureStatus s (payload.field "session_id").nonEmptyStr?)
  | _, _ => .ok none

/-- When an envelope is said to have been sent.  Any value is shown; nothing else looks at it. -/
def sendTime (raw : Value) : Str :=
  ((raw.field? "sent_at").map Value.text).getD ""

/-- The envelope that a value stands for, if it is well formed: an object with a whole number and a
payload for the channel. -/
def read (channel : Channel) (raw : Value) : Except Fault (Option Envelope) :=
  match (raw.field "stream_seq").int? with
  | none => .ok none
  | some seq => do
      let event ← readEvent channel (raw.field "payload")
      pure (event.map (⟨seq, sendTime raw, ·⟩))

end Envelope

/-- The account of one channel: the greatest number so far, how many numbers were skipped, how many
events came, how many of them did not advance the number, and how many envelopes were dropped. -/
structure Tally where
  lastSeq : Option Int := none
  gapCount : Int := 0
  eventCount : Nat := 0
  staleCount : Nat := 0
  malformedCount : Nat := 0
  deriving DecidableEq, Repr

namespace Tally

/-- Accounts for an event with a number. -/
def advance (t : Tally) (seq : Int) : Tally :=
  match t.lastSeq with
  | none => { t with lastSeq := some seq, eventCount := t.eventCount + 1 }
  | some last =>
      if seq ≤ last then
        { t with staleCount := t.staleCount + 1, eventCount := t.eventCount + 1 }
      else
        { t with
          lastSeq := some seq
          gapCount := t.gapCount + (seq - last - 1)
          eventCount := t.eventCount + 1 }

/-- Accounts for an envelope that is dropped. -/
def drop (t : Tally) : Tally :=
  { t with malformedCount := t.malformedCount + 1 }

/-- An account as an object. -/
def toValue (t : Tally) : Value :=
  .object
    [("last_seq", (t.lastSeq.map Value.int).getD .null), ("gap_count", .int t.gapCount),
      ("event_count", .int t.eventCount), ("stale_count", .int t.staleCount),
      ("malformed_count", .int t.malformedCount)]

end Tally

/-- The accounts of the channels, and one for the lines that belong to no channel. -/
structure Feed where
  jobStatus : Tally := {}
  jobProgress : Tally := {}
  captureStatus : Tally := {}
  unknown : Tally := {}
  deriving DecidableEq, Repr

namespace Feed

/-- The account of a channel. -/
def tally (f : Feed) : Channel → Tally
  | .jobStatus => f.jobStatus
  | .jobProgress => f.jobProgress
  | .captureStatus => f.captureStatus

/-- Changes the account of a channel. -/
def update (f : Feed) (channel : Channel) (change : Tally → Tally) : Feed :=
  match channel with
  | .jobStatus => { f with jobStatus := change f.jobStatus }
  | .jobProgress => { f with jobProgress := change f.jobProgress }
  | .captureStatus => { f with captureStatus := change f.captureStatus }

/-- Changing one account changes no other. -/
theorem tally_update (f : Feed) (c d : Channel) (change : Tally → Tally) :
    (f.update c change).tally d = if c = d then change (f.tally d) else f.tally d := by
  cases c <;> cases d <;> rfl

/-- Changing the account of a channel leaves the one for stray lines alone. -/
@[simp] theorem unknown_update (f : Feed) (c : Channel) (change : Tally → Tally) :
    (f.update c change).unknown = f.unknown := by
  cases c <;> rfl

/-- The account under any name; a name that is not used has an empty one. -/
def tallyNamed (f : Feed) (name : Str) : Tally :=
  match Channel.ofName? name with
  | some channel => f.tally channel
  | none => if name = "unknown" then f.unknown else {}

end Feed

/-- The message that an event brings up, if it does. -/
def Event.notice? : Event → Option Str
  | .jobStatus job .failed => some ("Job " ++ job ++ " failed")
  | .jobStatus _ _ => none
  | .jobProgress _ => none
  | .captureStatus state _ => some ("Capture " ++ state.word)

/-- The change that an event makes to the board. -/
def Event.change : Event → Board.Change
  | .jobStatus job status => .ingestJobStatus job status.name
  | .jobProgress progress => .ingestJobProgress progress
  | .captureStatus state session => .ingestCaptureStatus state.name session

/-- The feed together with the board that it is folded into. -/
structure Monitor where
  feed : Feed := {}
  board : Board := {}
  deriving DecidableEq, Repr

/-- What became of an arrival: the verdict, or the fault that it ran into, and the message that it
brought up. -/
structure Arrival where
  monitor : Monitor
  result : Except Fault Bool
  notice : Option Str := none
  deriving DecidableEq

namespace Monitor

/-- Folds a well-formed envelope in. -/
def accept (m : Monitor) (channel : Channel) (envelope : Envelope) : Arrival :=
  let board := m.board.apply envelope.event.change
  let notice := envelope.event.notice?
  { monitor :=
      { feed := m.feed.update channel (·.advance envelope.seq)
        board := match notice with
          | some message => board.setStatusMessage message
          | none => board }
    result := .ok true
    notice }

/-- Counts an envelope that is not well formed. -/
def reject (m : Monitor) (channel : Channel) : Arrival :=
  { monitor := { m with feed := m.feed.update channel Tally.drop }, result := .ok false }

/-- Takes an envelope in from the channel of a name.  Other names are ignored. -/
def ingest (m : Monitor) (name : Str) (raw : Value) : Arrival :=
  match Channel.ofName? name with
  | none => { monitor := m, result := .ok false }
  | some channel =>
      match Envelope.read channel raw with
      | .ok (some envelope) => m.accept channel envelope
      | .ok none => m.reject channel
      | .error fault => { monitor := m, result := .error fault }

/-- Counts a line that belongs to no channel. -/
def stray (m : Monitor) : Arrival :=
  { monitor := { m with feed := { m.feed with unknown := m.feed.unknown.drop } }
    result := .ok false }

/-- Takes in a line, an object with the name of a channel and an envelope.  A blank line is
ignored. -/
def ingestLine (m : Monitor) (line : Str) : Arrival :=
  match Text.stripBy CodePoint.isBlank line.points with
  | [] => { monitor := m, result := .ok false }
  | text =>
      match Json.read text with
      | .error (.malformed ..) => m.stray
      | .error (.tooManyDigits count) => { monitor := m, result := .error (.tooManyDigits count) }
      | .ok record =>
          match record.field "channel" with
          | .str name => m.ingest name (record.field "envelope")
          | _ => m.stray

/-- Takes lines in, one after the other, and counts those that are accepted.  A fault ends it. -/
def ingestLines (m : Monitor) (accepted : Nat) : List Str → Except Fault (Nat × Monitor)
  | [] => .ok (accepted, m)
  | line :: rest =>
      let a := m.ingestLine line
      match a.result with
      | .ok taken => a.monitor.ingestLines (if taken then accepted + 1 else accepted) rest
      | .error fault => .error fault

end Monitor

end CaptureDesk
