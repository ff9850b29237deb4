import CaptureDesk.Proofs.Feed.Run
import Mathlib.Data.List.Induction

/-!
# The board after a run

What a run leaves on the board can be told from the envelopes of each channel and from the handles
that were noted: every item shows what the last envelope for it has said, and what the board started
with when there was none.  A handle only fills in a job of which nothing is known, neither from an
envelope, before or after, nor from the start.

The numbers of the envelopes do not matter, nor does the order in which the channels and the handles
came.  Two runs with the same letters to each channel and the same handles therefore end alike
(`Monitor.fold_run`), except for the message, which is the last that any channel brought up.
-/

namespace CaptureDesk

/-! ## What an envelope tells of an item -/

/-- The channel that an event comes on. -/
def Event.channel : Event → Channel
  | .jobStatus .. => .jobStatus
  | .jobProgress .. => .jobProgress
  | .captureStatus .. => .captureStatus

/-- The status that an event gives a job. -/
def Event.status? (job : Str) : Event → Option Str
  | .jobStatus other status => if other = job then some status.name else none
  | _ => none

/-- The progress that an event gives a job. -/
def Event.progress? (job : Str) : Event → Option Progress
  | .jobProgress progress => if progress.jobId = job then some progress else none
  | _ => none

/-- The state of the capture that an event gives. -/
def Event.captureState? : Event → Option Str
  | .captureStatus state _ => some state.name
  | _ => none

/-- The session that an event names, if its name is not empty. -/
def Event.session? : Event → Option Str
  | .captureStatus _ (some session) => if session = "" then none else some session
  | _ => none

section Elsewhere

variable {event : Event}

theorem Event.status?_eq_none (elsewhere : event.channel ≠ .jobStatus) (job : Str) :
    event.status? job = none := by
  cases event with
  | jobStatus => exact absurd rfl elsewhere
  | jobProgress | captureStatus => rfl

theorem Event.progress?_eq_none (elsewhere : event.channel ≠ .jobProgress) (job : Str) :
    event.progress? job = none := by
  cases event with
  | jobProgress => exact absurd rfl elsewhere
  | jobStatus | captureStatus => rfl

theorem Event.captureState?_eq_none (elsewhere : event.channel ≠ .captureStatus) :
    event.captureState? = none := by
  cases event with
  | captureStatus => exact absurd rfl elsewhere
  | jobStatus | jobProgress => rfl

theorem Event.session?_eq_none (elsewhere : event.channel ≠ .captureStatus) :
    event.session? = none := by
  cases event with
  | captureStatus => exact absurd rfl elsewhere
  | jobStatus | jobProgress => rfl

end Elsewhere

/-- The last thing that some envelopes tell of an item. -/
def lastOf {α : Type} (tells : Event → Option α) (es : List Envelope) : Option α :=
  (es.filterMap fun e => tells e.event).getLast?

theorem lastOf_concat {α : Type} (tells : Event → Option α) (es : List Envelope) (e : Envelope) :
    lastOf tells (es ++ [e]) = (tells e.event).or (lastOf tells es) := by
  unfold lastOf
  rw [List.filterMap_append, List.getLast?_append]
  cases told : tells e.event <;> simp [told]

theorem exists_of_bind_map {α β : Type} {found : Except Fault (Option α)} {make : α → β} {b : β}
    (read : (do let a ← found; pure (a.map make)) = Except.ok (some b)) : ∃ a, make a = b := by
  cases found with
  | error fault => cases read
  | ok found =>
      cases found with
      | none => cases read
      | some a => exact ⟨a, Option.some.inj (Except.ok.inj read)⟩

/-- An event that is read on a channel belongs to it. -/
theorem Event.channel_of_readEvent {c : Channel} {payload : Value} {event : Event}
    (read : Envelope.readEvent c payload = .ok (some event)) : event.channel = c := by
  unfold Envelope.readEvent at read
  split at read
  · split at read
    · cases read
    · obtain ⟨status, rfl⟩ := exists_of_bind_map read
      rfl
  · split at read <;> cases read
    rfl
  · obtain ⟨state, rfl⟩ := exists_of_bind_map read
    rfl
  · cases read

/-- An accepted event has come on its channel. -/
theorem Event.channel_of_accepted {x : Input} {c : Channel} {e : Envelope}
    (accepted : x.accepted? = some (c, e)) : e.event.channel = c := by
  obtain ⟨raw, _, found⟩ := Input.address_of_accepted accepted
  have read := Envelope.read_of_read? found
  unfold Envelope.read at read
  split at read
  · cases read
  · cases event : Envelope.readEvent c (raw.field "payload") with
    | error fault =>
        rw [event] at read
        cases read
    | ok event? =>
        rw [event] at read
        cases event? <;> cases read
        exact Event.channel_of_readEvent event

/-! ## One event -/

/-- The board after an event: it is carried out, and its message shown. -/
def Board.foldIn (b : Board) (event : Event) : Board :=
  match event.notice? with
  | some message => (b.apply event.change).setStatusMessage message
  | none => b.apply event.change

section FoldIn

variable (b : Board) (event : Event)

theorem get?_jobs_foldIn (job : Str) :
    (b.foldIn event).jobs.get? job = (event.status? job).or (b.jobs.get? job) := by
  cases event with
  | jobStatus other status =>
      have put : ((b.foldIn (.jobStatus other status)).jobs).get? job =
          if other = job then some (.plain status.name) else b.jobs.get? job := by
        rw [← Table.get?_put]
        cases status <;> rfl
      rw [put]
      by_cases mine : other = job <;> simp [Event.status?, mine]
  | jobProgress | captureStatus => rfl

theorem get?_jobProgress_foldIn (job : Str) :
    (b.foldIn event).jobProgress.get? job =
      (event.progress? job).or (b.jobProgress.get? job) := by
  cases event with
  | jobStatus other status => cases status <;> rfl
  | jobProgress progress =>
      have put : ((b.foldIn (.jobProgress progress)).jobProgress).get? job =
          if progress.jobId = job then some progress else b.jobProgress.get? job :=
        Table.get?_put ..
      rw [put]
      by_cases mine : progress.jobId = job <;> simp [Event.progress?, mine]
  | captureStatus => rfl

theorem captureState_foldIn :
    (b.foldIn event).captureState = event.captureState?.getD b.captureState := by
  cases event with
  | jobStatus job status => cases status <;> rfl
  | jobProgress | captureStatus => rfl

theorem activeSession_foldIn :
    (b.foldIn event).activeSession = event.session?.or b.activeSession := by
  cases event with
  | jobStatus job status => cases status <;> rfl
  | jobProgress => rfl
  | captureStatus state session =>
      cases session with
      | none => rfl
      | some session =>
          show (if session = "" then b.activeSession else some session) = _
          by_cases blank : session = "" <;> simp [Event.session?, blank]

theorem statusMessage_foldIn :
    (b.foldIn event).statusMessage = event.notice?.getD b.statusMessage := by
  cases event with
  | jobStatus job status => cases status <;> rfl
  | jobProgress | captureStatus => rfl

theorem jobsFlag_foldIn :
    (b.foldIn event).invalidated.jobs = true ↔
      b.invalidated.jobs = true ∨ event.channel = .jobStatus ∨ event.channel = .jobProgress := by
  cases event with
  | jobStatus job status =>
      have raised : (b.foldIn (.jobStatus job status)).invalidated.jobs = true := by
        cases status <;> rfl
      simp [raised, Event.channel]
  | jobProgress progress => simp [Board.foldIn, Event.notice?, Event.change, Board.apply,
      Board.ingestJobProgress, Event.channel]
  | captureStatus state session => simp [Board.foldIn, Event.notice?, Event.change, Board.apply,
      Board.ingestCaptureStatus, Board.setStatusMessage, Event.channel]

theorem captureFlag_foldIn :
    (b.foldIn event).invalidated.capture = true ↔
      b.invalidated.capture = true ∨ event.channel = .captureStatus := by
  cases event with
  | jobStatus job status =>
      have kept : (b.foldIn (.jobStatus job status)).invalidated.capture =
          b.invalidated.capture := by
        cases status <;> rfl
      simp [kept, Event.channel]
  | jobProgress progress => simp [Board.foldIn, Event.notice?, Event.change, Board.apply,
      Board.ingestJobProgress, Event.channel]
  | captureStatus state session => simp [Board.foldIn, Event.notice?, Event.change, Board.apply,
      Board.ingestCaptureStatus, Board.setStatusMessage, Event.channel]

/-- An event changes nothing about the route, the positions, the last error and the session's
flag. -/
theorem frame_foldIn :
    (b.foldIn event).invalidated.session = b.invalidated.session ∧
      (b.foldIn event).activeRoute = b.activeRoute ∧ (b.foldIn event).headSeqs = b.headSeqs ∧
      (b.foldIn event).lastErrorCode = b.lastErrorCode := by
  cases event with
  | jobStatus job status => cases status <;> exact ⟨rfl, rfl, rfl, rfl⟩
  | jobProgress | captureStatus => exact ⟨rfl, rfl, rfl, rfl⟩

end FoldIn

/-! ## What a run leaves on the board -/

/-- The jobs whose handles were noted. -/
def handles (inputs : List Input) : List Str :=
  inputs.filterMap Input.handle?

/-- The messages that some inputs bring up. -/
def notices (inputs : List Input) : List Str :=
  inputs.filterMap fun x => x.accepted?.bind fun a => a.2.event.notice?

/-- The board `now` shows what the inputs, coming to the board `start`, have told. -/
structure Folded (start : Board) (inputs : List Input) (now : Board) : Prop where
  jobs : ∀ job, now.jobs.get? job =
    ((lastOf (Event.status? job) (envelopes .jobStatus inputs)).or (start.jobs.get? job)).or
      (if job ∈ handles inputs then some "QUEUED" else none)
  jobProgress : ∀ job, now.jobProgress.get? job =
    (lastOf (Event.progress? job) (envelopes .jobProgress inputs)).or (start.jobProgress.get? job)
  captureState : now.captureState =
    (lastOf Event.captureState? (envelopes .captureStatus inputs)).getD start.captureState
  activeSession : now.activeSession =
    (lastOf Event.session? (envelopes .captureStatus inputs)).or start.activeSession
  statusMessage : now.statusMessage = (notices inputs).getLast?.getD start.statusMessage
  jobsFlag : now.invalidated.jobs = true ↔
    start.invalidated.jobs = true ∨ envelopes .jobStatus inputs ≠ [] ∨
      envelopes .jobProgress inputs ≠ [] ∨ ∃ job ∈ handles inputs, start.jobs.get? job = none
  captureFlag : now.invalidated.capture = true ↔
    start.invalidated.capture = true ∨ envelopes .captureStatus inputs ≠ []
  sessionFlag : now.invalidated.session = start.invalidated.session
  activeRoute : now.activeRoute = start.activeRoute
  headSeqs : now.headSeqs = start.headSeqs
  lastErrorCode : now.lastErrorCode = start.lastErrorCode

section Folded

variable {start now : Board} {inputs : List Input} {x : Input}

theorem Folded.empty (start : Board) : Folded start [] start where
  jobs _ := by simp [envelopes, handles, lastOf]
  jobProgress _ := rfl
  captureState := rfl
  activeSession := rfl
  statusMessage := rfl
  jobsFlag := by simp [envelopes, handles]
  captureFlag := by simp [envelopes]
  sessionFlag := rfl
  activeRoute := rfl
  headSeqs := rfl
  lastErrorCode := rfl

theorem handles_concat (inputs : List Input) (x : Input) :
    handles (inputs ++ [x]) = handles inputs ++ x.handle?.toList := by
  unfold handles
  rw [List.filterMap_append]
  cases found : x.handle? <;> simp [found]

theorem handle?_of_accepted {a : Channel × Envelope} (accepted : x.accepted? = some a) :
    x.handle? = none := by
  cases x with
  | handle job => cases accepted
  | envelope | line => rfl

theorem notices_concat_accepted {c : Channel} {e : Envelope}
    (accepted : x.accepted? = some (c, e)) :
    notices (inputs ++ [x]) = notices inputs ++ e.event.notice?.toList := by
  unfold notices
  rw [List.filterMap_append]
  cases found : e.event.notice? <;> simp [accepted, found]

theorem notices_concat_other (not : x.accepted? = none) :
    notices (inputs ++ [x]) = notices inputs := by
  unfold notices
  rw [List.filterMap_append]
  simp [not]

/-- What an accepted envelope tells of an item, it tells on the item's channel. -/
theorem lastOf_concat_accepted {α : Type} {tells : Event → Option α} {c d : Channel}
    {e : Envelope} (inputs : List Input)
    (elsewhere : ∀ event : Event, event.channel ≠ d → tells event = none)
    (accepted : x.accepted? = some (c, e)) :
    lastOf tells (envelopes d (inputs ++ [x])) =
      (tells e.event).or (lastOf tells (envelopes d inputs)) := by
  rw [envelopes_concat_accepted accepted]
  by_cases mine : c = d
  · rw [if_pos mine, lastOf_concat]
  · have other : e.event.channel ≠ d := by
      rw [Event.channel_of_accepted accepted]
      exact mine
    rw [if_neg mine, elsewhere _ other, Option.none_or]

theorem envelopes_concat_ne_nil {c d : Channel} {e : Envelope}
    (accepted : x.accepted? = some (c, e)) :
    envelopes d (inputs ++ [x]) ≠ [] ↔ e.event.channel = d ∨ envelopes d inputs ≠ [] := by
  rw [envelopes_concat_accepted accepted, Event.channel_of_accepted accepted]
  by_cases mine : c = d <;> simp [mine]

/-- An accepted envelope is folded in. -/
theorem Folded.accepted (folded : Folded start inputs now) {c : Channel} {e : Envelope}
    (accepted : x.accepted? = some (c, e)) :
    Folded start (inputs ++ [x]) (now.foldIn e.event) := by
  have sameHandles : handles (inputs ++ [x]) = handles inputs := by
    rw [handles_concat, handle?_of_accepted accepted]
    exact List.append_nil _
  obtain ⟨session, route, heads, error⟩ := frame_foldIn now e.event
  refine ⟨?_, ?_, ?_, ?_, ?_, ?_, ?_, session.trans folded.sessionFlag,
    route.trans folded.activeRoute, heads.trans folded.headSeqs, error.trans folded.lastErrorCode⟩
  · intro job
    have told := lastOf_concat_accepted inputs
      (fun _ elsewhere => Event.status?_eq_none elsewhere job) accepted
    rw [get?_jobs_foldIn, folded.jobs, told, sameHandles]
    simp only [Option.or_assoc]
  · intro job
    have told := lastOf_concat_accepted inputs
      (fun _ elsewhere => Event.progress?_eq_none elsewhere job) accepted
    rw [get?_jobProgress_foldIn, folded.jobProgress, told]
    simp only [Option.or_assoc]
  · have told := lastOf_concat_accepted inputs
      (fun _ elsewhere => Event.captureState?_eq_none elsewhere) accepted
    rw [captureState_foldIn, folded.captureState, told]
    cases e.event.captureState? <;> rfl
  · have told := lastOf_concat_accepted inputs
      (fun _ elsewhere => Event.session?_eq_none elsewhere) accepted
    rw [activeSession_foldIn, folded.activeSession, told]
    simp only [Option.or_assoc]
  · rw [statusMessage_foldIn, folded.statusMessage, notices_concat_accepted accepted,
      List.getLast?_append]
    cases e.event.notice? <;> rfl
  · rw [jobsFlag_foldIn, folded.jobsFlag, envelopes_concat_ne_nil accepted,
      envelopes_concat_ne_nil accepted, sameHandles]
    simp only [or_assoc, or_left_comm, or_comm]
  · rw [captureFlag_foldIn, folded.captureFlag, envelopes_concat_ne_nil accepted]
    tauto

/-- An input that is neither accepted nor a handle changes nothing. -/
theorem Folded.other (folded : Folded start inputs now) (not : x.accepted? = none)
    (noHandle : x.handle? = none) : Folded start (inputs ++ [x]) now := by
  have sameHandles : handles (inputs ++ [x]) = handles inputs := by
    rw [handles_concat, noHandle]
    exact List.append_nil _
  have same : ∀ c, envelopes c (inputs ++ [x]) = envelopes c inputs := envelopes_concat_other not
  constructor
  case sessionFlag => exact folded.sessionFlag
  case activeRoute => exact folded.activeRoute
  case headSeqs => exact folded.headSeqs
  case lastErrorCode => exact folded.lastErrorCode
  all_goals simp only [same, sameHandles, notices_concat_other not]
  · exact folded.jobs
  · exact folded.jobProgress
  · exact folded.captureState
  · exact folded.activeSession
  · exact folded.statusMessage
  · exact folded.jobsFlag
  · exact folded.captureFlag

theorem get?_jobs_recordJobHandle (b : Board) (job other : Str) :
    (b.recordJobHandle job).jobs.get? other =
      (b.jobs.get? other).or (if job = other then some "QUEUED" else none) := by
  unfold Board.recordJobHandle
  rw [Table.has_eq_isSome]
  cases known : b.jobs.get? job with
  | some status =>
      by_cases same : job = other
      · subst same
        simp [known]
      · simp [same]
  | none =>
      simp only [Option.isSome_none, Bool.false_eq_true, if_false]
      rw [Table.get?_put]
      by_cases same : job = other
      · subst same
        simp [known]
      · simp [same]

theorem jobsFlag_recordJobHandle (b : Board) (job : Str) :
    (b.recordJobHandle job).invalidated.jobs = true ↔
      b.invalidated.jobs = true ∨ b.jobs.get? job = none := by
  unfold Board.recordJobHandle
  rw [Table.has_eq_isSome]
  cases known : b.jobs.get? job <;> simp

/-- Noting a handle changes nothing beside the jobs and their flag. -/
theorem frame_recordJobHandle (b : Board) (job : Str) :
    b.recordJobHandle job =
      { b with
        jobs := (b.recordJobHandle job).jobs
        invalidated :=
          { b.invalidated with jobs := (b.recordJobHandle job).invalidated.jobs } } := by
  unfold Board.recordJobHandle
  split <;> rfl

/-- A handle fills in a job of which nothing is known. -/
theorem Folded.handle (folded : Folded start inputs now) (job : Str) :
    Folded start (inputs ++ [.handle job]) (now.recordJobHandle job) := by
  have not : (Input.handle job).accepted? = none := rfl
  have same : ∀ c, envelopes c (inputs ++ [.handle job]) = envelopes c inputs :=
    envelopes_concat_other not
  have more : handles (inputs ++ [.handle job]) = handles inputs ++ [job] :=
    handles_concat inputs (.handle job)
  have jobs := get?_jobs_recordJobHandle now job
  have flag := jobsFlag_recordJobHandle now job
  rw [frame_recordJobHandle]
  generalize now.recordJobHandle job = next at jobs flag ⊢
  constructor
  case sessionFlag => exact folded.sessionFlag
  case activeRoute => exact folded.activeRoute
  case headSeqs => exact folded.headSeqs
  case lastErrorCode => exact folded.lastErrorCode
  all_goals simp only [same, more, notices_concat_other not]
  · intro other
    rw [jobs, folded.jobs, Option.or_assoc]
    congr 1
    by_cases mine : job = other
    · subst mine
      by_cases already : job ∈ handles inputs <;> simp [already]
    · have apart : ¬ other = job := fun e => mine e.symm
      simp [mine, apart]
  · exact folded.jobProgress
  · exact folded.captureState
  · exact folded.activeSession
  · exact folded.statusMessage
  · rw [flag, folded.jobsFlag, folded.jobs]
    constructor
    · intro h
      rcases h with (raised | told | told | ⟨other, noted, unknown⟩) | unknown
      · exact Or.inl raised
      · exact Or.inr (Or.inl told)
      · exact Or.inr (Or.inr (Or.inl told))
      · exact Or.inr (Or.inr (Or.inr ⟨other, List.mem_append_left _ noted, unknown⟩))
      · have absent := (Option.or_eq_none_iff.mp (Option.or_eq_none_iff.mp unknown).1).2
        exact Or.inr (Or.inr (Or.inr
          ⟨job, List.mem_append_right _ List.mem_cons_self, absent⟩))
    · intro h
      rcases h with raised | told | told | ⟨other, noted, unknown⟩
      · exact Or.inl (Or.inl raised)
      · exact Or.inl (Or.inr (Or.inl told))
      · exact Or.inl (Or.inr (Or.inr (Or.inl told)))
      · by_cases before : other ∈ handles inputs
        · exact Or.inl (Or.inr (Or.inr (Or.inr ⟨other, before, unknown⟩)))
        -- A job that is now known without being known at first was told of by an envelope.
        by_cases told : envelopes .jobStatus inputs = []
        · have new : other = job := by
            rcases List.mem_append.mp noted with old | new
            · exact absurd old before
            · exact List.mem_singleton.mp new
          subst new
          right
          rw [told, unknown, if_neg before]
          rfl
        · exact Or.inl (Or.inr (Or.inl told))
  · exact folded.captureFlag

end Folded

theorem Monitor.board_accept (m : Monitor) (c : Channel) (e : Envelope) :
    (m.accept c e).monitor.board = m.board.foldIn e.event := by
  unfold accept Board.foldIn
  cases e.event.notice? <;> rfl

theorem Folded.of_run (m : Monitor) (inputs : List Input) :
    Folded m.board inputs (m.run inputs).board := by
  induction inputs using List.reverseRecOn with
  | nil => exact .empty m.board
  | append_singleton inputs x ih =>
      rw [Monitor.run_concat]
      cases accepted : x.accepted? with
      | some a =>
          rw [Monitor.receive_of_accepted accepted, Monitor.board_accept]
          exact ih.accepted accepted
      | none =>
          rw [(Monitor.receive_of_not_accepted accepted).2]
          cases x with
          | handle job => exact ih.handle job
          | envelope | line => exact ih.other accepted rfl

/-! ## Runs that differ in their order -/

/-- Two runs carry the same events on each channel, and the same handles. -/
structure SameEvents (inputs other : List Input) : Prop where
  events : ∀ c, (envelopes c inputs).map Envelope.event = (envelopes c other).map Envelope.event
  noted : ∀ job, job ∈ handles inputs ↔ job ∈ handles other

/-- Two runs carry the same letters to each channel, and the same handles. -/
structure SameLetters (inputs other : List Input) : Prop where
  arrived : ∀ c, letters c inputs = letters c other
  noted : ∀ job, job ∈ handles inputs ↔ job ∈ handles other

/-- Two boards show the same, but for the message and for the order in which the jobs came. -/
structure Alike (b b' : Board) : Prop where
  jobs : ∀ job, b.jobs.get? job = b'.jobs.get? job
  jobProgress : ∀ job, b.jobProgress.get? job = b'.jobProgress.get? job
  captureState : b.captureState = b'.captureState
  activeSession : b.activeSession = b'.activeSession
  invalidated : b.invalidated = b'.invalidated
  activeRoute : b.activeRoute = b'.activeRoute
  headSeqs : b.headSeqs = b'.headSeqs
  lastErrorCode : b.lastErrorCode = b'.lastErrorCode

section Order

variable {inputs other : List Input}

theorem lastOf_eq_of_events {α : Type} {es es' : List Envelope}
    (same : es.map Envelope.event = es'.map Envelope.event) (tells : Event → Option α) :
    lastOf tells es = lastOf tells es' := by
  have byEvents : ∀ es : List Envelope,
      lastOf tells es = ((es.map Envelope.event).filterMap tells).getLast? := by
    intro es
    rw [List.filterMap_map]
    rfl
  rw [byEvents, byEvents, same]

theorem ne_nil_iff_of_events {es es' : List Envelope}
    (same : es.map Envelope.event = es'.map Envelope.event) : es ≠ [] ↔ es' ≠ [] := by
  rw [not_iff_not, ← List.map_eq_nil_iff (f := Envelope.event), same, List.map_eq_nil_iff]

theorem SameLetters.sameEvents (same : SameLetters inputs other) : SameEvents inputs other where
  events c := by rw [envelopes_eq_letters, envelopes_eq_letters, same.arrived c]
  noted := same.noted

/-- What runs with the same events leave on a board is alike. -/
theorem SameEvents.alike (same : SameEvents inputs other) {start b b' : Board}
    (folded : Folded start inputs b) (folded' : Folded start other b') : Alike b b' := by
  have noted : ∀ job, (if job ∈ handles inputs then some (Str.plain "QUEUED") else none) =
      if job ∈ handles other then some (.plain "QUEUED") else none := by
    intro job
    simp only [same.noted job]
  have statuses := same.events .jobStatus
  have progresses := same.events .jobProgress
  have captures := same.events .captureStatus
  have jobsFlag : b.invalidated.jobs = b'.invalidated.jobs := by
    rw [Bool.eq_iff_iff, folded.jobsFlag, folded'.jobsFlag, ne_nil_iff_of_events statuses,
      ne_nil_iff_of_events progresses]
    simp only [same.noted]
  have captureFlag : b.invalidated.capture = b'.invalidated.capture := by
    rw [Bool.eq_iff_iff, folded.captureFlag, folded'.captureFlag, ne_nil_iff_of_events captures]
  have sessionFlag := folded.sessionFlag.trans folded'.sessionFlag.symm
  constructor
  · intro job
    rw [folded.jobs, folded'.jobs, lastOf_eq_of_events statuses, noted]
  · intro job
    rw [folded.jobProgress, folded'.jobProgress, lastOf_eq_of_events progresses]
  · rw [folded.captureState, folded'.captureState, lastOf_eq_of_events captures]
  · rw [folded.activeSession, folded'.activeSession, lastOf_eq_of_events captures]
  · cases flags : b.invalidated
    cases flags' : b'.invalidated
    simp only [flags, flags'] at jobsFlag captureFlag sessionFlag
    simp only [jobsFlag, captureFlag, sessionFlag]
  · rw [folded.activeRoute, folded'.activeRoute]
  · rw [folded.headSeqs, folded'.headSeqs]
  · rw [folded.lastErrorCode, folded'.lastErrorCode]

end Order

namespace Monitor

/-- **What a run leaves on the board, and what its order does to it.**  Every item shows what was
last told of it.  Runs with the same events on each channel and the same handles leave boards that
are alike, whatever the numbers, and with the same letters the accounts are equal as well. -/
theorem fold_run (m : Monitor) (inputs : List Input) :
    Folded m.board inputs (m.run inputs).board ∧
      (∀ other, SameEvents inputs other → Alike (m.run inputs).board (m.run other).board) ∧
      ∀ other, SameLetters inputs other →
        Alike (m.run inputs).board (m.run other).board ∧
          ∀ c, (m.run inputs).feed.tally c = (m.run other).feed.tally c := by
  have alike : ∀ other, SameEvents inputs other →
      Alike (m.run inputs).board (m.run other).board := by
    intro other same
    exact same.alike (.of_run m inputs) (.of_run m other)
  refine ⟨.of_run m inputs, alike, ?_⟩
  intro other same
  refine ⟨alike other same.sameEvents, ?_⟩
  intro c
  rw [tally_run, tally_run, same.arrived c]

/-- The status of a job comes before its handle, or after it. -/
theorem alike_of_handle_first :
    let running : Input := .envelope "job_status"
      (.object [("stream_seq", .int 1),
        ("payload", .object [("job_id", .str "j1"), ("status", .str "RUNNING")])])
    let handle : Input := .handle "j1"
    SameLetters [running, handle] [handle, running] ∧
      Alike (({} : Monitor).run [running, handle]).board
        (({} : Monitor).run [handle, running]).board := by
  intro running handle
  have same : SameLetters [running, handle] [handle, running] := by
    constructor
    · intro c
      cases c <;> rfl
    · intro job
      exact Iff.rfl
  exact ⟨same, ((fold_run {} [running, handle]).2.2 _ same).1⟩

/-- A handle does not fill in a job of which something was known from the start. -/
theorem handle_keeps_known_status :
    ¬ ∀ (m : Monitor) (inputs : List Input) (job : Str),
      (m.run inputs).board.jobs.get? job =
        (lastOf (Event.status? job) (envelopes .jobStatus inputs)).or
          (if job ∈ handles inputs then some "QUEUED" else m.board.jobs.get? job) := by
  intro overwritten
  have known := overwritten { board := { jobs := [("j1", "RUNNING")] } } [.handle "j1"] "j1"
  revert known
  decide

end Monitor

end CaptureDesk
