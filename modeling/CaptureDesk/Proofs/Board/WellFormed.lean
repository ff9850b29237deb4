import CaptureDesk.Proofs.Feed.Verdict
import CaptureDesk.Proofs.Positions.Writers

/-!
# Boards that are well formed

Whatever a backend answers and whatever the feed brings, the board never shows a status, a state or
an error code outside its closed list, nor progress out of range or under another job's name, nor an
empty active session, nor a position that is not a whole number from an answer.

What a change must bring along for this is said once (`Board.Change.Sound`).  A sound change keeps a
well-formed board so (`Board.wellFormed_apply`).  The flow, a revision and a screen make none but
sound changes (`Procedure.Only`), and neither does an event that is read (`Envelope.sound_read`), so
every course of calls keeps the board well formed (`Workbench.wellFormed_run`).
-/

namespace CaptureDesk

/-- The closed lists of words for statuses, states and error codes. -/
def JobStatus.names : List Str := JobStatus.all.map fun status => .plain status.name

@[inherit_doc JobStatus.names]
def CaptureState.names : List Str := CaptureState.all.map fun state => .plain state.name

@[inherit_doc JobStatus.names]
def ErrorCode.names : List Str := ErrorCode.all.map fun code => .plain code.name

theorem JobStatus.name_mem (status : JobStatus) : .plain status.name ∈ JobStatus.names := by
  cases status <;> decide

theorem CaptureState.name_mem (state : CaptureState) : .plain state.name ∈ CaptureState.names := by
  cases state <;> decide

theorem ErrorCode.name_mem (code : ErrorCode) : .plain code.name ∈ ErrorCode.names :=
  List.mem_map_of_mem (ErrorCode.mem_all code)

/-- Progress of a job with a name, with a percentage and with counters that are none below zero. -/
structure Progress.InRange (p : Progress) : Prop where
  named : p.jobId ≠ ""
  pct_nonneg : 0 ≤ p.pct
  pct_le : p.pct ≤ 100
  done_nonneg : 0 ≤ p.done
  total_nonneg : 0 ≤ p.total

namespace Board

/-- A board that screens can rely on; `head` tells which positions may be noted. -/
structure WellFormed (head : Int → Prop) (b : Board) : Prop where
  jobs : ∀ entry ∈ b.jobs, entry.2 ∈ JobStatus.names
  progress : ∀ entry ∈ b.jobProgress, entry.2.jobId = entry.1 ∧ entry.2.InRange
  capture : b.captureState ∈ CaptureState.names
  active : b.activeSession ≠ some (Str.plain "")
  heads : ∀ entry ∈ b.headSeqs, head entry.2
  lastError : ∀ code, b.lastErrorCode = some code → code ∈ ErrorCode.names

/-- What a change must bring along to keep a board well formed. -/
def Change.Sound (head : Int → Prop) : Change → Prop
  | .setActiveSession session => session ≠ some (Str.plain "")
  | .setHeadSeq _ position => head position
  | .ingestJobStatus _ status => status ∈ JobStatus.names
  | .ingestJobProgress progress => progress.InRange
  | .ingestCaptureStatus state _ => state ∈ CaptureState.names
  | .setLastError code => ∀ c, code = some c → c ∈ ErrorCode.names
  | .setActiveRoute _ | .recordJobHandle _ | .clearInvalidations | .setStatusMessage _ => True

variable {head : Int → Prop} {b : Board}

/-- A fresh board is well formed, whichever route it starts on. -/
theorem wellFormed_fresh (route : Str) : WellFormed head { activeRoute := route } where
  jobs := nofun
  progress := nofun
  capture := CaptureState.name_mem .idle
  active := nofun
  heads := nofun
  lastError := nofun

/-- A status for a job keeps the jobs well formed. -/
theorem WellFormed.jobs_put (wellFormed : b.WellFormed head) (job : Str) {status : Str}
    (allowed : status ∈ JobStatus.names) :
    ∀ entry ∈ b.jobs.put job status, entry.2 ∈ JobStatus.names := by
  intro entry member
  rcases Table.eq_or_mem_of_mem_put member with rfl | old
  · exact allowed
  · exact wellFormed.jobs entry old

/-- A sound change keeps a well-formed board so. -/
theorem wellFormed_apply (wellFormed : b.WellFormed head) {c : Change} (sound : c.Sound head) :
    (b.apply c).WellFormed head := by
  obtain ⟨jobs, progress, capture, active, heads, lastError⟩ := id wellFormed
  cases c with
  | setActiveRoute | clearInvalidations | setStatusMessage =>
      exact ⟨jobs, progress, capture, active, heads, lastError⟩
  | setLastError code => exact ⟨jobs, progress, capture, active, heads, sound⟩
  | setActiveSession session =>
      show (b.setActiveSession session).WellFormed head
      unfold setActiveSession
      split
      · exact wellFormed
      · exact ⟨jobs, progress, capture, sound, heads, lastError⟩
  | setHeadSeq session position =>
      show (b.setHeadSeq session position).WellFormed head
      unfold setHeadSeq
      split
      · refine ⟨jobs, progress, capture, active, ?_, lastError⟩
        intro entry member
        rcases Table.eq_or_mem_of_mem_put member with rfl | old
        · exact sound
        · exact heads entry old
      · exact wellFormed
  | ingestJobStatus job status =>
      exact ⟨wellFormed.jobs_put job sound, progress, capture, active, heads, lastError⟩
  | recordJobHandle job =>
      have queued := wellFormed.jobs_put job (JobStatus.name_mem .queued)
      show (b.recordJobHandle job).WellFormed head
      unfold recordJobHandle
      split
      · exact wellFormed
      · exact ⟨queued, progress, capture, active, heads, lastError⟩
  | ingestJobProgress p =>
      refine ⟨jobs, ?_, capture, active, heads, lastError⟩
      intro entry member
      rcases Table.eq_or_mem_of_mem_put member with rfl | old
      · exact ⟨rfl, sound⟩
      · exact progress entry old
  | ingestCaptureStatus state session =>
      -- A session without a name is passed over, so the active one needs no condition here.
      refine ⟨jobs, progress, sound, ?_, heads, lastError⟩
      show (b.ingestCaptureStatus state session).activeSession ≠ some (Str.plain "")
      unfold ingestCaptureStatus
      dsimp only
      split
      · split
        · exact active
        · simpa
      · exact active

end Board

/-! ## Events -/

namespace Envelope

variable {head : Int → Prop}

/-- What is made of a word that is looked up, or of a payload, is made of something. -/
theorem exists_of_map {α β : Type} {found : Except Fault (Option α)} {make : α → β} {made : β}
    (read : (do let a ← found; pure (a.map make)) = Except.ok (some made)) :
    ∃ a, found = .ok (some a) ∧ make a = made := by
  cases found with
  | error fault => cases read
  | ok a =>
      cases a with
      | none => cases read
      | some a =>
          cases read
          exact ⟨a, rfl, rfl⟩

theorem count_nonneg (v : Value) : 0 ≤ count v :=
  le_max_left 0 _

/-- What a payload is read as brings a sound change. -/
theorem sound_readEvent {channel : Channel} {payload : Value} {event : Event}
    (read : readEvent channel payload = .ok (some event)) : event.change.Sound head := by
  unfold readEvent at read
  split at read
  · split at read
    · cases read
    · obtain ⟨status, _, rfl⟩ := exists_of_map read
      exact status.name_mem
  · split at read
    · rename_i job pct named _
      cases read
      exact ⟨(Value.nonEmptyStr?_eq_some named).1, le_max_left 0 _,
        max_le (by decide) (min_le_left _ _), count_nonneg _, count_nonneg _⟩
    · cases read
  · obtain ⟨state, _, rfl⟩ := exists_of_map read
    exact state.name_mem
  · cases read

/-- What is read brings a sound change. -/
theorem sound_read {channel : Channel} {raw : Value} {envelope : Envelope}
    (taken : read channel raw = .ok (some envelope)) : envelope.event.change.Sound head := by
  unfold read at taken
  split at taken
  · cases taken
  · obtain ⟨event, read, rfl⟩ := exists_of_map taken
    exact sound_readEvent read

end Envelope

/-! ## Procedures -/

/-- An act that keeps a well-formed board so. -/
def Act.Sound (head : Int → Prop) : Act → Prop
  | .change c => c.Sound head
  | .report _ | .announce _ => True

/-- The position that an answer reports, if it reports one, may be noted. -/
def Outcome.HeadIn (head : Int → Prop) : Outcome → Prop
  | .success value => ∀ n, value.field "head_seq" = .int n → head n
  | .failure _ => True

section Procedures

variable {head : Int → Prop}

/-- Every procedure that is *sound* makes sound changes alone, on hearing positions that may be
noted. -/
abbrev Procedure.Sound {α : Type} (head : Int → Prop) (t : Procedure α) : Prop :=
  t.Only (Act.Sound head) (Outcome.HeadIn head)

/-- Sound procedures keep the board well formed, whatever they are answered and however they end. -/
theorem Procedure.Sound.run {α σ : Type} {link : Link σ} {t : Procedure α} (sound : t.Sound head)
    (answers : ∀ request state answer,
      (link request state).outcome = .ok answer → answer.HeadIn head)
    {d : Desk σ} (wellFormed : d.board.WellFormed head) :
    (t.run link d).2.board.WellFormed head := by
  refine Only.run sound answers ?_ wellFormed
  intro d a sound wellFormed
  cases a with
  | report | announce => exact wellFormed
  | change c => exact Board.wellFormed_apply wellFormed sound

namespace Production

theorem routine_sound : Act.Routine (Act.Sound head) where
  report _ := trivial
  announce _ := trivial
  handle _ := trivial
  message _ := trivial
  noError := nofun
  error code := by
    intro name same
    cases same
    exact code.name_mem

theorem sound_seed (zero : head 0) {answer : Outcome} (fine : answer.HeadIn head) :
    (seed answer).Sound head := by
  cases answer with
  | failure error => trivial
  | success value =>
      cases named : (value.field "session_id").nonEmptyStr? with
      | none =>
          simp only [seed, named]
          trivial
      | some session =>
          simp only [seed, named]
          refine ⟨?_, ?_⟩
          · intro blank
            cases blank
            exact (Value.nonEmptyStr?_eq_some named).1 rfl
          · cases start : startPosition value with
            | none => trivial
            | some n =>
                refine ⟨?_, trivial⟩
                rcases eq_zero_or_reported start with rfl | reported
                · exact zero
                · exact fine n reported

theorem sound_flow (zero : head 0) (order : Order) : (flow order).Sound head := by
  obtain ⟨later, split, routine⟩ := exists_later order
  have first : (openSession order).Only (Act.Sound head) (Outcome.HeadIn head) := by
    unfold Staged.Only
    rw [run_openSession]
    exact ⟨trivial, trivial, fun answer fine => sound_seed zero fine⟩
  refine Procedure.Only.bind ?_ (only_conclude routine_sound)
  rw [split]
  exact first.bind (routine routine_sound)

end Production

namespace Revision

theorem sound_conclude (session : Str) {answer : Outcome} (fine : answer.HeadIn head) :
    (conclude true session answer).Sound head := by
  cases answer with
  | failure error =>
      refine ⟨?_, trivial⟩
      intro name same
      cases same
      exact error.code.name_mem
  | success value =>
      cases applied : appliedAt value with
      | none =>
          simp only [conclude, applied]
          trivial
      | some n =>
          simp only [conclude, applied]
          exact ⟨fine n (reported_of_appliedAt applied), trivial⟩

theorem sound_retry (e : Edit) {listed : Outcome} (fine : listed.HeadIn head) :
    (retry e listed).Sound head := by
  unfold retry
  cases found : position e.session listed with
  | error error => exact ⟨trivial, sound_conclude e.session trivial⟩
  | ok n =>
      obtain ⟨value, rfl, reported⟩ := reported_of_position found
      exact ⟨fine n reported, trivial, fun second fine => sound_conclude e.session fine⟩

theorem sound_perform (e : Edit) : (perform true e).Sound head := by
  refine ⟨trivial, fun first fine => ?_⟩
  cases first with
  | success value => exact sound_conclude e.session fine
  | failure error =>
      rcases error with ⟨code, message, details, recoverable, hint⟩
      cases code with
      | conflict => exact ⟨trivial, fun listed fine => sound_retry e fine⟩
      | _ => exact sound_conclude e.session fine

end Revision

theorem Screen.sound_load (zero : head 0) (route : Route) (session : Option Str) :
    (load route session).Sound head := by
  refine only_load session fun _ session listed fine => ?_
  cases listed with
  | failure error => trivial
  | success value =>
      refine ⟨?_, trivial⟩
      show head ((value.field "head_seq").int?.getD 0)
      cases reported : (value.field "head_seq").int? with
      | none => exact zero
      | some n => exact fine n (Production.eq_int_of_int? reported)

end Procedures

/-! ## Calls -/

/-- A call on what shares a board: a screen is loaded, the flow is run, a step is revised, or
something reaches the feed. -/
inductive Call where
  | load (route : Str)
  | produce (order : Production.Order)
  | revise (edit : Revision.Edit)
  | receive (input : Input)

/-- A desk, and a feed that is folded into its board. -/
structure Workbench (σ : Type) where
  desk : Desk σ
  feed : Feed := {}

namespace Workbench

variable {σ : Type}

/-- Carries a call out.  A fault that it ends in does not undo what it did. -/
def perform (link : Link σ) (w : Workbench σ) : Call → Workbench σ
  | .load route => { w with desk := (w.desk.loadRoute link route).2 }
  | .produce order => { w with desk := ((Production.flow order).run link w.desk).2 }
  | .revise edit => { w with desk := ((Revision.perform true edit).run link w.desk).2 }
  | .receive input =>
      let m := (Monitor.receive { feed := w.feed, board := w.desk.board } input).monitor
      { desk := { w.desk with board := m.board }, feed := m.feed }

/-- Carries calls out one after another. -/
def run (link : Link σ) (w : Workbench σ) (calls : List Call) : Workbench σ :=
  calls.foldl (perform link) w

end Workbench

/-- Whether a success over the link may report the position `n`. -/
def Link.Reports {σ : Type} (link : Link σ) (n : Int) : Prop :=
  ∃ request state value,
    (link request state).outcome = .ok (.success value) ∧ value.field "head_seq" = .int n

section Calls

variable {σ : Type} {head : Int → Prop}

/-- What reaches the feed keeps the board well formed. -/
theorem Monitor.wellFormed_receive {m : Monitor} (wellFormed : m.board.WellFormed head)
    (x : Input) : (m.receive x).monitor.board.WellFormed head := by
  cases accepted : x.accepted? with
  | some a =>
      obtain ⟨channel, envelope⟩ := a
      obtain ⟨raw, _, read⟩ := Input.address_of_accepted accepted
      have sound : envelope.event.change.Sound head :=
        Envelope.sound_read (Envelope.read_of_read? read)
      have folded := Board.wellFormed_apply wellFormed sound
      rw [receive_of_accepted accepted]
      unfold accept
      cases envelope.event.notice? with
      | none => exact folded
      | some message => exact Board.wellFormed_apply (c := .setStatusMessage message) folded trivial
  | none =>
      rw [(receive_of_not_accepted accepted).2]
      cases x.handle? with
      | none => exact wellFormed
      | some job => exact Board.wellFormed_apply wellFormed trivial

/-- Every call keeps the board well formed. -/
theorem Workbench.wellFormed_perform {link : Link σ} (zero : head 0)
    (answers : ∀ request state answer,
      (link request state).outcome = .ok answer → answer.HeadIn head)
    {w : Workbench σ} (wellFormed : w.desk.board.WellFormed head) (call : Call) :
    (w.perform link call).desk.board.WellFormed head := by
  cases call with
  | produce order => exact (Production.sound_flow zero order).run answers wellFormed
  | revise edit => exact (Revision.sound_perform edit).run answers wellFormed
  | receive input => exact Monitor.wellFormed_receive wellFormed input
  | load route =>
      show (w.desk.loadRoute link route).2.board.WellFormed head
      unfold Desk.loadRoute
      split
      · exact wellFormed
      · rename_i shown _
        refine (Screen.sound_load zero shown _).run answers ?_
        exact Board.wellFormed_apply (c := .setActiveRoute shown.name) wellFormed trivial

/-- **Well-formed in every reachable state.**  From a fresh board, over any link and in the course
of any calls, the board stays well formed, and the positions on it are zero or were reported as
whole numbers by answers of the link. -/
theorem Workbench.wellFormed_run (link : Link σ) (state : σ) (route : Str) (calls : List Call) :
    let fresh : Workbench σ := { desk := { board := { activeRoute := route }, link := state } }
    (fresh.run link calls).desk.board.WellFormed fun n => n = 0 ∨ link.Reports n := by
  intro fresh
  have answers : ∀ request state answer, (link request state).outcome = .ok answer →
      answer.HeadIn fun n => n = 0 ∨ link.Reports n := by
    intro request state answer answered
    cases answer with
    | failure error => trivial
    | success value => exact fun n reported => Or.inr ⟨request, state, value, answered, reported⟩
  have start : fresh.desk.board.WellFormed fun n => n = 0 ∨ link.Reports n :=
    Board.wellFormed_fresh route
  unfold run
  generalize fresh = w at start ⊢
  induction calls generalizing w with
  | nil => exact start
  | cons call calls ih => exact ih _ (wellFormed_perform (Or.inl rfl) answers start call)

end Calls

end CaptureDesk
