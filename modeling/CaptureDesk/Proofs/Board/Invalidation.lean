import CaptureDesk.Board
import Mathlib.Tactic.Common

/-!
# No missed change

A reader of the board keeps what it has read, clears the flags, and later looks at the flags alone
to see whether that is still good.  Two boards are *flagged* when the flags of the second tell all
that has changed since the first: an item under a flag that is down is as it was, and the flag was
down before.  Every change but a clearing leads to a flagged board, and being flagged is transitive,
so a sequence of changes after a clearing misses nothing (`unmissed_applyAll`).

The active session stands under two flags, since it is set for its own sake and by the state of the
capture.  The flag of the session says nothing without cause: it goes up just when a change makes
another session active or has news about a session (`Change.IsSessionNews`).
-/

namespace CaptureDesk.Board

/-- `b.Flagged later`: what has changed from `b` to `later` is told by the flags of `later`. -/
structure Flagged (b later : Board) : Prop where
  jobs : later.invalidated.jobs = false →
    b.invalidated.jobs = false ∧ later.jobs = b.jobs ∧ later.jobProgress = b.jobProgress
  capture : later.invalidated.capture = false →
    b.invalidated.capture = false ∧ later.captureState = b.captureState
  session : later.invalidated.session = false →
    b.invalidated.session = false ∧ later.headSeqs = b.headSeqs
  active : later.invalidated.session = false → later.invalidated.capture = false →
    later.activeSession = b.activeSession

theorem Flagged.refl (b : Board) : b.Flagged b where
  jobs down := ⟨down, rfl, rfl⟩
  capture down := ⟨down, rfl⟩
  session down := ⟨down, rfl⟩
  active _ _ := rfl

theorem Flagged.trans {b between later : Board} (first : b.Flagged between)
    (second : between.Flagged later) : b.Flagged later where
  jobs down := by
    obtain ⟨down, jobs, progress⟩ := second.jobs down
    obtain ⟨down, jobs', progress'⟩ := first.jobs down
    exact ⟨down, jobs.trans jobs', progress.trans progress'⟩
  capture down := by
    obtain ⟨down, state⟩ := second.capture down
    obtain ⟨down, state'⟩ := first.capture down
    exact ⟨down, state.trans state'⟩
  session down := by
    obtain ⟨down, heads⟩ := second.session down
    obtain ⟨down, heads'⟩ := first.session down
    exact ⟨down, heads.trans heads'⟩
  active session capture :=
    (second.active session capture).trans
      (first.active (second.session session).1 (second.capture capture).1)

/-! ## One change -/

/-- A board that differs only where no flag has a say, and in flags that have gone up, is
flagged. -/
theorem flagged_of_eq {b later : Board} (flags : later.invalidated = b.invalidated)
    (jobs : later.jobs = b.jobs) (progress : later.jobProgress = b.jobProgress)
    (capture : later.captureState = b.captureState) (heads : later.headSeqs = b.headSeqs)
    (active : later.activeSession = b.activeSession) : b.Flagged later where
  jobs down := ⟨flags ▸ down, jobs, progress⟩
  capture down := ⟨flags ▸ down, capture⟩
  session down := ⟨flags ▸ down, heads⟩
  active _ _ := active

section

variable (b : Board)

theorem flagged_setActiveSession (session : Option Str) :
    b.Flagged (b.setActiveSession session) := by
  unfold setActiveSession
  split
  · exact .refl b
  · exact ⟨fun down => ⟨down, rfl, rfl⟩, fun down => ⟨down, rfl⟩, nofun, nofun⟩

theorem flagged_setHeadSeq (session : Str) (head : Int) :
    b.Flagged (b.setHeadSeq session head) := by
  unfold setHeadSeq
  split
  · exact ⟨fun down => ⟨down, rfl, rfl⟩, fun down => ⟨down, rfl⟩, nofun, nofun⟩
  · exact .refl b

theorem flagged_recordJobHandle (job : Str) : b.Flagged (b.recordJobHandle job) := by
  unfold recordJobHandle
  split
  · exact .refl b
  · exact ⟨nofun, fun down => ⟨down, rfl⟩, fun down => ⟨down, rfl⟩, fun _ _ => rfl⟩

/-- Every change but a clearing leads to a flagged board. -/
theorem flagged_apply {c : Change} (keeps : c ≠ .clearInvalidations) : b.Flagged (b.apply c) := by
  cases c with
  | clearInvalidations => exact absurd rfl keeps
  | setActiveSession session => exact b.flagged_setActiveSession session
  | setHeadSeq session head => exact b.flagged_setHeadSeq session head
  | recordJobHandle job => exact b.flagged_recordJobHandle job
  | ingestJobStatus | ingestJobProgress =>
      exact ⟨nofun, fun down => ⟨down, rfl⟩, fun down => ⟨down, rfl⟩, fun _ _ => rfl⟩
  | ingestCaptureStatus =>
      exact ⟨fun down => ⟨down, rfl, rfl⟩, nofun, fun down => ⟨down, rfl⟩, nofun⟩
  | setActiveRoute | setLastError | setStatusMessage =>
      exact flagged_of_eq rfl rfl rfl rfl rfl rfl

/-! ## News about a session -/

/-- A position is news about a session of which nothing is known, or of which less is known. -/
theorem isNews_iff (session : Str) (head : Int) :
    b.isNews session head = true ↔
      b.headSeqs.get? session = none ∨
        ∃ known, b.headSeqs.get? session = some known ∧ known < head := by
  unfold isNews
  cases b.headSeqs.get? session <;> simp

/-- What is known about a session after a position has been noted: the greater of the two. -/
theorem get?_setHeadSeq (session other : Str) (head : Int) :
    (b.setHeadSeq session head).headSeqs.get? other =
      if session = other then some (((b.headSeqs.get? session).map (max · head)).getD head)
      else b.headSeqs.get? other := by
  unfold setHeadSeq isNews
  cases known : b.headSeqs.get? session with
  | none => simp [Table.get?_put]
  | some n =>
      by_cases news : n < head
      · simp [news, Table.get?_put, Int.max_eq_right (Int.le_of_lt news)]
      · have above : head ≤ n := Int.not_lt.mp news
        by_cases same : session = other
        · subst same
          simp [news, known, Int.max_eq_left above]
        · simp [news, same]

end

/-- A change makes another session active, or creates or raises the position of a session. -/
def Change.IsSessionNews (b : Board) : Change → Prop
  | .setActiveSession session => b.activeSession ≠ session
  | .setHeadSeq session head =>
      b.headSeqs.get? session = none ∨
        ∃ known, b.headSeqs.get? session = some known ∧ known < head
  | _ => False

/-- The flag of the session goes up on news about a session, and stays up. -/
theorem sessionFlag_apply (b : Board) {c : Change} (keeps : c ≠ .clearInvalidations) :
    (b.apply c).invalidated.session = true ↔
      b.invalidated.session = true ∨ c.IsSessionNews b := by
  cases c with
  | clearInvalidations => exact absurd rfl keeps
  | setActiveSession session =>
      by_cases same : b.activeSession = session <;>
        simp [apply, setActiveSession, Change.IsSessionNews, same]
  | setHeadSeq session head =>
      rw [Change.IsSessionNews, ← isNews_iff]
      by_cases news : b.isNews session head = true <;> simp [apply, setHeadSeq, news]
  | recordJobHandle job =>
      by_cases known : b.jobs.has job = true <;>
        simp [apply, recordJobHandle, known, Change.IsSessionNews]
  | ingestJobStatus | ingestJobProgress | ingestCaptureStatus | setActiveRoute | setLastError
  | setStatusMessage => simp [apply, ingestJobStatus, ingestJobProgress, ingestCaptureStatus,
      setActiveRoute, setLastError, setStatusMessage, Change.IsSessionNews]

/-! ## A sequence of changes -/

section Sequence

variable {b : Board} {changes : List Change}

theorem flagged_applyAll (keeps : Change.clearInvalidations ∉ changes) :
    b.Flagged (b.applyAll changes) := by
  induction changes generalizing b with
  | nil => exact .refl b
  | cons c changes ih =>
      have first : c ≠ .clearInvalidations := fun same => keeps (same ▸ List.mem_cons_self)
      have rest : Change.clearInvalidations ∉ changes := fun member =>
        keeps (List.mem_cons_of_mem c member)
      exact (b.flagged_apply first).trans (ih rest)

/-- The flag of the session is up if it was, or if a change was news when its turn came. -/
theorem sessionFlag_applyAll (keeps : Change.clearInvalidations ∉ changes) :
    (b.applyAll changes).invalidated.session = true ↔
      b.invalidated.session = true ∨
        ∃ before c after, changes = before ++ c :: after ∧ c.IsSessionNews (b.applyAll before) := by
  induction changes generalizing b with
  | nil => simp [applyAll]
  | cons c changes ih =>
      have first : c ≠ .clearInvalidations := fun same => keeps (same ▸ List.mem_cons_self)
      have rest : Change.clearInvalidations ∉ changes := fun member =>
        keeps (List.mem_cons_of_mem c member)
      have later := ih (b := b.apply c) rest
      rw [sessionFlag_apply b first] at later
      refine later.trans ?_
      constructor
      · rintro ((up | news) | ⟨before, d, after, rfl, news⟩)
        · exact Or.inl up
        · exact Or.inr ⟨[], c, changes, rfl, news⟩
        · exact Or.inr ⟨c :: before, d, after, rfl, news⟩
      · rintro (up | ⟨before, d, after, split, news⟩)
        · exact Or.inl (Or.inl up)
        · cases before with
          | nil =>
              cases split
              exact Or.inl (Or.inr news)
          | cons e before =>
              cases split
              exact Or.inr ⟨before, d, after, rfl, news⟩

end Sequence

/-- What the flags of `now` tell a reader who cleared them on the board `b`: each item under a flag
that is down is still as it was. -/
structure Unmissed (b now : Board) : Prop where
  jobs : now.invalidated.jobs = false → now.jobs = b.jobs ∧ now.jobProgress = b.jobProgress
  capture : now.invalidated.capture = false → now.captureState = b.captureState
  session : now.invalidated.session = false → now.headSeqs = b.headSeqs
  active : now.invalidated.session = false → now.invalidated.capture = false →
    now.activeSession = b.activeSession

/-- **No missed change.**  After a clearing and any changes but a further clearing, the flags tell
all that has changed; and the flag of the session is up just when one of the changes made another
session active, or created or raised the position of one. -/
theorem unmissed_applyAll (b : Board) (changes : List Change)
    (keeps : Change.clearInvalidations ∉ changes) :
    b.Unmissed (b.clearInvalidations.applyAll changes) ∧
      ((b.clearInvalidations.applyAll changes).invalidated.session = true ↔
        ∃ before c after, changes = before ++ c :: after ∧
          c.IsSessionNews (b.clearInvalidations.applyAll before)) := by
  have flagged : b.clearInvalidations.Flagged (b.clearInvalidations.applyAll changes) :=
    flagged_applyAll keeps
  constructor
  · exact ⟨fun down => (flagged.jobs down).2, fun down => (flagged.capture down).2,
      fun down => (flagged.session down).2, flagged.active⟩
  · have up := sessionFlag_applyAll (b := b.clearInvalidations) keeps
    simpa [clearInvalidations] using up

/-- A capture that makes another session active raises the flag of the capture and not that of the
session; what is known of the sessions is then as it was. -/
theorem unmissed_capture_status :
    let b : Board :=
      { activeSession := some "s1", headSeqs := [("s1", 3)], invalidated := { session := true } }
    let changes : List Change :=
      [.ingestCaptureStatus "CAPTURING" (some "s2"), .setHeadSeq "s1" 2, .recordJobHandle "j1"]
    let now := b.clearInvalidations.applyAll changes
    Change.clearInvalidations ∉ changes ∧
      now.activeSession = some (Str.plain "s2") ∧
      now.invalidated = { jobs := true, capture := true } ∧
      b.Unmissed now ∧
      (now.invalidated.session = true ↔
        ∃ before c after, changes = before ++ c :: after ∧
          c.IsSessionNews (b.clearInvalidations.applyAll before)) := by
  intro b changes now
  have keeps : Change.clearInvalidations ∉ changes := by decide
  exact ⟨keeps, by decide, by decide, unmissed_applyAll b changes keeps⟩

end CaptureDesk.Board
