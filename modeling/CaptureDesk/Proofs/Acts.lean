import CaptureDesk.Production
import CaptureDesk.Screen
import Mathlib.Tactic.Common

/-!
# What procedures do beside asking

`t.Only P A` says that every act of the procedure `t` has the property `P`, whatever answers it
hears, so long as these have the property `A`.  There is a rule for procedures in a row, and
`Procedure.Only.run` carries an invariant of boards that such acts keep over a whole run, also over
one that a fault of the link has ended.

For the production flow the rules are said once for every property that *routine* acts have: reports
and announcements, the handles of jobs, messages, and the codes of errors.  Only the first stage
does anything else (`Production.exists_later`).  The screens but one do nothing at all beside
asking.
-/

namespace CaptureDesk

/-- An act leaves the link as it is. -/
@[simp] theorem Desk.link_perform {σ : Type} (d : Desk σ) (a : Act) :
    (d.perform a).link = d.link := by
  cases a <;> rfl

namespace Procedure

variable {α β σ : Type} {P : Act → Prop} {A : Outcome → Prop}

/-- Every act has the property `P`, whatever answers with the property `A` come. -/
def Only (P : Act → Prop) (A : Outcome → Prop) : Procedure α → Prop
  | done _ => True
  | act a next => P a ∧ next.Only P A
  | ask _ next => ∀ answer, A answer → (next answer).Only P A

theorem Only.bind {t : Procedure α} {next : α → Procedure β} (first : t.Only P A)
    (second : ∀ a, (next a).Only P A) : (t >>= next).Only P A := by
  induction t with
  | done a => exact second a
  | act a rest ih => exact ⟨first.1, ih first.2⟩
  | ask request rest ih => exact fun answer fine => ih answer (first answer fine)

theorem Only.request (command : Str) (body : Value) : (request command body).Only P A :=
  fun _ _ => trivial

/-- What the acts of a procedure keep holds of the board that a run leaves, however it ends. -/
theorem Only.run {link : Link σ} {holds : Board → Prop} {t : Procedure α} (only : t.Only P A)
    (answers : ∀ request state answer, (link request state).outcome = .ok answer → A answer)
    (kept : ∀ (d : Desk σ) a, P a → holds d.board → holds (d.perform a).board) {d : Desk σ}
    (now : holds d.board) : holds (t.run link d).2.board := by
  induction t generalizing d with
  | done a => exact now
  | act a rest ih => exact ih only.2 (kept d a only.1 now)
  | ask request rest ih =>
      rw [Procedure.run]
      cases answered : (link request d.link).outcome with
      | ok answer => exact ih answer (only answer (answers _ _ _ answered)) now
      | error fault => exact now

end Procedure

/-! ## The production flow -/

/-- A property that all acts of the flow after its first stage have. -/
structure Act.Routine (P : Act → Prop) : Prop where
  report : ∀ r, P (.report r)
  announce : ∀ stage, P (.announce stage)
  handle : ∀ job, P (.change (.recordJobHandle job))
  message : ∀ text, P (.change (.setStatusMessage text))
  noError : P (.change (.setLastError none))
  error : ∀ code : ErrorCode, P (.change (.setLastError (some code.name)))

namespace Production

variable {P : Act → Prop} {A : Outcome → Prop}

/-- A part of the flow all of whose acts have the property `P`. -/
def Staged.Only {α : Type} (P : Act → Prop) (A : Outcome → Prop) (t : Staged α) : Prop :=
  Procedure.Only P A t.run

namespace Staged.Only

variable {α β : Type}

theorem pure (a : α) : Only P A (pure a : Staged α) := trivial

theorem throw (failure : StageFailure) : Only P A (throw failure : Staged α) := trivial

theorem bind {t : Staged α} {next : α → Staged β} (first : Only P A t)
    (second : ∀ a, Only P A (next a)) : Only P A (t >>= next) := by
  refine Procedure.Only.bind first ?_
  intro result
  cases result with
  | ok a => exact second a
  | error failure => trivial

theorem lift {t : Procedure α} (only : t.Only P A) : Only P A (lift t) :=
  Procedure.Only.bind only fun _ => trivial

theorem expect (found : Except StageFailure α) : Only P A (expect found) := trivial

theorem ask (stage : Stage) (command : Str) (body : Value) :
    Only P A (Production.ask stage command body) := by
  refine bind (lift (.request command body)) ?_
  intro answer
  cases answer with
  | success value => exact pure value
  | failure error => exact throw _

section Routine

variable (routine : Act.Routine P)

include routine

theorem enter (stage : Stage) : Only P A (Production.lift (enter stage)) :=
  lift ⟨routine.report _, routine.announce _, trivial⟩

theorem schedule (stage : Stage) (command : Str) (scope : Value) :
    Only P A (Production.schedule stage command scope) := by
  refine bind (enter routine stage) fun _ => bind (ask stage command scope) fun answer => lift ?_
  unfold recordJob
  split
  · exact ⟨routine.handle _, trivial⟩
  · trivial

theorem validate (scope : Value) : Only P A (Production.validate scope) := by
  refine bind (enter routine _) fun _ => bind (ask _ _ _) fun decision =>
    bind (expect _) fun allowed => ?_
  cases allowed with
  | false => exact throw _
  | true => exact pure ()

theorem pack (session : Str) (outputDir : Value) :
    Only P A (Production.pack session outputDir) :=
  bind (enter routine _) fun _ => bind (ask _ _ _) fun _ => bind (expect _) fun _ =>
    bind (expect _) fun _ => pure _

theorem verify (outputPath : Str) : Only P A (Production.verify outputPath) := by
  refine bind (enter routine _) fun _ => bind (ask _ _ _) fun answer =>
    bind (expect _) fun valid => ?_
  cases valid with
  | false => exact throw _
  | true => exact pure _

theorem stopCapture (scope : Value) : Only P A (Production.lift (stopCapture scope)) := by
  refine lift fun answer _ => ?_
  cases answer with
  | success value => trivial
  | failure error => exact ⟨routine.report _, trivial⟩

end Routine

end Staged.Only

/-- The flow is its first stage and a part that does nothing but routine acts. -/
theorem exists_later (order : Order) :
    ∃ later : Str → Staged Delivery,
      stages order = openSession order >>= later ∧
        ∀ {P : Act → Prop} {A : Outcome → Prop}, Act.Routine P →
          ∀ session, (later session).Only P A := by
  refine ⟨_, rfl, fun routine session => ?_⟩
  exact .bind (.enter routine _) fun _ => .bind (.ask _ _ _) fun _ =>
    .bind (.schedule routine _ _ _) fun _ => .bind (.schedule routine _ _ _) fun _ =>
    .bind (.schedule routine _ _ _) fun _ => .bind (.validate routine _) fun _ =>
    .bind (.pack routine _ _) fun _ => .bind (.verify routine _) fun _ =>
    .bind (.stopCapture routine _) fun _ => .bind (.lift ⟨routine.noError, trivial⟩) fun _ =>
    .bind (.enter routine _) fun _ => .pure _

theorem only_conclude (routine : Act.Routine P) (result : Except StageFailure Delivery) :
    (conclude result).Only P A := by
  cases result with
  | ok delivery => exact ⟨routine.message _, routine.report _, trivial⟩
  | error failure =>
      exact ⟨routine.error _, routine.message _, routine.report _, trivial⟩

end Production

/-! ## Screens -/

namespace Screen

variable {P : Act → Prop} {A : Outcome → Prop}

theorem only_aboutSession {session : Option Str} {absent : Screen}
    {load : Str → Procedure Screen} (only : ∀ session, (load session).Only P A) :
    (aboutSession session absent load).Only P A := by
  unfold aboutSession
  split
  · trivial
  · trivial
  · exact only _

theorem only_verifyRows (rows : List Value) : (verifyRows rows).Only P A := by
  induction rows with
  | nil => trivial
  | cons row rest ih => exact .bind (.request _ _) fun _ => .bind ih fun _ => trivial

theorem only_loadCapture (session : Option Str) : (loadCapture session).Only P A := by
  refine .bind (.request _ _) fun answer => ?_
  cases answer <;>
  · dsimp only
    split
    · trivial
    · trivial
    · exact .bind (.request _ _) fun _ => trivial

theorem only_loadAnchors (session : Str) : (loadAnchors session).Only P A := by
  refine .bind (.request _ _) fun listing => ?_
  split
  · trivial
  · exact .bind (.request _ _) fun _ => trivial

theorem only_loadSlicerStudio (session : Str) : (loadSlicerStudio session).Only P A := by
  refine .bind (.request _ _) fun answer => ?_
  cases answer <;> trivial

theorem only_loadProofLedger (session : Str) : (loadProofLedger session).Only P A := by
  refine .bind (.request _ _) fun answer => ?_
  cases answer with
  | failure error => trivial
  | success ledger =>
      exact .bind (.request _ _) fun _ => .bind (only_verifyRows _) fun _ => trivial

/-- All that loading a screen does beside asking is what the steps screen does. -/
theorem only_load {route : Route} (session : Option Str)
    (steps : route = .steps → ∀ session, (loadSteps session).Only P A) :
    (load route session).Only P A := by
  cases route with
  | permissions => exact fun _ _ _ _ => trivial
  | capture => exact only_loadCapture session
  | evidence => exact only_aboutSession fun _ => fun _ _ _ _ => trivial
  | steps => exact only_aboutSession (steps rfl)
  | anchors => exact only_aboutSession only_loadAnchors
  | slicerStudio => exact only_aboutSession only_loadSlicerStudio
  | proofLedger => exact only_aboutSession only_loadProofLedger
  | modelDock => exact fun _ _ _ _ _ _ => trivial
  | agentPlant => exact fun _ _ => trivial

end Screen

end CaptureDesk
