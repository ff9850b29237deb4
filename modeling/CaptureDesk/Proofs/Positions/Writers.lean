import CaptureDesk.Proofs.Acts
import CaptureDesk.Revision
import Mathlib.Data.Int.Order.Basic
import Mathlib.Order.Basic
import Mathlib.Tactic.Common

/-!
# What writes positions

Three tasks note positions of step logs on the board: the production flow the one at which its
session starts, a revision those of its listing and of its applied edit, and the steps screen that
of its listing.  Each has its own rule for what an answer is worth, `Task.positions`, and its own
way with a position that is missing.

* `Task.notes_procedure`: what a task notes on hearing answers is what the rule says.
* `Task.honest_procedure`: a task notes no position that its answers do not bear out.  A procedure
  is *honest* about heads when whatever it notes lies at or behind them, now and after any answer
  that is truthful about later heads.
-/

namespace CaptureDesk

/-- A position of the step log of a session. -/
structure Position where
  session : Str
  head : Int
  deriving DecidableEq, Repr

/-- The position that a change of the board notes. -/
def Board.Change.position? : Board.Change → Option Position
  | .setHeadSeq session head => some ⟨session, head⟩
  | _ => none

/-- The position that an act notes. -/
def Act.position? : Act → Option Position
  | .change c => c.position?
  | _ => none

namespace Procedure

variable {α β : Type}

/-! ## What a procedure notes -/

/-- The positions that a procedure notes on hearing answers, one after another. -/
def notes : Procedure α → List Outcome → List Position
  | done _, _ => []
  | act a next, answers => a.position?.toList ++ next.notes answers
  | ask _ _, [] => []
  | ask _ next, answer :: answers => (next answer).notes answers

/-- The procedure notes nothing, whatever it hears. -/
def Quiet : Procedure α → Prop
  | done _ => True
  | act a next => a.position? = none ∧ next.Quiet
  | ask _ next => ∀ answer, (next answer).Quiet

theorem Quiet.notes {t : Procedure α} (quiet : t.Quiet) (answers : List Outcome) :
    t.notes answers = [] := by
  induction t generalizing answers with
  | done => rfl
  | act a next ih =>
      obtain ⟨none, rest⟩ := quiet
      simp [Procedure.notes, none, ih rest]
  | ask request next ih =>
      cases answers with
      | nil => rfl
      | cons answer answers => exact ih answer (quiet answer) answers

/-- A procedure none of whose acts notes a position is quiet. -/
theorem Only.quiet {t : Procedure α} (only : t.Only (fun a => a.position? = none) fun _ => True) :
    t.Quiet := by
  induction t with
  | done => trivial
  | act a next ih => exact ⟨only.1, ih only.2⟩
  | ask request next ih => exact fun answer => ih answer (only answer trivial)

/-- What follows quietly adds nothing to what is noted. -/
theorem notes_bind {t : Procedure α} {next : α → Procedure β} (quiet : ∀ a, (next a).Quiet)
    (answers : List Outcome) : (t >>= next).notes answers = t.notes answers := by
  induction t generalizing answers with
  | done a => exact (quiet a).notes answers
  | act a rest ih => simp [notes, ih]
  | ask request rest ih =>
      cases answers with
      | nil => rfl
      | cons answer answers => exact ih answer answers

theorem notes_discard (t : Procedure α) (answers : List Outcome) :
    (t >>= fun _ => done ()).notes answers = t.notes answers := by
  refine notes_bind ?_ answers
  exact fun _ => trivial

end Procedure

/-! ## Truthful answers -/

/-- The session that a success is about: the new one that it names, or the one of the request. -/
def Request.subject? (request : Request) (value : Value) : Option Str :=
  if request.command = "session_create" then (value.field "session_id").nonEmptyStr?
  else (request.body.field "session_id").str?

/-- An answer reports no position that lies ahead of the heads. -/
def Truthful (heads : Str → Int) (request : Request) (answer : Outcome) : Prop :=
  ∀ value head session, answer = .success value → value.field "head_seq" = .int head →
    request.subject? value = some session → head ≤ heads session

theorem Truthful.failure {heads : Str → Int} {request : Request} (error : Failure) :
    Truthful heads request (.failure error) := by
  intro value head session same
  cases same

namespace Procedure

variable {α β : Type} {heads : Str → Int}

/-- What the procedure notes lies at or behind the heads, and whatever it notes after a truthful
answer lies at or behind the heads of that time. -/
def Honest : Procedure α → (Str → Int) → Prop
  | done _, _ => True
  | act a next, heads =>
      (∀ p, a.position? = some p → p.head ≤ heads p.session) ∧ next.Honest heads
  | ask request next, heads =>
      ∀ later, heads ≤ later → ∀ answer, Truthful later request answer →
        (next answer).Honest later

theorem Quiet.honest {t : Procedure α} (quiet : t.Quiet) (heads : Str → Int) :
    t.Honest heads := by
  induction t generalizing heads with
  | done => trivial
  | act a next ih =>
      obtain ⟨none, rest⟩ := quiet
      refine ⟨?_, ih rest heads⟩
      intro p noted
      rw [none] at noted
      cases noted
  | ask request next ih => exact fun later _ answer _ => ih answer (quiet answer) later

/-- Heads that grow do not make a procedure dishonest. -/
theorem Honest.mono {t : Procedure α} (honest : t.Honest heads) {later : Str → Int}
    (grown : heads ≤ later) : t.Honest later := by
  induction t with
  | done => trivial
  | act a next ih =>
      exact ⟨fun p noted => (honest.1 p noted).trans (grown p.session), ih honest.2⟩
  | ask request next ih => exact fun latest grown' => honest latest (grown.trans grown')

theorem Honest.bind {t : Procedure α} {next : α → Procedure β} (honest : t.Honest heads)
    (quiet : ∀ a, (next a).Quiet) : (t >>= next).Honest heads := by
  induction t generalizing heads with
  | done a => exact (quiet a).honest heads
  | act a rest ih => exact ⟨honest.1, ih honest.2⟩
  | ask request rest ih =>
      exact fun later grown answer truthful => ih answer (honest later grown answer truthful)

theorem Honest.discard {t : Procedure α} (honest : t.Honest heads) :
    (t >>= fun _ => done ()).Honest heads := by
  refine honest.bind ?_
  exact fun _ => trivial

end Procedure

/-! ## The production flow -/

namespace Production

/-- A part of the flow that notes no position. -/
def Staged.Quiet {α : Type} (t : Staged α) : Prop := Procedure.Quiet t.run

theorem Staged.Quiet.bindCont {α β : Type} {next : α → Staged β} (quiet : ∀ a, Quiet (next a))
    (result : Except StageFailure α) : Procedure.Quiet (ExceptT.bindCont next result) := by
  cases result with
  | ok a => exact quiet a
  | error failure => trivial

/-- Routine acts note no position. -/
theorem routine_noPosition : Act.Routine fun a => a.position? = none where
  report _ := rfl
  announce _ := rfl
  handle _ := rfl
  message _ := rfl
  noError := rfl
  error _ := rfl

/-- The flow is its first stage, and a part that notes nothing. -/
theorem stages_eq (order : Order) :
    ∃ later : Str → Staged Delivery,
      stages order = openSession order >>= later ∧ ∀ session, (later session).Quiet := by
  obtain ⟨later, split, only⟩ := exists_later order
  exact ⟨later, split, fun session => (only routine_noPosition session).quiet⟩

theorem quiet_conclude (result : Except StageFailure Delivery) : (conclude result).Quiet :=
  (only_conclude routine_noPosition result).quiet

/-- The request for a new session. -/
def creation (order : Order) : Request :=
  ⟨"session_create", .object [("label", .str order.label), ("metadata", .object [])]⟩

/-- What the first stage does with its answer. -/
def seed (answer : Outcome) : Procedure (Except StageFailure Str) :=
  match answer with
  | .failure error => .done (.error ⟨.session, error⟩)
  | .success value =>
      match (value.field "session_id").nonEmptyStr? with
      | none => .done (.error (missing .session "session_id"))
      | some session =>
          .act (.change (.setActiveSession (some session)))
            (match startPosition value with
            | some head => .act (.change (.setHeadSeq session head)) (.done (.ok session))
            | none => .done (.ok session))

section Run

variable {α β : Type} {next : α → Staged β}

theorem bind_value (a : α) :
    Procedure.bind (pure a : Staged α) (ExceptT.bindCont next) = (next a).run := rfl

theorem run_expect_ok (a : α) : (expect (.ok a) >>= next).run = (next a).run := rfl

theorem run_expect_error (failure : StageFailure) :
    (expect (.error failure) >>= next).run = .done (.error failure) := rfl

theorem run_change (c : Board.Change) {next : Unit → Staged β} :
    (lift (Procedure.change c) >>= next).run = .act (.change c) (next ()).run := rfl

end Run

theorem run_openSession (order : Order) :
    (openSession order).run =
      .act (.report (.stageStarted .session))
        (.act (.announce .session) (.ask (creation order) seed)) := by
  show Procedure.act _ (.act _ (.ask _ _)) = _
  congr 3
  funext answer
  cases answer with
  | failure error => rfl
  | success value =>
      simp only [Procedure.bind, ExceptT.bindCont, Function.comp]
      rw [bind_value]
      cases found : (value.field "session_id").nonEmptyStr? with
      | none => simp only [requireText, seed, found, run_expect_error]
      | some session =>
          simp only [requireText, seed, found, run_expect_ok, run_change]
          cases startPosition value <;> rfl

/-- The position at which a new session starts: the one that the answer reports, and zero when it
reports none. -/
def started : Outcome → List Position
  | .failure _ => []
  | .success value =>
      match (value.field "session_id").nonEmptyStr?, value.field? "head_seq" with
      | some session, none => [⟨session, 0⟩]
      | some session, some (.int head) => [⟨session, head⟩]
      | _, _ => []

theorem notes_seed (answer : Outcome) (answers : List Outcome) :
    (seed answer).notes answers = started answer := by
  cases answer with
  | failure error => rfl
  | success value =>
      cases named : (value.field "session_id").nonEmptyStr? with
      | none =>
          simp only [seed, started, named]
          rfl
      | some session =>
          cases found : value.field? "head_seq" with
          | none =>
              simp only [seed, started, startPosition, named, found]
              rfl
          | some reported =>
              simp only [seed, started, startPosition, named, found]
              cases reported <;> rfl

/-- The flow notes the position at which its session starts, and nothing else. -/
theorem notes_flow (order : Order) (answers : List Outcome) :
    (flow order).notes answers = (answers.head?.map started).getD [] := by
  obtain ⟨later, split, quiet⟩ := stages_eq order
  have first : (stages order).run.notes answers = (openSession order).run.notes answers := by
    rw [split]
    exact Procedure.notes_bind (Staged.Quiet.bindCont quiet) answers
  unfold flow
  rw [Procedure.notes_bind quiet_conclude, first, run_openSession]
  cases answers with
  | nil => rfl
  | cons answer answers => exact notes_seed answer answers

theorem eq_int_of_int? {value : Value} {n : Int} (found : value.int? = some n) :
    value = .int n := by
  cases value <;> cases found
  rfl

/-- A new session starts at zero, or at the position that the answer reports. -/
theorem eq_zero_or_reported {value : Value} {n : Int} (start : startPosition value = some n) :
    n = 0 ∨ value.field "head_seq" = .int n := by
  unfold startPosition at start
  cases found : value.field? "head_seq" with
  | none =>
      rw [found] at start
      cases start
      exact Or.inl rfl
  | some reported =>
      rw [found] at start
      refine Or.inr ?_
      rw [Value.field, found]
      exact eq_int_of_int? start

theorem honest_seed {heads : Str → Int} (nonneg : ∀ session, 0 ≤ heads session)
    {order : Order} {answer : Outcome} (truthful : Truthful heads (creation order) answer) :
    (seed answer).Honest heads := by
  cases answer with
  | failure error => trivial
  | success value =>
      cases named : (value.field "session_id").nonEmptyStr? with
      | none =>
          simp only [seed, named]
          trivial
      | some session =>
          have about : (creation order).subject? value = some session := named
          have behind : ∀ head, startPosition value = some head → head ≤ heads session := by
            intro head start
            rcases eq_zero_or_reported start with rfl | reported
            · exact nonneg session
            · exact truthful value head session rfl reported about
          simp only [seed, named]
          refine ⟨nofun, ?_⟩
          cases start : startPosition value with
          | none => trivial
          | some head =>
              refine ⟨?_, trivial⟩
              intro p noted
              cases noted
              exact behind head start

theorem honest_flow {heads : Str → Int} (nonneg : ∀ session, 0 ≤ heads session)
    (order : Order) :
    (flow order).Honest heads := by
  obtain ⟨later, split, quiet⟩ := stages_eq order
  have first : (openSession order).run.Honest heads := by
    rw [run_openSession]
    exact ⟨nofun, nofun, fun later grown answer truthful =>
      honest_seed (fun session => (nonneg session).trans (grown session)) truthful⟩
  refine Procedure.Honest.bind ?_ quiet_conclude
  rw [split]
  exact first.bind (Staged.Quiet.bindCont quiet)

end Production

/-! ## Revisions -/

namespace Revision

/-- The position that a listing reports after a conflict. -/
def refreshed (session : Str) : Outcome → List Position
  | .failure _ => []
  | .success value =>
      match value.field "head_seq" with
      | .int head => [⟨session, head⟩]
      | _ => []

/-- The position that an applied edit reports. -/
def accepted (session : Str) : Outcome → List Position
  | .failure _ => []
  | .success value =>
      match value.field "head_seq" with
      | .int head => if (value.field "applied").truthy then [⟨session, head⟩] else []
      | _ => []

/-- The positions that a revision takes from its answers: that of the edit, unless it is refused
with a conflict; then that of the listing, and if there is one, that of the second edit. -/
def revised (session : Str) : List Outcome → List Position
  | [] => []
  | .failure { code := .conflict, .. } :: listed :: rest =>
      match refreshed session listed with
      | [] => []
      | fresh => fresh ++ (rest.head?.map (accepted session)).getD []
  | first :: _ => accepted session first

theorem notes_conclude (session : Str) (answer : Outcome) (answers : List Outcome) :
    (conclude true session answer).notes answers = accepted session answer := by
  cases answer with
  | failure error => rfl
  | success value =>
      cases reported : value.field "head_seq" with
      | int head =>
          cases applied : (value.field "applied").truthy <;>
            simp only [conclude, accepted, appliedAt, reported, applied] <;> rfl
      | null | bool | float | str | moment | array | object =>
          cases applied : (value.field "applied").truthy <;>
            simp only [conclude, accepted, appliedAt, reported, applied] <;> rfl

/-- What a revision does with the answer to its listing. -/
def retry (e : Edit) (listed : Outcome) : Procedure Outcome :=
  match position e.session listed with
  | .error error =>
      .act (.report (.refreshFailed e.session error.code))
        (conclude true e.session (.failure error))
  | .ok head =>
      .act (.change (.setHeadSeq e.session head))
        (.act (.report (.editAttempted e.session head 2))
          (.ask (e.request head) (conclude true e.session)))

theorem notes_retry (e : Edit) (listed : Outcome) (answers : List Outcome) :
    (retry e listed).notes answers =
      match refreshed e.session listed with
      | [] => []
      | fresh => fresh ++ (answers.head?.map (accepted e.session)).getD [] := by
  cases listed with
  | failure error => exact notes_conclude e.session (.failure error) answers
  | success value =>
      cases reported : value.field "head_seq" with
      | int head =>
          simp only [retry, refreshed, position, reported, Value.int?]
          cases answers with
          | nil => rfl
          | cons second answers =>
              exact congrArg (List.cons _) (notes_conclude e.session second answers)
      | null | bool | float | str | moment | array | object =>
          simp only [retry, refreshed, position, reported, Value.int?]
          rfl

/-- A revision notes the positions that its listing and its applied edit report. -/
theorem notes_perform (e : Edit) (answers : List Outcome) :
    (perform true e).notes answers = revised e.session answers := by
  cases answers with
  | nil => rfl
  | cons first answers =>
      cases first with
      | success value => exact notes_conclude e.session (.success value) answers
      | failure error =>
          rcases error with ⟨code, message, details, recoverable, hint⟩
          cases code with
          | conflict =>
              cases answers with
              | nil => rfl
              | cons listed answers => exact notes_retry e listed answers
          | _ => rfl

/-- An edit is applied at the position that its answer reports. -/
theorem reported_of_appliedAt {value : Value} {n : Int} (applied : appliedAt value = some n) :
    value.field "head_seq" = .int n := by
  unfold appliedAt at applied
  split at applied
  · exact Production.eq_int_of_int? applied
  · cases applied

/-- The position of a listing is the one that it reports. -/
theorem reported_of_position {session : Str} {listed : Outcome} {n : Int}
    (found : position session listed = .ok n) :
    ∃ value, listed = .success value ∧ value.field "head_seq" = .int n := by
  cases listed with
  | failure error => cases found
  | success value =>
      cases reported : (value.field "head_seq").int? with
      | none => simp [position, reported] at found
      | some head =>
          simp only [position, reported, Except.ok.injEq] at found
          subst found
          exact ⟨value, rfl, Production.eq_int_of_int? reported⟩

theorem honest_conclude {heads : Str → Int} {e : Edit} {base : Int} {answer : Outcome}
    (truthful : Truthful heads (e.request base) answer) :
    (conclude true e.session answer).Honest heads := by
  cases answer with
  | failure error => exact ⟨nofun, trivial⟩
  | success value =>
      cases applied : appliedAt value with
      | none =>
          simp only [conclude, applied]
          trivial
      | some head =>
          simp only [conclude, applied]
          refine ⟨?_, trivial⟩
          intro p noted
          cases noted
          exact truthful value head e.session rfl (reported_of_appliedAt applied) rfl

theorem honest_retry {heads : Str → Int} {e : Edit} {listed : Outcome}
    (truthful : Truthful heads (listing e.session) listed) : (retry e listed).Honest heads := by
  unfold retry
  cases found : position e.session listed with
  | error error => exact ⟨nofun, nofun, trivial⟩
  | ok head =>
      refine ⟨?_, nofun, fun later _ second truthful => honest_conclude truthful⟩
      intro p noted
      cases noted
      obtain ⟨value, same, reported⟩ := reported_of_position found
      exact truthful value head e.session same reported rfl

theorem honest_perform (e : Edit) (heads : Str → Int) : (perform true e).Honest heads := by
  refine ⟨nofun, fun later grown first truthful => ?_⟩
  cases first with
  | success value => exact honest_conclude truthful
  | failure error =>
      rcases error with ⟨code, message, details, recoverable, hint⟩
      cases code with
      | conflict => exact ⟨nofun, fun later _ listed truthful => honest_retry truthful⟩
      | _ => exact honest_conclude truthful

end Revision

/-! ## The steps screen -/

namespace Screen

theorem aboutSession_named {session : Str} (named : session ≠ "") (absent : Screen)
    (load : Str → Procedure Screen) : aboutSession (some session) absent load = load session := by
  unfold aboutSession
  split
  · rename_i none
    cases none
  · rename_i blank
    cases blank
    exact absurd rfl named
  · rename_i same
    cases same
    rfl

/-- The position that the steps screen takes from its listing: the one that the listing reports, and
zero when it reports none. -/
def shown (session : Str) : Outcome → List Position
  | .failure _ => []
  | .success value => [⟨session, (value.field "head_seq").int?.getD 0⟩]

theorem notes_loadSteps (session : Str) (answers : List Outcome) :
    (loadSteps session).notes answers = (answers.head?.map (shown session)).getD [] := by
  cases answers with
  | nil => rfl
  | cons listed answers => cases listed <;> rfl

theorem honest_loadSteps {heads : Str → Int} (nonneg : ∀ session, 0 ≤ heads session)
    (session : Str) : (loadSteps session).Honest heads := by
  intro later grown listed truthful
  cases listed with
  | failure error => trivial
  | success value =>
      refine ⟨?_, trivial⟩
      intro p noted
      cases noted
      cases reported : (value.field "head_seq").int? with
      | none => exact (nonneg session).trans (grown session)
      | some head =>
          exact truthful value head session rfl (Production.eq_int_of_int? reported) rfl

end Screen

/-! ## Tasks -/

/-- Something that notes positions.  The steps screen is about the session that was active when its
route was entered. -/
inductive Task where
  | produce (order : Production.Order)
  | revise (edit : Revision.Edit)
  | showSteps (session : Option Str)

namespace Task

/-- What carries a task out; its result is not looked at. -/
def procedure : Task → Procedure Unit
  | produce order => Production.flow order >>= fun _ => .done ()
  | revise edit => Revision.perform true edit >>= fun _ => .done ()
  | showSteps session =>
      .act (.change (.setActiveRoute Route.steps.name))
        (Screen.load .steps session >>= fun _ => .done ())

/-- Showing the screen of the steps route is carrying out the task for the active session. -/
theorem loadRoute_steps {σ : Type} (link : Link σ) (d : Desk σ) :
    (d.loadRoute link Route.steps.name).2 =
      ((showSteps d.board.activeSession).procedure.run link d).2 := by
  show ((Screen.load .steps d.board.activeSession).run link _).2 =
    ((Screen.load .steps d.board.activeSession >>= fun _ => .done ()).run link _).2
  rw [Procedure.run_bind]
  split <;> simp_all [Procedure.run]

/-- The positions that a task takes from its answers. -/
def positions : Task → List Outcome → List Position
  | produce _, answers => (answers.head?.map Production.started).getD []
  | revise edit, answers => Revision.revised edit.session answers
  | showSteps (some session), answers =>
      if session = "" then [] else (answers.head?.map (Screen.shown session)).getD []
  | showSteps none, _ => []

/-- What a task notes is what its rule says. -/
theorem notes_procedure (task : Task) (answers : List Outcome) :
    task.procedure.notes answers = task.positions answers := by
  cases task with
  | produce order => exact (Procedure.notes_discard _ _).trans (Production.notes_flow order answers)
  | revise edit => exact (Procedure.notes_discard _ _).trans (Revision.notes_perform edit answers)
  | showSteps session =>
      refine (Procedure.notes_discard _ _).trans ?_
      cases session with
      | none => rfl
      | some session =>
          by_cases blank : session = ""
          · subst blank
            rfl
          · rw [positions, if_neg blank, Screen.load, Screen.aboutSession_named blank]
            exact Screen.notes_loadSteps session answers

/-- A task notes nothing that its answers do not bear out. -/
theorem honest_procedure (task : Task) {heads : Str → Int}
    (nonneg : ∀ session, 0 ≤ heads session) : task.procedure.Honest heads := by
  cases task with
  | produce order => exact (Production.honest_flow nonneg order).discard
  | revise edit => exact (Revision.honest_perform edit heads).discard
  | showSteps session =>
      refine ⟨nofun, .discard ?_⟩
      cases session with
      | none => trivial
      | some session =>
          by_cases blank : session = ""
          · subst blank
            trivial
          · rw [Screen.load, Screen.aboutSession_named blank]
            exact Screen.honest_loadSteps nonneg session

end Task

end CaptureDesk
