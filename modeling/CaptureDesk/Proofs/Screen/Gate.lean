import CaptureDesk.Proofs.Positions.Writers
import CaptureDesk.Proofs.Production.FailFast
import CaptureDesk.Proofs.Transcript

/-!
# Two readings of the validation

The answer to the validation of an export is read twice: by the flow, which goes on to the export or
stops there, and by the slicer studio, which shows whether a session is ready and what stands
against it.  The flow takes nothing but a truth value for an answer.  The studio takes whatever
counts as true, so it shows a session as ready that the flow refuses when the answer is *lax*: its
`allowed` counts as true and is no truth value.  On every other answer the two agree.
-/

namespace CaptureDesk

namespace Production

/-! ## What the flow makes of the validation -/

/-- Over the oracle `o` from the desk `d`, the flow of an order takes `turns` and ends in
`result`. -/
structure Runs (o : Oracle) (order : Order) (d : Desk (List Request)) (turns : List Turn)
    (result : Except Failure Delivery) : Prop where
  gave : o.Gave d.link turns
  ended : ∃ after, (flow order).run o.link d = (.ok result, after) ∧
    after.link = d.link ++ turns.map Turn.request

/-- Among the turns is the validation, and it was answered with `answer`. -/
def Validated (turns : List Turn) (answer : Outcome) : Prop :=
  ∃ turn ∈ turns, turn.request.command = "tutorial_validate_export" ∧ turn.answer = answer

/-- Among the turns is the export. -/
def PassesOn (turns : List Turn) : Prop :=
  ∃ turn ∈ turns, turn.request.command = "tutorial_export_pack"

/-- The commands of the flow in their order. -/
def commands : List Str :=
  ["session_create", "capture_start", "ocr_schedule", "steps_generate_candidates",
    "tutorial_generate", "tutorial_validate_export", "tutorial_export_pack",
    "export_verify_bundle", "capture_stop"]

section Flow

variable {o : Oracle} {order : Order} {d after : Desk (List Request)} {turns : List Turn}
  {result : Except Failure Delivery} {answer : Outcome}

theorem Heard.map_command (heard : Heard o order d turns after) :
    turns.map (·.request.command) = commands.take turns.length := by
  have asked := congrArg (List.map Request.command) heard.asked
  rwa [List.map_map, List.map_take] at asked

/-- Each command of the flow has its own place among the turns. -/
theorem Heard.mem_iff (heard : Heard o order d turns after) {command : Str} {n : Nat}
    (place : commands[n]? = some command) {turn : Turn} :
    turn ∈ turns ∧ turn.request.command = command ↔ turns[n]? = some turn := by
  have there (i : Nat) : (turns[i]?).map (·.request.command) =
      if i < turns.length then commands[i]? else none := by
    rw [← List.getElem?_map, heard.map_command, List.getElem?_take]
  constructor
  · intro ⟨member, named⟩
    subst named
    obtain ⟨i, found⟩ := List.mem_iff_getElem?.mp member
    have commanded := there i
    rw [found, if_pos (List.getElem?_eq_some_iff.mp found).1] at commanded
    have within : i < commands.length :=
      (List.getElem?_eq_some_iff.mp commanded.symm).1
    obtain rfl : i = n :=
      (List.getElem?_inj within (by decide)).mp (commanded.symm.trans place.symm)
    exact found
  · intro found
    have commanded := there n
    rw [found, if_pos (List.getElem?_eq_some_iff.mp found).1, place] at commanded
    exact ⟨List.mem_of_getElem? found, Option.some.inj commanded⟩

theorem Accepted.content {stages : List Stage} (accepted : Accepted stages turns) {i : Nat}
    {stage : Stage} {turn : Turn} (place : stages[i]? = some stage)
    (found : turns[i]? = some turn) : objection? stage turn.answer = none := by
  induction accepted generalizing i with
  | nil => cases found
  | cons content _ ih =>
      cases i with
      | zero =>
          cases place
          cases found
          exact content
      | succ i => exact ih place found

/-- What the validation objects to hangs on the truth value that it asks for. -/
theorem objection?_validation (decision : Value) :
    objection? .validation (.success decision) =
      match (decision.field "allowed").bool? with
      | some true => none
      | some false => some (gateClosed decision)
      | none => some (lacking .validation "allowed") := by
  unfold objection?
  dsimp only
  cases decision.field "allowed" with
  | bool allowed => cases allowed <;> rfl
  | _ => rfl

/-- A flow asks its first requests and ends as one that is fail-fast. -/
theorem Runs.ends (runs : Runs o order d turns result) :
    ∃ after, Heard o order d turns after ∧ Ends d turns result after := by
  have ends : Procedure.Yields o.link (flow order) d fun result after =>
      ∃ turns, Heard o order d turns after ∧ Ends d turns result after := by
    refine Procedure.Yields.bind (stages_advances o order d) ?_
    intro staged now holds
    cases staged with
    | error failure => exact holds.conclude
    | ok delivery =>
        obtain ⟨passed, stop, delivered⟩ := holds
        exact delivered.conclude
  obtain ⟨_, after, run, heard, heards, ending⟩ := ends
  obtain ⟨_, run', link⟩ := runs.ended
  obtain ⟨sameResult, rfl⟩ := Prod.mk.inj (run.symm.trans run')
  cases sameResult
  have requests := List.append_cancel_left (heards.link.symm.trans link)
  have same : heard = turns := by
    rw [heards.gave.eq_turns, requests, ← runs.gave.eq_turns]
  subst same
  exact ⟨after, heards, ending⟩

/-- The validation is the sixth stage: it ends the flow there, or more turns follow. -/
theorem Ends.gate (ends : Ends d turns result after) {turn : Turn}
    (found : turns[5]? = some turn) :
    match objection? .validation turn.answer with
    | none => 6 < turns.length
    | some error => turns.length = 6 ∧ result = .error error := by
  have goesOn {passed : List Turn} {last : Turn} {n : Nat}
      (accepted : Accepted (working.take n) passed) (behind : 5 < passed.length)
      (place : (working.take n)[5]? = some .validation)
      (found : (passed ++ [last])[5]? = some turn) :
      objection? .validation turn.answer = none ∧ 6 < (passed ++ [last]).length := by
    rw [List.getElem?_append_left behind] at found
    refine ⟨accepted.content place found, ?_⟩
    rw [List.length_append, List.length_singleton]
    omega
  cases ends with
  | @halted passed last stage error after halts =>
      have within := (List.getElem?_eq_some_iff.mp found).1
      rw [List.length_append, List.length_singleton] at within
      by_cases here : passed.length = 5
      · have place := halts.place
        rw [here] at place
        cases place
        rw [← here, List.getElem?_concat_length] at found
        cases found
        rw [halts.objects]
        exact ⟨by simp [here], rfl⟩
      · have behind : 5 < passed.length := by omega
        obtain ⟨content, more⟩ := goesOn halts.accepted behind
          (by rw [List.getElem?_take, if_pos behind]; rfl) found
        rw [content]
        exact more
  | @completed passed stop delivery after completes =>
      have length : passed.length = 8 := completes.accepted.length_eq.symm
      obtain ⟨content, more⟩ := goesOn (n := 8) completes.accepted (by omega) rfl found
      rw [content]
      exact more

/-- A flow that got an answer for the validation goes on to the export when the stage is content
with it, and ends with the objection otherwise. -/
theorem Runs.gate (runs : Runs o order d turns result) (validated : Validated turns answer) :
    match objection? .validation answer with
    | none => PassesOn turns
    | some error => ¬ PassesOn turns ∧ result = .error error := by
  obtain ⟨after, heard, ends⟩ := runs.ends
  obtain ⟨turn, member, command, rfl⟩ := validated
  have found : turns[5]? = some turn := (heard.mem_iff rfl).mp ⟨member, command⟩
  have gate := ends.gate found
  cases objects : objection? .validation turn.answer with
  | none =>
      rw [objects] at gate
      exact ⟨turns[6], (heard.mem_iff rfl).mpr (List.getElem?_eq_getElem gate)⟩
  | some error =>
      rw [objects] at gate
      obtain ⟨length, rfl⟩ := gate
      refine ⟨?_, rfl⟩
      intro ⟨export', passes⟩
      have sixth := (heard.mem_iff (n := 6) rfl).mp passes
      have within := (List.getElem?_eq_some_iff.mp sixth).1
      omega

end Flow

end Production

namespace Screen

open Production

/-! ## What the studio shows of the validation -/

/-- The request to validate the export of a session. -/
def validation (session : Str) : Request := ⟨"tutorial_validate_export", scope session⟩

/-- What the studio shows of an answer to the validation. -/
inductive Shows : Outcome → Bool → List Str → Prop
  | failed (error : Failure) : Shows (.failure error) false [error.message]
  | answered (decision : Value) :
      Shows (.success decision) (decision.field "allowed").truthy
        (decision.field "reasons").itemTexts

theorem shows_slicerStudio {session : Str} (named : session ≠ "") (o : Oracle)
    (d : Desk (List Request)) :
    ∃ ready issues after,
      (load .slicerStudio (some session)).run o.link d =
        (.ok (.slicerStudio ready issues), after) ∧
      Shows (o (d.link ++ [validation session])) ready issues := by
  obtain ⟨turns, acts, screen, transcript, gave⟩ :=
    o.exists_transcript (load .slicerStudio (some session)) d.link
  have ran := transcript.run gave
  rw [load, aboutSession_named named] at transcript
  obtain ⟨answer, rest, rfl, shown⟩ := Transcript.of_request_bind transcript
  obtain ⟨answered, -⟩ := Oracle.gave_cons.mp gave
  dsimp only at answered
  rw [validation, ← answered]
  cases answer with
  | failure error =>
      obtain ⟨-, -, rfl⟩ := Transcript.of_done shown
      exact ⟨_, _, _, ran, .failed error⟩
  | success decision =>
      obtain ⟨-, -, rfl⟩ := Transcript.of_done shown
      exact ⟨_, _, _, ran, .answered decision⟩

/-! ## Where the two agree -/

/-- An answer to the validation whose `allowed` counts as true and is no truth value. -/
def Lax (answer : Outcome) : Prop :=
  ∃ decision, answer = .success decision ∧ (decision.field "allowed").truthy = true ∧
    (decision.field "allowed").bool? = none

/-- The studio and a flow say the same of an answer to the validation: the session is ready where
the flow goes on to the export, what stands against it is the message with which the flow ends, and
a failure is the one that the flow ends with. -/
structure Agree (answer : Outcome) (ready : Bool) (issues : List Str) (turns : List Turn)
    (result : Except Failure Delivery) : Prop where
  ready : ready = true ↔ PassesOn turns
  closed : ∀ decision, answer = .success decision → decision.field "allowed" = .bool false →
    ∃ error, result = .error error ∧ error.code = .exportGateFailed ∧
      error.message = Str.intercalate "; " issues
  failed : ∀ error, answer = .failure error → result = .error error ∧ issues = [error.message]

section Agreement

variable {o : Oracle} {order : Order} {d : Desk (List Request)} {turns : List Turn}
  {result : Except Failure Delivery}

theorem agree_of_failure {error : Failure} (runs : Runs o order d turns result)
    (validated : Validated turns (.failure error)) :
    Agree (.failure error) false [error.message] turns result := by
  obtain ⟨stopped, rfl⟩ := runs.gate validated
  refine ⟨by simp [stopped], ?_, ?_⟩
  · intro decision same
    cases same
  · intro answer same
    cases same
    exact ⟨rfl, rfl⟩

variable {decision : Value}

/-- Where `allowed` is a truth value, both take it as it is. -/
theorem agree_of_verdict {allowed : Bool} (verdict : decision.field "allowed" = .bool allowed)
    (runs : Runs o order d turns result) (validated : Validated turns (.success decision)) :
    Agree (.success decision) allowed (decision.field "reasons").itemTexts turns result := by
  have gate := runs.gate validated
  rw [objection?_validation, verdict] at gate
  cases allowed with
  | true =>
      have passes : PassesOn turns := gate
      refine ⟨by simp [passes], ?_, by simp⟩
      intro answer same closed
      cases same
      rw [verdict] at closed
      cases closed
  | false =>
      obtain ⟨stopped, rfl⟩ := gate
      refine ⟨by simp [stopped], ?_, by simp⟩
      intro answer same _
      cases same
      exact ⟨gateClosed decision, rfl, rfl, rfl⟩

/-- Where `allowed` is no truth value the flow stops, so the studio must not take it as true. -/
theorem agree_iff_of_no_verdict (absent : (decision.field "allowed").bool? = none)
    (runs : Runs o order d turns result) (validated : Validated turns (.success decision)) :
    result = .error (lacking .validation "allowed") ∧
      ∀ ready issues, Agree (.success decision) ready issues turns result ↔ ready = false := by
  have gate := runs.gate validated
  rw [objection?_validation, absent] at gate
  obtain ⟨stopped, rfl⟩ := gate
  refine ⟨rfl, fun ready issues => ⟨?_, ?_⟩⟩
  · intro agree
    exact Bool.eq_false_iff.mpr fun shown => stopped (agree.ready.mp shown)
  · intro hidden
    refine ⟨by simp [stopped, hidden], ?_, by simp⟩
    intro answer same closed
    cases same
    rw [closed] at absent
    cases absent

/-- **The studio and the flow agree on the gate unless the answer is lax.**  What the studio shows
of an answer to the validation is compared with a flow that got the same answer, whatever else that
flow was answered.  On a lax answer the studio shows the session as ready, and the flow refuses
it. -/
theorem agree_iff_not_lax {session : Str} (named : session ≠ "") {v : Value}
    {o' : Oracle} {d' : Desk (List Request)}
    (answered : o' (d'.link ++ [validation session]) = Outcome.ofValue v)
    (runs : Runs o order d turns result) (validated : Validated turns (Outcome.ofValue v)) :
    ∃ ready issues after,
      (load .slicerStudio (some session)).run o'.link d' =
        (.ok (.slicerStudio ready issues), after) ∧
      (Agree (Outcome.ofValue v) ready issues turns result ↔ ¬ Lax (Outcome.ofValue v)) ∧
      (Lax (Outcome.ofValue v) →
        ready = true ∧ result = .error (lacking .validation "allowed")) := by
  obtain ⟨ready, issues, after, ran, shows⟩ := shows_slicerStudio named o' d'
  refine ⟨ready, issues, after, ran, ?_⟩
  rw [answered] at shows
  generalize Outcome.ofValue v = answer at shows validated
  cases shows with
  | failed error => exact ⟨iff_of_true (agree_of_failure runs validated) nofun, nofun⟩
  | answered decision =>
      have lax_iff : Lax (.success decision) ↔
          (decision.field "allowed").truthy = true ∧ (decision.field "allowed").bool? = none := by
        simp [Lax]
      rw [lax_iff]
      cases verdict : decision.field "allowed" with
      | bool allowed =>
          exact ⟨iff_of_true (agree_of_verdict verdict runs validated) nofun, nofun⟩
      | _ =>
          obtain ⟨stopped, agree⟩ :=
            agree_iff_of_no_verdict (by rw [verdict]; rfl) runs validated
          rw [agree, stopped, Bool.eq_false_iff]
          simp [Value.bool?]

end Agreement

/-! ## Two backends -/

/-- A backend that opens the session `s1`, answers its validation with a transported value, and has
nothing to say to all else. -/
def validating (v : Value) : Oracle := fun asked =>
  match asked.getLast? with
  | some ⟨"session_create", _⟩ => .success (.object [("session_id", .str "s1")])
  | some ⟨"tutorial_validate_export", _⟩ => Outcome.ofValue v
  | _ => .success (.object [])

/-- The turns of a flow that the validation ends. -/
def refusedTurns (v : Value) : List Turn :=
  (validating v).turns [] ((requests ⟨"demo", .str "out"⟩ "s1" "").take 6)

/-- A closed gate, with a reason. -/
def closedGate : Value :=
  .object [("allowed", .bool false), ("reasons", .array [.str "step 2 has no anchor"])]

/-- Reasons against the export are shown in the studio and end the flow. -/
theorem agree_closed_gate :
    "s1" ≠ "" ∧
      validating closedGate [validation "s1"] = Outcome.ofValue closedGate ∧
      Runs (validating closedGate) ⟨"demo", .str "out"⟩ { link := [] } (refusedTurns closedGate)
        (.error (gateClosed closedGate)) ∧
      Validated (refusedTurns closedGate) (Outcome.ofValue closedGate) ∧
      ¬ Lax (Outcome.ofValue closedGate) ∧
      ∃ ready issues after,
        (load .slicerStudio (some "s1")).run (validating closedGate).link { link := [] } =
          (.ok (.slicerStudio ready issues), after) ∧
        Agree (Outcome.ofValue closedGate) ready issues (refusedTurns closedGate)
          (.error (gateClosed closedGate)) := by
  have runs : Runs (validating closedGate) ⟨"demo", .str "out"⟩ { link := [] }
      (refusedTurns closedGate) (.error (gateClosed closedGate)) :=
    ⟨Oracle.gave_turns _ _ _, _, Prod.ext (by decide +kernel) rfl, by decide +kernel⟩
  have validated : Validated (refusedTurns closedGate) (Outcome.ofValue closedGate) :=
    ⟨_, List.mem_of_getElem? (i := 5) rfl, rfl, rfl⟩
  have strict : ¬ Lax (Outcome.ofValue closedGate) := by
    rintro ⟨_, ⟨⟩, truthy, -⟩
    cases truthy
  have answered : validating closedGate
      (({ link := [] } : Desk (List Request)).link ++ [validation "s1"]) =
        Outcome.ofValue closedGate := rfl
  obtain ⟨ready, issues, after, ran, agree, -⟩ :=
    agree_iff_not_lax (by decide) answered runs validated
  exact ⟨by decide, rfl, runs, validated, strict, ready, issues, after, ran, agree.mpr strict⟩

/-- A validation that is no decision, though its `allowed` counts as true. -/
def numericVerdict : Value := .object [("allowed", .int 1)]

/-- The studio shows a session as ready of which the flow will never export anything. -/
theorem not_agree_numeric_verdict :
    validating numericVerdict [validation "s1"] = Outcome.ofValue numericVerdict ∧
      ((load .slicerStudio (some "s1")).run (validating numericVerdict).link { link := [] }).1 =
        .ok (.slicerStudio true []) ∧
      Runs (validating numericVerdict) ⟨"demo", .str "out"⟩ { link := [] }
        (refusedTurns numericVerdict) (.error (lacking .validation "allowed")) ∧
      Validated (refusedTurns numericVerdict) (Outcome.ofValue numericVerdict) ∧
      ¬ Agree (Outcome.ofValue numericVerdict) true [] (refusedTurns numericVerdict)
        (.error (lacking .validation "allowed")) := by
  refine ⟨rfl, by decide +kernel, ?_, ?_, ?_⟩
  · exact ⟨Oracle.gave_turns _ _ _, _, Prod.ext (by decide +kernel) rfl, by decide +kernel⟩
  · exact ⟨_, List.mem_of_getElem? (i := 5) rfl, rfl, rfl⟩
  · intro agree
    obtain ⟨turn, member, command⟩ := agree.ready.mp rfl
    revert turn
    decide +kernel

end Screen

end CaptureDesk
