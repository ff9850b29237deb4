import CaptureDesk.Production
import CaptureDesk.Proofs.Oracle
import Mathlib.Data.List.Forall2
import Mathlib.Tactic.IntervalCases

/-!
# The production flow is fail-fast

Over any backend that answers, the flow ends in an answer of its own, and which one is decided by
the first answer that a stage objects to (`objection?`).  The flow then has asked for the stages up
to that one and no more, and it answers with the objection.  If no stage objects, the flow has asked
for all of them and for the capture to be stopped, and it answers with what the stages gave.

The proof goes along the stages.  `Passed` says that the first stages are behind, `Answered` that
the next one has got its answer, and `Refused` that it objects to it; each stage takes a desk with
the first to a desk with the first or the last.
-/

namespace CaptureDesk.Production

/-! ## What the flow asks, and what it objects to -/

/-- The stages that ask something which the flow needs. -/
def working : List Stage := Stage.all.take 8

theorem of_working {n : Nat} {stage : Stage} (place : working[n]? = some stage) :
    n < 8 ∧ Stage.all[n]? = some stage := by
  unfold working at place
  rw [List.getElem?_take] at place
  split at place
  · exact ⟨‹_›, place⟩
  · cases place

/-- The requests of the flow in their order, given the session and the path of the bundle. -/
def requests (order : Order) (session outputPath : Str) : List Request :=
  let scope := Value.object [("session_id", .str session)]
  [⟨"session_create", .object [("label", .str order.label), ("metadata", .object [])]⟩,
    ⟨"capture_start", scope⟩,
    ⟨"ocr_schedule", scope⟩,
    ⟨"steps_generate_candidates", scope⟩,
    ⟨"tutorial_generate", scope⟩,
    ⟨"tutorial_validate_export", scope⟩,
    ⟨"tutorial_export_pack",
      .object [("session_id", .str session), ("output_dir", order.outputDir)]⟩,
    ⟨"export_verify_bundle", .object [("bundle_path", .str outputPath)]⟩,
    ⟨"capture_stop", scope⟩]

/-- A request depends on nothing that only a later answer gives. -/
theorem take_requests (order : Order) {session session' path path' : Str} {n : Nat}
    (sessions : 1 < n → session = session') (paths : 7 < n → path = path') :
    (requests order session path).take n = (requests order session' path').take n := by
  by_cases first : n ≤ 1
  · interval_cases n <;> rfl
  have same := sessions (by omega)
  subst same
  by_cases second : n ≤ 7
  · interval_cases n <;> rfl
  have same := paths (by omega)
  subst same
  rfl

/-- The value that the answer of a turn gives, null when there is none. -/
def valueAt (turns : List Turn) (i : Nat) : Value :=
  match turns[i]? with
  | some ⟨_, .success value⟩ => value
  | _ => .null

/-- The string that the answer of a turn gives under a key. -/
def textAt (turns : List Turn) (i : Nat) (key : Str) : Str :=
  (((valueAt turns i).field key).str?).getD ""

/-- An answer is of no use to a stage, for want of a field. -/
def lacking (stage : Stage) (key : Str) : Failure :=
  { code := .internal
    message := stage.name ++ " stage response is missing '" ++ key ++ "'" }

/-- What a stage that needs a string objects to: it takes no empty one, and nothing else. -/
def unfilled? (stage : Stage) (value : Value) (key : Str) : Option Failure :=
  match value.field key with
  | .str s => if s = "" then some (lacking stage key) else none
  | _ => some (lacking stage key)

/-- What a stage objects to in an answer.  A failure is passed on as it is.  The gates take nothing
but a truth value. -/
def objection? (stage : Stage) : Outcome → Option Failure
  | .failure error => some error
  | .success value =>
      match stage with
      | .session => unfilled? stage value "session_id"
      | .validation =>
          match value.field "allowed" with
          | .bool true => none
          | .bool false =>
              some
                { code := .exportGateFailed
                  message := Str.intercalate "; " (value.field "reasons").itemTexts
                  actionHint := some "Fix steps or anchors before export" }
          | _ => some (lacking stage "allowed")
      | .packing => (unfilled? stage value "output_path").or (unfilled? stage value "bundle_hash")
      | .verification =>
          match value.field "valid" with
          | .bool true => none
          | .bool false =>
              some
                { code := .exportGateFailed
                  message := "Export verification failed"
                  details := some (Str.intercalate "; " (value.field "issues").itemTexts)
                  recoverable := true
                  actionHint := some "Inspect proof ledger and fix policy issues" }
          | _ => some (lacking stage "valid")
      | .capture | .ocr | .steps | .tutorial | .complete => none

/-- It is what the flow finds no string in. -/
theorem unfilled?_eq (stage : Stage) (value : Value) (key : Str) :
    unfilled? stage value key =
      if (value.field key).nonEmptyStr? = none then some (lacking stage key) else none := by
  unfold unfilled?
  cases value.field key with
  | str s => by_cases blank : s = "" <;> simp [Value.nonEmptyStr?, blank]
  | _ => rfl

/-- The stages got answers that they do not object to. -/
def Accepted (stages : List Stage) (turns : List Turn) : Prop :=
  List.Forall₂ (fun stage turn => objection? stage turn.answer = none) stages turns

/-- An objection to an answer that is no failure is an internal failure, or a closed gate. -/
theorem code_of_objection {stage : Stage} {value : Value} {error : Failure}
    (objects : objection? stage (.success value) = some error) :
    error.code = .internal ∨
      (error.code = .exportGateFailed ∧ (stage = .validation ∨ stage = .verification)) := by
  have ofLack : ∀ key, unfilled? stage value key = some error → error.code = .internal := by
    intro key lacks
    unfold unfilled? at lacks
    split at lacks
    · split at lacks <;> cases lacks
      rfl
    · cases lacks
      rfl
  cases stage with
  | session => exact Or.inl (ofLack "session_id" objects)
  | capture | ocr | steps | tutorial | complete => cases objects
  | packing =>
      rcases Option.or_eq_some_iff.mp objects with first | ⟨_, second⟩
      · exact Or.inl (ofLack "output_path" first)
      · exact Or.inl (ofLack "bundle_hash" second)
  | validation =>
      simp only [objection?] at objects
      split at objects <;> cases objects
      · exact Or.inr ⟨rfl, Or.inl rfl⟩
      · exact Or.inl rfl
  | verification =>
      simp only [objection?] at objects
      split at objects <;> cases objects
      · exact Or.inr ⟨rfl, Or.inr rfl⟩
      · exact Or.inl rfl

/-! ## Where a flow stands -/

/-- What has been asked since the desk `d`: the first requests of the flow, answered by the
oracle. -/
structure Heard (o : Oracle) (order : Order) (d : Desk (List Request)) (turns : List Turn)
    (now : Desk (List Request)) : Prop where
  gave : o.Gave d.link turns
  link : now.link = d.link ++ turns.map Turn.request
  asked : turns.map Turn.request =
    (requests order (textAt turns 0 "session_id") (textAt turns 6 "output_path")).take turns.length

/-- What has been announced and reported since the desk `d`: the first `n` stages. -/
structure Begun (d : Desk (List Request)) (n : Nat) (now : Desk (List Request)) : Prop where
  announced : now.announced = d.announced ++ Stage.all.take n
  reports : now.reports = d.reports ++ (Stage.all.take n).map .stageStarted

/-- The first stages are behind. -/
structure Passed (o : Oracle) (order : Order) (d : Desk (List Request)) (turns : List Turn)
    (now : Desk (List Request)) : Prop where
  heard : Heard o order d turns now
  begun : Begun d turns.length now
  accepted : Accepted (working.take turns.length) turns

/-- The first stages are behind, and the next one has begun. -/
structure Entered (o : Oracle) (order : Order) (d : Desk (List Request)) (turns : List Turn)
    (stage : Stage) (now : Desk (List Request)) : Prop where
  place : working[turns.length]? = some stage
  heard : Heard o order d turns now
  begun : Begun d (turns.length + 1) now
  accepted : Accepted (working.take turns.length) turns

/-- The first stages are behind, and the next one has got its answer. -/
structure Answered (o : Oracle) (order : Order) (d : Desk (List Request)) (turns : List Turn)
    (stage : Stage) (last : Turn) (now : Desk (List Request)) : Prop where
  place : working[turns.length]? = some stage
  heard : Heard o order d (turns ++ [last]) now
  begun : Begun d (turns.length + 1) now
  accepted : Accepted (working.take turns.length) turns

/-- A stage objects to its answer. -/
def Refused (o : Oracle) (order : Order) (d : Desk (List Request)) (failure : StageFailure)
    (now : Desk (List Request)) : Prop :=
  ∃ turns last, Answered o order d turns failure.stage last now ∧
    objection? failure.stage last.answer = some failure.error

theorem valueAt_append {turns : List Turn} {i : Nat} (within : i < turns.length)
    (last : Turn) : valueAt (turns ++ [last]) i = valueAt turns i := by
  unfold valueAt
  rw [List.getElem?_append_left within]

theorem textAt_append {turns : List Turn} {i : Nat} (within : i < turns.length)
    (last : Turn) (key : Str) : textAt (turns ++ [last]) i key = textAt turns i key := by
  unfold textAt
  rw [valueAt_append within]

theorem str?_of_nonEmptyStr? {value : Value} {text : Str}
    (found : value.nonEmptyStr? = some text) : value.str? = some text := by
  unfold Value.nonEmptyStr? at found
  split at found
  · split at found <;> cases found
    rfl
  · cases found

theorem valueAt_last {turns : List Turn} {n : Nat} (length : turns.length = n)
    {request : Request} {value : Value} :
    valueAt (turns ++ [⟨request, .success value⟩]) n = value := by
  subst length
  simp [valueAt]

theorem textAt_last {turns : List Turn} {n : Nat} (length : turns.length = n)
    {request : Request} {value : Value} {key text : Str}
    (found : (value.field key).nonEmptyStr? = some text) :
    textAt (turns ++ [⟨request, .success value⟩]) n key = text := by
  unfold textAt
  rw [valueAt_last length, str?_of_nonEmptyStr? found]
  rfl

section Stands

variable {o : Oracle} {order : Order} {d now : Desk (List Request)} {turns : List Turn}
  {stage : Stage} {last : Turn}

theorem Passed.start (o : Oracle) (order : Order) (d : Desk (List Request)) :
    Passed o order d [] d where
  heard := ⟨.nil, (List.append_nil _).symm, rfl⟩
  begun := ⟨(List.append_nil _).symm, (List.append_nil _).symm⟩
  accepted := .nil

/-- The next request of the flow is answered by the oracle. -/
theorem Heard.snoc (heard : Heard o order d turns now) {request : Request}
    (next : (requests order (textAt turns 0 "session_id")
      (textAt turns 6 "output_path"))[turns.length]? = some request) :
    Heard o order d (turns ++ [⟨request, o (now.link ++ [request])⟩])
      { now with link := now.link ++ [request] } := by
  have answer : o (now.link ++ [request]) =
      o (d.link ++ turns.map Turn.request ++ [request]) := by
    rw [heard.link]
  refine ⟨?_, ?_, ?_⟩
  · rw [answer]
    exact .snoc heard.gave
  · rw [heard.link]
    simp
  · generalize o (now.link ++ [request]) = answer
    have known : (requests order (textAt turns 0 "session_id")
          (textAt turns 6 "output_path")).take (turns.length + 1) =
        (requests order (textAt (turns ++ [⟨request, answer⟩]) 0 "session_id")
          (textAt (turns ++ [⟨request, answer⟩]) 6 "output_path")).take (turns.length + 1) :=
      take_requests order
        (fun _ => (textAt_append (by omega) _ _).symm)
        (fun _ => (textAt_append (by omega) _ _).symm)
    rw [List.length_append, List.length_singleton, ← known, List.take_add_one, next,
      List.map_append, heard.asked]
    rfl

/-- A change of the board changes nothing about what was heard. -/
theorem Answered.change (answered : Answered o order d turns stage last now)
    (c : Board.Change) :
    Answered o order d turns stage last (now.perform (.change c)) where
  place := answered.place
  heard := ⟨answered.heard.gave, answered.heard.link, answered.heard.asked⟩
  begun := ⟨answered.begun.announced, answered.begun.reports⟩
  accepted := answered.accepted

/-- A stage that does not object is behind. -/
theorem Answered.passed (answered : Answered o order d turns stage last now)
    (content : objection? stage last.answer = none) :
    Passed o order d (turns ++ [last]) now where
  heard := answered.heard
  begun := by
    rw [List.length_append, List.length_singleton]
    exact answered.begun
  accepted := by
    rw [List.length_append, List.length_singleton, List.take_add_one, answered.place]
    exact List.rel_append answered.accepted (.cons content .nil)

end Stands

/-! ## Going along the stages -/

/-- The part of a flow comes through, with a condition on its result and on the desk, or a stage
objects to its answer. -/
def Advances {α : Type} (o : Oracle) (order : Order) (d : Desk (List Request)) (t : Staged α)
    (now : Desk (List Request)) (post : α → Desk (List Request) → Prop) : Prop :=
  Procedure.Yields o.link t.run now fun result after =>
    match result with
    | .ok a => post a after
    | .error failure => Refused o order d failure after

section Advances

variable {α β : Type} {o : Oracle} {order : Order} {d now : Desk (List Request)}
  {post : α → Desk (List Request) → Prop}

theorem Advances.pure {a : α} (holds : post a now) : Advances o order d (pure a) now post :=
  Procedure.Yields.done holds

theorem Advances.refuse {failure : StageFailure} (refused : Refused o order d failure now) :
    Advances o order d (throw failure : Staged α) now post :=
  Procedure.Yields.done refused

/-- A procedure that is a step of the flow comes through whatever it yields. -/
theorem Advances.lift {t : Procedure α} (yields : Procedure.Yields o.link t now post) :
    Advances o order d (lift t) now post :=
  yields.bind fun _ _ holds => Procedure.Yields.done holds

theorem Advances.bind {t : Staged α} {next : α → Staged β}
    {post' : β → Desk (List Request) → Prop} (first : Advances o order d t now post)
    (second : ∀ a after, post a after → Advances o order d (next a) after post') :
    Advances o order d (t >>= next) now post' := by
  refine Procedure.Yields.bind first ?_
  intro result after holds
  cases result with
  | ok a => exact second a after holds
  | error failure => exact Procedure.Yields.done holds

theorem Advances.mono {t : Staged α} {post' : α → Desk (List Request) → Prop}
    (advances : Advances o order d t now post) (weaker : ∀ a after, post a after → post' a after) :
    Advances o order d t now post' := by
  refine Procedure.Yields.mono advances ?_
  intro result after holds
  cases result with
  | ok a => exact weaker a after holds
  | error failure => exact holds

end Advances

section Stages

variable {o : Oracle} {order : Order} {d now : Desk (List Request)} {turns : List Turn}
  {stage : Stage} {last : Turn}

theorem take_stages {n : Nat} (place : Stage.all[n]? = some stage) :
    Stage.all.take (n + 1) = Stage.all.take n ++ [stage] := by
  rw [List.take_add_one, place]
  rfl

/-- Beginning a stage announces and reports it, and asks nothing. -/
theorem Begun.enter {n : Nat} (begun : Begun d n now) (place : Stage.all[n]? = some stage) :
    Procedure.Yields o.link (enter stage) now fun _ next =>
      next.link = now.link ∧ Begun d (n + 1) next := by
  refine .act (.act (.done ⟨rfl, ?_, ?_⟩))
  · simp [Desk.perform, begun.announced, take_stages place]
  · simp [Desk.perform, begun.reports, take_stages place]

theorem Passed.enter (passed : Passed o order d turns now)
    (place : working[turns.length]? = some stage) :
    Advances o order d (lift (enter stage)) now fun _ next =>
      Entered o order d turns stage next := by
  refine .lift ((passed.begun.enter (of_working place).2).mono ?_)
  intro _ next h
  obtain ⟨link, begun⟩ := h
  exact ⟨place, ⟨passed.heard.gave, link.trans passed.heard.link, passed.heard.asked⟩, begun,
    passed.accepted⟩

/-- A stage that asks the next request of the flow gets a value, or passes the failure on. -/
theorem Entered.ask (entered : Entered o order d turns stage now) {command : Str} {body : Value}
    (next : (requests order (textAt turns 0 "session_id")
      (textAt turns 6 "output_path"))[turns.length]? = some ⟨command, body⟩) :
    Advances o order d (ask stage command body) now fun value after =>
      Answered o order d turns stage ⟨⟨command, body⟩, .success value⟩ after := by
  have heard := entered.heard.snoc next
  have asked : Advances o order d (lift (Procedure.request command body)) now fun answer after =>
      Answered o order d turns stage ⟨⟨command, body⟩, answer⟩ after :=
    .lift (.ask (.done ⟨entered.place, heard,
      ⟨entered.begun.announced, entered.begun.reports⟩, entered.accepted⟩))
  refine asked.bind ?_
  intro answer after answered
  cases answer with
  | success value => exact .pure answered
  | failure error => exact .refuse ⟨turns, _, answered, rfl⟩

theorem Answered.changes (answered : Answered o order d turns stage last now)
    (c : Board.Change) :
    Advances o order d (lift (Procedure.change c)) now fun _ after =>
      Answered o order d turns stage last after :=
  .lift (.act (.done (answered.change c)))

/-- A string that a stage needs is there, or the stage objects. -/
theorem Answered.requireText (answered : Answered o order d turns stage last now) {value : Value}
    {key : Str}
    (needs : (value.field key).nonEmptyStr? = none →
      objection? stage last.answer = some (lacking stage key)) :
    Advances o order d (expect (requireText stage value key)) now fun text after =>
      after = now ∧ (value.field key).nonEmptyStr? = some text := by
  unfold Production.requireText
  cases found : (value.field key).nonEmptyStr? with
  | some text => exact .pure ⟨rfl, rfl⟩
  | none => exact .refuse ⟨turns, last, answered, needs found⟩

/-- A truth value that a gate needs is there, or the gate objects. -/
theorem Answered.requireVerdict (answered : Answered o order d turns stage last now) {value : Value}
    {key : Str}
    (needs : (∀ verdict, value.field key ≠ .bool verdict) →
      objection? stage last.answer = some (lacking stage key)) :
    Advances o order d (expect (requireVerdict stage value key)) now fun verdict after =>
      after = now ∧ value.field key = .bool verdict := by
  unfold Production.requireVerdict
  cases found : (value.field key).bool? with
  | some verdict =>
      refine .pure ⟨rfl, ?_⟩
      unfold Value.bool? at found
      split at found <;> cases found
      assumption
  | none =>
      refine .refuse ⟨turns, last, answered, needs ?_⟩
      intro verdict holds
      rw [holds] at found
      cases found

end Stages

/-! ## The single stages -/

/-- The first `n` stages are behind, and the first of them has given the session. -/
structure Reached (o : Oracle) (order : Order) (d : Desk (List Request)) (n : Nat)
    (session : Str) (turns : List Turn) (now : Desk (List Request)) : Prop where
  passed : Passed o order d turns now
  length : turns.length = n
  session : textAt turns 0 "session_id" = session

section Single

variable {o : Oracle} {order : Order} {d now after : Desk (List Request)} {turns : List Turn}
  {stage : Stage} {last : Turn} {n : Nat} {session : Str}

theorem Reached.snoc (reached : Reached o order d n session turns now) (begun : 0 < n)
    (answered : Answered o order d turns stage last after)
    (content : objection? stage last.answer = none) :
    Reached o order d (n + 1) session (turns ++ [last]) after where
  passed := answered.passed content
  length := by rw [List.length_append, List.length_singleton, reached.length]
  session := by
    rw [textAt_append (by rw [reached.length]; exact begun)]
    exact reached.session

/-- A stage that is reached begins, and asks the request of its place. -/
theorem Reached.ask {α : Type} {post : α → Desk (List Request) → Prop} {command : Str}
    {body : Value} {use : Value → Staged α} (reached : Reached o order d n session turns now)
    (place : working[n]? = some stage)
    (next : (requests order session (textAt turns 6 "output_path"))[n]? = some ⟨command, body⟩)
    (rest : ∀ value after,
      Answered o order d turns stage ⟨⟨command, body⟩, .success value⟩ after →
      Advances o order d (use value) after post) :
    Advances o order d
      (lift (enter stage) >>= fun _ => Production.ask stage command body >>= use) now post := by
  obtain ⟨passed, rfl, rfl⟩ := reached
  refine (passed.enter place).bind ?_
  intro _ after entered
  exact (entered.ask next).bind rest

/-- The first stage gives the session that the later ones work on. -/
theorem openSession_advances (o : Oracle) (order : Order) (d : Desk (List Request)) :
    Advances o order d (openSession order) d fun session after =>
      ∃ turns, Reached o order d 1 session turns after := by
  unfold openSession
  refine ((Passed.start o order d).enter rfl).bind ?_
  intro _ now entered
  refine (entered.ask rfl).bind ?_
  intro value now answered
  have needs : (value.field "session_id").nonEmptyStr? = none →
      objection? .session (.success value) = some (lacking .session "session_id") := by
    intro absent
    simp [objection?, unfilled?_eq, absent]
  refine (answered.requireText needs).bind ?_
  intro session _ h
  obtain ⟨rfl, found⟩ := h
  have content : objection? .session (.success value) = none := by
    simp [objection?, unfilled?_eq, found]
  refine (answered.changes _).bind ?_
  intro _ now answered
  cases startPosition value with
  | none => exact .pure ⟨_, answered.passed content, rfl, textAt_last rfl found⟩
  | some head =>
      refine (answered.changes _).bind ?_
      intro _ now answered
      exact .pure ⟨_, answered.passed content, rfl, textAt_last rfl found⟩

/-- A stage that schedules a job is content with any value. -/
theorem schedule_advances (reached : Reached o order d n session turns now) (begun : 0 < n)
    {command : Str} {body : Value} (place : working[n]? = some stage)
    (next : (requests order session (textAt turns 6 "output_path"))[n]? = some ⟨command, body⟩)
    (content : ∀ value, objection? stage (.success value) = none) :
    Advances o order d (schedule stage command body) now fun _ after =>
      ∃ turns, Reached o order d (n + 1) session turns after := by
  refine reached.ask place next ?_
  intro value after answered
  refine .lift ?_
  unfold recordJob
  split
  · exact .act (.done ⟨_, reached.snoc begun (answered.change _) (content value)⟩)
  · exact .done ⟨_, reached.snoc begun answered (content value)⟩

/-- The gate before the export lets nothing pass but a validation that allows it. -/
theorem validate_advances (reached : Reached o order d 5 session turns now) :
    Advances o order d (validate (.object [("session_id", .str session)])) now fun _ after =>
      ∃ turns, Reached o order d 6 session turns after := by
  refine reached.ask rfl rfl ?_
  intro value after answered
  have needs : (∀ verdict, value.field "allowed" ≠ .bool verdict) →
      objection? .validation (.success value) = some (lacking .validation "allowed") := by
    intro absent
    simp [objection?, absent]
  refine (answered.requireVerdict needs).bind ?_
  intro verdict _ h
  obtain ⟨rfl, found⟩ := h
  cases verdict with
  | true =>
      refine .pure ⟨_, reached.snoc (by omega) answered ?_⟩
      simp [objection?, found]
  | false =>
      refine .refuse ⟨turns, _, answered, ?_⟩
      simp [objection?, gateClosed, found]

/-- The export gives the path of the bundle and its hash. -/
theorem pack_advances (reached : Reached o order d 6 session turns now) :
    Advances o order d (pack session order.outputDir) now fun bundle after =>
      ∃ turns, Reached o order d 7 session turns after ∧
        textAt turns 6 "output_path" = bundle.1 ∧ textAt turns 6 "bundle_hash" = bundle.2 := by
  refine reached.ask rfl rfl ?_
  intro value after answered
  have needsPath : (value.field "output_path").nonEmptyStr? = none →
      objection? .packing (.success value) = some (lacking .packing "output_path") := by
    intro absent
    simp [objection?, unfilled?_eq, absent]
  refine (answered.requireText needsPath).bind ?_
  intro path _ h
  obtain ⟨rfl, foundPath⟩ := h
  have needsHash : (value.field "bundle_hash").nonEmptyStr? = none →
      objection? .packing (.success value) = some (lacking .packing "bundle_hash") := by
    intro absent
    simp [objection?, unfilled?_eq, foundPath, absent]
  refine (answered.requireText needsHash).bind ?_
  intro hash _ h
  obtain ⟨rfl, foundHash⟩ := h
  have content : objection? .packing (.success value) = none := by
    simp [objection?, unfilled?_eq, foundPath, foundHash]
  exact .pure ⟨_, reached.snoc (by omega) answered content,
    textAt_last reached.length foundPath, textAt_last reached.length foundHash⟩

/-- The gate after the export lets nothing pass but a bundle that is valid. -/
theorem verify_advances (reached : Reached o order d 7 session turns now) :
    Advances o order d (verify (textAt turns 6 "output_path")) now fun issues after =>
      ∃ last, Reached o order d 8 session (turns ++ [last]) after ∧
        ((valueAt (turns ++ [last]) 7).field "issues").itemTexts = issues := by
  refine reached.ask rfl rfl ?_
  intro value after answered
  have needs : (∀ verdict, value.field "valid" ≠ .bool verdict) →
      objection? .verification (.success value) = some (lacking .verification "valid") := by
    intro absent
    simp [objection?, absent]
  refine (answered.requireVerdict needs).bind ?_
  intro verdict _ h
  obtain ⟨rfl, found⟩ := h
  cases verdict with
  | true =>
      have content : objection? .verification (.success value) = none := by
        simp [objection?, found]
      refine .pure ⟨_, reached.snoc (by omega) answered content, ?_⟩
      rw [valueAt_last reached.length]
  | false =>
      refine .refuse ⟨turns, _, answered, ?_⟩
      simp [objection?, bundleInvalid, found]

end Single

/-! ## The whole flow -/

/-- A stage has objected to its answer, and the flow has ended there. -/
structure Halts (d : Desk (List Request)) (passed : List Turn) (last : Turn) (stage : Stage)
    (error : Failure) (after : Desk (List Request)) : Prop where
  place : working[passed.length]? = some stage
  accepted : Accepted (working.take passed.length) passed
  objects : objection? stage last.answer = some error
  announced : after.announced = d.announced ++ Stage.all.take (passed.length + 1)
  reports : after.reports =
    d.reports ++ (Stage.all.take (passed.length + 1)).map .stageStarted ++
      [.stageFailed stage error.code error.recoverable]
  lastError : after.board.lastErrorCode = some (.plain error.code.name)
  message : after.board.statusMessage =
    "Flow failed: " ++ error.code.name ++ " " ++ error.message

/-- What is reported of the answer to the request to stop the capture. -/
def stopReports : Outcome → List Report
  | .success _ => []
  | .failure error => [.captureStopFailed error.code]

/-- A delivery holds what the stages have given. -/
structure Made (passed : List Turn) (delivery : Delivery) : Prop where
  session : delivery.session = textAt passed 0 "session_id"
  outputPath : delivery.outputPath = textAt passed 6 "output_path"
  bundleHash : delivery.bundleHash = textAt passed 6 "bundle_hash"
  issues : delivery.issues = ((valueAt passed 7).field "issues").itemTexts

/-- No stage has objected to its answer, and the flow has delivered.  How the capture was stopped
does not matter. -/
structure Completes (d : Desk (List Request)) (passed : List Turn) (stop : Turn)
    (delivery : Delivery) (after : Desk (List Request)) : Prop where
  accepted : Accepted working passed
  made : Made passed delivery
  announced : after.announced = d.announced ++ Stage.all
  reports : after.reports =
    d.reports ++ working.map .stageStarted ++ stopReports stop.answer ++
      [.stageStarted .complete, .flowCompleted delivery.session delivery.outputPath]
  lastError : after.board.lastErrorCode = none
  message : after.board.statusMessage = "Export verified: " ++ delivery.outputPath

/-- How a flow ends that has made some requests and got the answers to them. -/
inductive Ends (d : Desk (List Request)) :
    List Turn → Except Failure Delivery → Desk (List Request) → Prop
  | halted {passed : List Turn} {last : Turn} {stage : Stage} {error : Failure}
      {after : Desk (List Request)} :
      Halts d passed last stage error after → Ends d (passed ++ [last]) (.error error) after
  | completed {passed : List Turn} {stop : Turn} {delivery : Delivery}
      {after : Desk (List Request)} :
      Completes d passed stop delivery after → Ends d (passed ++ [stop]) (.ok delivery) after

section Flow

variable {o : Oracle} {order : Order} {d now : Desk (List Request)} {turns : List Turn}
  {session : Str}

/-- After the stages the capture is stopped; only the reports tell whether it was. -/
theorem Reached.stop (reached : Reached o order d 8 session turns now) :
    Procedure.Yields o.link (stopCapture (.object [("session_id", .str session)])) now
      fun _ after => ∃ stop, Heard o order d (turns ++ [stop]) after ∧
        after.announced = now.announced ∧
        after.reports = now.reports ++ stopReports stop.answer := by
  obtain ⟨passed, length, rfl⟩ := reached
  let request : Request :=
    ⟨"capture_stop", .object [("session_id", .str (textAt turns 0 "session_id"))]⟩
  have asked : Procedure.Yields o.link (Procedure.request request.command request.body) now
      fun answer after => Heard o order d (turns ++ [⟨request, answer⟩]) after ∧
        after.announced = now.announced ∧ after.reports = now.reports :=
    .ask (.done ⟨passed.heard.snoc (by rw [length]; rfl), rfl, rfl⟩)
  refine asked.bind ?_
  intro answer after h
  obtain ⟨heard, announced, reports⟩ := h
  cases answer with
  | success value => exact .done ⟨_, heard, announced, by rw [reports]; simp [stopReports]⟩
  | failure error =>
      refine .act (.done ⟨_, ⟨heard.gave, heard.link, heard.asked⟩, announced, ?_⟩)
      simp [Desk.perform, reports, stopReports]

/-- When no stage objects, all have got their answers, and the delivery is made of these. -/
structure Delivered (o : Oracle) (order : Order) (d : Desk (List Request)) (passed : List Turn)
    (stop : Turn) (delivery : Delivery) (now : Desk (List Request)) : Prop where
  heard : Heard o order d (passed ++ [stop]) now
  accepted : Accepted working passed
  made : Made passed delivery
  announced : now.announced = d.announced ++ Stage.all
  reports : now.reports =
    d.reports ++ working.map .stageStarted ++ stopReports stop.answer ++ [.stageStarted .complete]
  lastError : now.board.lastErrorCode = none

/-- The end of the flow after the last gate: nothing there can fail any more. -/
theorem Reached.deliver (reached : Reached o order d 8 session turns now) {delivery : Delivery}
    (made : Made turns delivery) :
    Advances o order d
      (do lift (stopCapture (.object [("session_id", .str session)]))
          lift (Procedure.change (.setLastError none))
          lift (enter .complete)
          pure delivery)
      now fun result after =>
        result = delivery ∧ ∃ stop, Delivered o order d turns stop delivery after := by
  refine (Advances.lift reached.stop).bind ?_
  intro _ after h
  obtain ⟨stop, heard, announced, reports⟩ := h
  have complete : Accepted working turns := by
    have accepted := reached.passed.accepted
    rw [reached.length] at accepted
    exact accepted
  have begun := reached.passed.begun
  rw [reached.length] at begun
  refine .act (.act (.act (.done
    ⟨rfl, stop, ⟨heard.gave, heard.link, heard.asked⟩, complete, made, ?_, ?_, rfl⟩)))
  · simp [Desk.perform, announced, begun.announced]
    rfl
  · simp [Desk.perform, reports, begun.reports]
    rfl

/-- The stages one after another: a delivery, or the first objection. -/
theorem stages_advances (o : Oracle) (order : Order) (d : Desk (List Request)) :
    Advances o order d (stages order) d fun delivery after =>
      ∃ passed stop, Delivered o order d passed stop delivery after := by
  unfold stages
  refine (openSession_advances o order d).bind ?_
  intro session now h
  obtain ⟨turns, reached⟩ := h
  refine reached.ask rfl rfl ?_
  intro value now answered
  have reached := reached.snoc (by omega) answered rfl
  refine (schedule_advances reached (by omega) rfl rfl fun _ => rfl).bind ?_
  intro _ now h
  obtain ⟨turns, reached⟩ := h
  refine (schedule_advances reached (by omega) rfl rfl fun _ => rfl).bind ?_
  intro _ now h
  obtain ⟨turns, reached⟩ := h
  refine (schedule_advances reached (by omega) rfl rfl fun _ => rfl).bind ?_
  intro _ now h
  obtain ⟨turns, reached⟩ := h
  refine (validate_advances reached).bind ?_
  intro _ now h
  obtain ⟨turns, reached⟩ := h
  refine (pack_advances reached).bind ?_
  intro h now h'
  obtain ⟨path, hash⟩ := h
  obtain ⟨turns, reached, rfl, rfl⟩ := h'
  refine (verify_advances reached).bind ?_
  intro issues now h
  obtain ⟨last, verified, rfl⟩ := h
  have within : 6 < turns.length := by
    rw [reached.length]
    omega
  refine (verified.deliver ⟨verified.session.symm, (textAt_append within _ _).symm,
    (textAt_append within _ _).symm, rfl⟩).mono ?_
  intro _ after h
  obtain ⟨rfl, stop, delivered⟩ := h
  exact ⟨_, stop, delivered⟩

/-- A stage that objects ends the flow with its objection. -/
theorem Refused.conclude {failure : StageFailure} (refused : Refused o order d failure now) :
    Procedure.Yields o.link (conclude (.error failure)) now fun result after =>
      ∃ turns, Heard o order d turns after ∧ Ends d turns result after := by
  obtain ⟨passed, last, answered, objects⟩ := refused
  have heard := answered.heard
  refine .act (.act (.act (.done ⟨passed ++ [last], ?_, ?_⟩)))
  · exact ⟨heard.gave, heard.link, heard.asked⟩
  · have announced := answered.begun.announced
    have reports := answered.begun.reports
    refine .halted ⟨answered.place, answered.accepted, objects, announced, ?_, rfl, rfl⟩
    rw [← reports]
    rfl

/-- A flow that no stage objected to ends with its delivery. -/
theorem Delivered.conclude {passed : List Turn} {stop : Turn} {delivery : Delivery}
    (delivered : Delivered o order d passed stop delivery now) :
    Procedure.Yields o.link (conclude (.ok delivery)) now fun result after =>
      ∃ turns, Heard o order d turns after ∧ Ends d turns result after := by
  have heard := delivered.heard
  refine .act (.act (.done ⟨passed ++ [stop], ?_, .completed ?_⟩))
  · exact ⟨heard.gave, heard.link, heard.asked⟩
  · refine ⟨delivered.accepted, delivered.made, delivered.announced, ?_, delivered.lastError, rfl⟩
    simp [Desk.perform, delivered.reports]

end Flow

/-- **The flow is fail-fast.**  Over any backend that answers, whatever it answers and has answered
before, the flow ends in an answer of its own.  Its requests are the first ones of `requests`.
Either the last of them is the first whose answer its stage objects to, and this is what the flow
answers with, or no stage objects, and the flow delivers what the stages have given. -/
theorem flow_failFast (o : Oracle) (order : Order) (d : Desk (List Request)) :
    ∃ result after, (flow order).run o.link d = (.ok result, after) ∧
      ∃ turns, Heard o order d turns after ∧ Ends d turns result after := by
  show Procedure.Yields o.link (flow order) d fun result after =>
    ∃ turns, Heard o order d turns after ∧ Ends d turns result after
  refine Procedure.Yields.bind (stages_advances o order d) ?_
  intro staged now holds
  cases staged with
  | error failure => exact holds.conclude
  | ok delivery =>
      obtain ⟨passed, stop, delivered⟩ := holds
      exact delivered.conclude

end CaptureDesk.Production
