import CaptureDesk.Proofs.Revision.StepLog

/-!
# Contending edits

Any number of revisions of one session run side by side against its step log.  A revision has at
most three requests, which `Course` lists: the edit, the listing after a conflict, and the edit once
more against the position listed.  A revision that loses an answer, or gives up on a request, ends
there and then (`Course.of_lost`), so what the backend has handled for it is always the beginning of
such a course, with at most its last request adrift (`Phase`).

Hence each edit is applied at most once.  One that is reported as applied stands in the log, at the
place that its answer gives; one that is refused for good does not, and another edit was applied
between its listing and its second attempt (`Contest.settled`).
-/

namespace CaptureDesk.Revision

/-! ## What a revision asks -/

/-- What a revision asks after a conflict. -/
def asksAgain (e : Edit) : Procedure Outcome :=
  .ask (listing e.session) fun listed =>
    match position e.session listed with
    | .error error => .done (.failure error)
    | .ok head => .ask (e.request head) .done

/-- What a revision asks after the answer to its first attempt. -/
def asksAfter (e : Edit) : Outcome → Procedure Outcome
  | .failure { code := .conflict, .. } => asksAgain e
  | answer => .done answer

/-- What a revision asks. -/
def asks (e : Edit) : Procedure Outcome :=
  .ask (e.request e.base) (asksAfter e)

/-- An answer that calls for another attempt. -/
def IsConflict (answer : Outcome) : Prop :=
  ∃ error, answer = .failure error ∧ error.code = .conflict

theorem asksAfter_conflict {answer : Outcome} (conflict : IsConflict answer) (e : Edit) :
    asksAfter e answer = asksAgain e := by
  rcases conflict with ⟨⟨code, message, details, recoverable, hint⟩, rfl, rfl⟩
  rfl

theorem asksAfter_other {answer : Outcome} (other : ¬ IsConflict answer) (e : Edit) :
    asksAfter e answer = .done answer := by
  unfold asksAfter
  split
  · exact (other ⟨_, rfl, rfl⟩).elim
  · rfl

theorem bare_conclude (recorded : Bool) (session : Str) (answer : Outcome) :
    (conclude recorded session answer).bare = .done answer := by
  cases answer with
  | failure error => cases recorded <;> rfl
  | success value =>
      simp only [conclude]
      cases appliedAt value with
      | none => rfl
      | some head => cases recorded <;> rfl

/-- A revision asks the same whether it is recorded or not. -/
theorem bare_perform (recorded : Bool) (e : Edit) : (perform recorded e).bare = asks e := by
  have last : ∀ answer, (conclude recorded e.session answer).bare = .done answer :=
    bare_conclude recorded e.session
  simp only [perform, attempt, Procedure.report, asks, Procedure.act_bind, Procedure.done_bind,
    Procedure.ask_bind, Procedure.bare_act, Procedure.bare_ask]
  congr 1
  funext first
  split
  · simp only [asksAfter, asksAgain, Procedure.bare_act, Procedure.bare_ask]
    congr 1
    funext listed
    cases position e.session listed with
    | error error => exact last (.failure error)
    | ok head =>
        cases recorded <;>
          simp only [changeIf, Procedure.change, Procedure.act_bind, Procedure.done_bind,
            Procedure.bare_act, Procedure.bare_ask, last, if_true, Bool.false_eq_true, if_false]
  · rename_i other
    rw [last, asksAfter_other]
    intro h
    obtain ⟨⟨code, message, details, recoverable, hint⟩, rfl, rfl⟩ := h
    exact other _ _ _ _ rfl

/-- The turns of a revision and what it is left with after them. -/
inductive Course (e : Edit) : List Turn → Procedure Outcome → Prop
  | start : Course e [] (asks e)
  | settled {answer : Outcome} :
      ¬ IsConflict answer → Course e [⟨e.request e.base, answer⟩] (.done answer)
  | conflicted {answer : Outcome} :
      IsConflict answer → Course e [⟨e.request e.base, answer⟩] (asksAgain e)
  | unlisted {answer listed : Outcome} {failure : Failure} :
      IsConflict answer → position e.session listed = .error failure →
      Course e [⟨e.request e.base, answer⟩, ⟨listing e.session, listed⟩]
        (.done (.failure failure))
  | listed {answer listed : Outcome} {head : Int} :
      IsConflict answer → position e.session listed = .ok head →
      Course e [⟨e.request e.base, answer⟩, ⟨listing e.session, listed⟩]
        (.ask (e.request head) .done)
  | retried {answer listed second : Outcome} {head : Int} :
      IsConflict answer → position e.session listed = .ok head →
      Course e [⟨e.request e.base, answer⟩, ⟨listing e.session, listed⟩,
        ⟨e.request head, second⟩] (.done second)

/-- Every dialogue of a revision is one of the six courses. -/
theorem course_of_dialogue {e : Edit} {said : List Turn} {q : Procedure Outcome}
    (dialogue : Dialogue (asks e) said q) : Course e said q := by
  rcases dialogue.of_ask with ⟨rfl, rfl⟩ | ⟨first, rest, rfl, afterFirst⟩
  · exact .start
  by_cases conflict : IsConflict first
  · rw [asksAfter_conflict conflict] at afterFirst
    rcases afterFirst.of_ask with ⟨rfl, rfl⟩ | ⟨listed, rest, rfl, afterListing⟩
    · exact .conflicted conflict
    cases found : position e.session listed with
    | error failure =>
        rw [found] at afterListing
        rcases afterListing.of_done with ⟨rfl, rfl⟩
        exact .unlisted conflict found
    | ok head =>
        rw [found] at afterListing
        rcases afterListing.of_ask with ⟨rfl, rfl⟩ | ⟨second, rest, rfl, afterSecond⟩
        · exact .listed conflict found
        · rcases afterSecond.of_done with ⟨rfl, rfl⟩
          exact .retried conflict found
  · rw [asksAfter_other conflict] at afterFirst
    rcases afterFirst.of_done with ⟨rfl, rfl⟩
    exact .settled conflict

/-! ## What a course comes to -/

theorem not_applied_of_conflict {answer : Outcome} (conflict : IsConflict answer)
    (request : Request) : (⟨request, answer⟩ : Turn).applied = false := by
  rcases conflict with ⟨error, rfl, _⟩
  simp [Turn.applied, Outcome.isOk]

theorem not_applied_listing (session : Str) (answer : Outcome) :
    (⟨listing session, answer⟩ : Turn).applied = false := by
  simp [Turn.applied, listing]

section Course

variable {e : Edit} {said : List Turn} {q : Procedure Outcome}

/-- A revision has at most one edit applied: it makes another attempt only after a refusal. -/
theorem Course.applied_le_one (course : Course e said q) :
    (said.filter Turn.applied).length ≤ 1 := by
  cases course with
  | start => exact Nat.zero_le 1
  | settled | conflicted => exact List.length_filter_le _ _
  | unlisted conflict _ | listed conflict _ =>
      rw [List.filter_cons_of_neg (by simp [not_applied_of_conflict conflict])]
      exact List.length_filter_le _ _
  | retried conflict _ =>
      rw [List.filter_cons_of_neg (by simp [not_applied_of_conflict conflict]),
        List.filter_cons_of_neg (by simp [not_applied_listing])]
      exact List.length_filter_le _ _

/-- A revision has at most three requests. -/
theorem Course.length_le (course : Course e said q) : said.length ≤ 3 := by
  cases course <;> simp

/-- What a revision asks are its edit against some position, and listings. -/
theorem Course.request_eq (course : Course e said q) {x : Turn} (member : x ∈ said) :
    (∃ base, x.request = e.request base) ∨ x.request = listing e.session := by
  cases course <;> simp only [List.mem_cons, List.not_mem_nil, or_false] at member
  case settled | conflicted =>
    subst member
    exact Or.inl ⟨_, rfl⟩
  case unlisted | listed =>
    rcases member with rfl | rfl
    · exact Or.inl ⟨_, rfl⟩
    · exact Or.inr rfl
  case retried =>
    rcases member with rfl | rfl | rfl
    · exact Or.inl ⟨_, rfl⟩
    · exact Or.inr rfl
    · exact Or.inl ⟨_, rfl⟩

/-- A revision that ends in a success has that answer to its edit. -/
theorem Course.of_success {value : Value} (course : Course e said (.done (.success value))) :
    ∃ base, ⟨e.request base, .success value⟩ ∈ said := by
  generalize rest : Procedure.done (Outcome.success value) = q at course
  cases course with
  | start | conflicted | listed => cases rest
  | unlisted => cases rest
  | settled other =>
      cases rest
      exact ⟨_, List.mem_cons_self⟩
  | retried =>
      cases rest
      exact ⟨_, List.mem_cons_of_mem _ (List.mem_cons_of_mem _ List.mem_cons_self)⟩

/-- A revision that ends in a conflict has had two of them with a listing between, unless it was the
listing that failed so. -/
theorem Course.of_conflict {error : Failure} (code : error.code = .conflict)
    (course : Course e said (.done (.failure error))) :
    ∃ first listed, IsConflict first ∧
      ((position e.session listed = .error error ∧
          said = [⟨e.request e.base, first⟩, ⟨listing e.session, listed⟩]) ∨
        ∃ head, position e.session listed = .ok head ∧
          said = [⟨e.request e.base, first⟩, ⟨listing e.session, listed⟩,
            ⟨e.request head, .failure error⟩]) := by
  generalize rest : Procedure.done (Outcome.failure error) = q at course
  cases course with
  | start | conflicted | listed => cases rest
  | settled other =>
      cases rest
      exact (other ⟨error, rfl, code⟩).elim
  | unlisted conflict found =>
      cases rest
      exact ⟨_, _, conflict, Or.inl ⟨found, rfl⟩⟩
  | retried conflict found =>
      cases rest
      exact ⟨_, _, conflict, Or.inr ⟨_, found, rfl⟩⟩

/-- A revision that loses an answer ends with the failure that it sees in its place. -/
theorem Course.of_lost {request : Request} {next : Outcome → Procedure Outcome} {error : Failure}
    (course : Course e said (.ask request next)) (code : error.code = .io) :
    next (.failure error) = .done (.failure error) := by
  have other : ¬ IsConflict (.failure error) := by
    intro h
    obtain ⟨_, same, conflict⟩ := h
    cases same
    rw [code] at conflict
    cases conflict
  generalize rest : Procedure.ask request next = q at course
  cases course with
  | settled | unlisted | retried => cases rest
  | start =>
      cases rest
      exact asksAfter_other other e
  | conflicted | listed =>
      cases rest
      rfl

end Course

/-! ## One party of a contest -/

/-- How a revision stands: what has been handled for it, and what is adrift.

* It goes on, and has had every answer.
* It waits for an answer, which the backend has given or has yet to give.
* It has given up on a request, which is adrift or has been handled after all. -/
inductive Phase (e : Edit) : View Outcome → Prop
  | going {rest : Procedure Outcome} {said : List Turn} :
      Dialogue (asks e) said rest.bare → Phase e ⟨.going rest, said, []⟩
  | sent {request : Request} {next : Outcome → Procedure Outcome} {said : List Turn} :
      Dialogue (asks e) said (Procedure.ask request next).bare →
      Phase e ⟨.waiting request next none, said, []⟩
  | answered {request : Request} {next : Outcome → Procedure Outcome} {said : List Turn}
      {answer : Outcome} :
      Dialogue (asks e) said (Procedure.ask request next).bare →
      Phase e ⟨.waiting request next (some answer), said ++ [⟨request, answer⟩], []⟩
  | adrift {request : Request} {next : Outcome → Procedure Outcome} {said : List Turn}
      {rest : Procedure Outcome} {error : Failure} :
      Dialogue (asks e) said (.ask request next) → error.code = .io →
      rest.bare = .done (.failure error) → Phase e ⟨.going rest, said, [request]⟩
  | lost {said : List Turn} {q rest : Procedure Outcome} {error : Failure} :
      Dialogue (asks e) said q → error.code = .io →
      rest.bare = .done (.failure error) → Phase e ⟨.going rest, said, []⟩

/-- Whatever a revision and the backend do keeps it in one of its phases. -/
theorem Phase.step {e : Edit} {v v' : View Outcome} (step : View.Step v v') (phase : Phase e v) :
    Phase e v' := by
  cases step with
  | act =>
      cases phase with
      | going dialogue => exact .going dialogue
      | adrift dialogue code ended => exact .adrift dialogue code ended
      | lost dialogue code ended => exact .lost dialogue code ended
  | send =>
      cases phase with
      | going dialogue => exact .sent dialogue
      | adrift _ _ ended | lost _ _ ended => cases ended
  | handle answer =>
      cases phase with
      | sent dialogue => exact .answered dialogue
  | deliver =>
      cases phase with
      | answered dialogue => exact .going (dialogue.snoc _)
  | giveUp code =>
      cases phase with
      | sent dialogue =>
          exact .adrift dialogue code ((course_of_dialogue dialogue).of_lost code)
  | lose code =>
      cases phase with
      | answered dialogue =>
          exact .lost (dialogue.snoc _) code ((course_of_dialogue dialogue).of_lost code)
  | @drift standing said before after request answer =>
      generalize all : before ++ request :: after = adrift at phase
      cases phase with
      | going | sent | answered | lost => simp at all
      | adrift dialogue code ended =>
          rcases List.append_eq_singleton_iff.mp all with ⟨rfl, single⟩ | ⟨_, none⟩
          · cases single
            exact .lost (dialogue.snoc answer) code ended
          · cases none

/-- What has been handled for a revision is the beginning of a course. -/
theorem Phase.course {e : Edit} {v : View Outcome} (phase : Phase e v) :
    ∃ q, Course e v.said q := by
  cases phase with
  | going dialogue | sent dialogue | adrift dialogue _ _ | lost dialogue _ _ =>
      exact ⟨_, course_of_dialogue dialogue⟩
  | answered dialogue => exact ⟨_, course_of_dialogue (dialogue.snoc _)⟩

/-- A revision that has returned has come to the end of its course, or it has lost an answer. -/
theorem Phase.of_returned {e : Edit} {v : View Outcome} {answer : Outcome} (phase : Phase e v)
    (returned : v.standing = .going (.done answer)) :
    Course e v.said (.done answer) ∨ ∃ error, answer = .failure error ∧ error.code = .io := by
  cases phase with
  | going dialogue =>
      cases returned
      exact Or.inl (course_of_dialogue dialogue)
  | sent | answered => cases returned
  | adrift _ code ended | lost _ code ended =>
      cases returned
      cases ended
      exact Or.inr ⟨_, rfl, code⟩

/-! ## Contests -/

theorem base_of_request (e : Edit) (base : Int) :
    (e.request base).body.field "base_seq" = .int base := rfl

theorem op_of_request (e : Edit) (base : Int) :
    (e.request base).body.field "op" = e.op := rfl

theorem position_of_head {session : Str} {value : Value} {head : Int}
    (reported : value.field "head_seq" = .int head) :
    position session (.success value) = .ok head := by
  simp [position, reported, Value.int?]

/-- The parties whose edits have been applied, in the order of the log. -/
def editors {ι : Type} (handled : List (ι × Turn)) : List ι :=
  (applied handled).map (·.1)

section Editors

variable {ι : Type} {start log : StepLog} {handled : List (ι × Turn)}

theorem count_editors [DecidableEq ι] (handled : List (ι × Turn)) (i : ι) :
    (editors handled).count i = ((theirs i handled).filter Turn.applied).length := by
  induction handled with
  | nil => rfl
  | cons entry handled ih =>
      rcases entry with ⟨j, x⟩
      simp only [editors, applied] at ih ⊢
      by_cases same : j = i
      · subst same
        by_cases yes : x.applied = true <;> simp_all
      · rw [theirs_cons_ne same, ← ih]
        by_cases yes : x.applied = true <;> simp [yes, same]

/-- An edit that was applied was made against the head, its answer reports the next position, and
its operation stands in the log at just that place. -/
theorem editors_of_success (served : Served StepLog.Handles start handled log) {i : ι} {e : Edit}
    {base : Int} {value : Value}
    (member : (i, ⟨e.request base, .success value⟩) ∈ handled) :
    ∃ n : Nat, (editors handled)[n]? = some i ∧ base = start.head + n ∧
      value.field "head_seq" = .int (base + 1) := by
  rcases List.append_of_mem member with ⟨before, after, rfl⟩
  rcases served_append.mp served with ⟨m, earlier, later⟩
  cases later with
  | cons handles _ =>
      rcases handles.of_success rfl with ⟨base_eq, next⟩
      rw [base_of_request] at base_eq
      cases base_eq
      have head := (StepLog.grown earlier).2
      refine ⟨(applied before).length, ?_, head, next⟩
      have isApplied : (⟨e.request m.head, .success value⟩ : Turn).applied = true := by
        simp [Turn.applied, Edit.request, Outcome.isOk]
      simp [editors, applied, isApplied]

/-- A listing that was handled reports the head. -/
theorem listed_of_served (served : Served StepLog.Handles start handled log)
    {before after : List (ι × Turn)} {i : ι} {session : Str} {listed : Outcome}
    (split : handled = before ++ (i, ⟨listing session, listed⟩) :: after) :
    ∃ m, position session listed = .ok m.head ∧ Served StepLog.Handles m after log := by
  subst split
  rcases served_append.mp served with ⟨m, _, later⟩
  cases later with
  | cons handles later =>
      rcases handles.of_listing rfl with ⟨rfl, value, rfl, head⟩
      exact ⟨_, position_of_head head, later⟩

/-- Between a listing and the refusal of an edit against the position listed, an edit was
applied. -/
theorem exists_applied_between {m : StepLog} {middle after : List (ι × Turn)} {i : ι} {e : Edit}
    {error : Failure}
    (served : Served StepLog.Handles m
      (middle ++ (i, ⟨e.request m.head, .failure error⟩) :: after) log) :
    ∃ entry ∈ middle, entry.2.applied = true := by
  rcases served_append.mp served with ⟨t, between, later⟩
  cases later with
  | cons handles _ =>
      have stale := handles.of_failure
      rw [base_of_request] at stale
      exact StepLog.exists_applied between fun same => stale (by rw [same])

end Editors

/-- Calls that revise one session: the position that each was made against, what it is to do, and
whether it is recorded on the board. -/
structure Contest (ι : Type) where
  session : Str
  base : ι → Int
  op : ι → Value
  recorded : ι → Bool

namespace Contest

variable {ι : Type} [DecidableEq ι] {c : Contest ι} {board : Board} {start : StepLog}
  {w : Crowd ι Outcome StepLog}

/-- The edit of a call. -/
def edit (c : Contest ι) (i : ι) : Edit := ⟨c.session, c.base i, c.op i⟩

/-- The calls before any of them has begun. -/
def opening (c : Contest ι) (board : Board) (log : StepLog) : Crowd ι Outcome StepLog :=
  { desk := { board, link := log }
    standing := fun i => .going (perform (c.recorded i) (c.edit i)) }

theorem phase (reach : Crowd.Reach StepLog.Handles (c.opening board start) w) (i : ι) :
    Phase (c.edit i) (w.view i) := by
  refine reach.view (fun i v => Phase (c.edit i) v) (fun _ _ _ => Phase.step) ?_ i
  intro i
  refine .going ?_
  rw [bare_perform]
  exact .nil

theorem served (reach : Crowd.Reach StepLog.Handles (c.opening board start) w) :
    Served StepLog.Handles start w.handled w.desk.link := by
  rcases reach.served with ⟨log, handled, served⟩
  rw [handled]
  exact served

/-- No call has its edit applied twice. -/
theorem nodup_editors (reach : Crowd.Reach StepLog.Handles (c.opening board start) w) :
    (editors w.handled).Nodup := by
  refine List.nodup_iff_count.mpr fun i => ?_
  rcases (phase reach i).course with ⟨q, course⟩
  rw [count_editors]
  exact course.applied_le_one

/-- The log is made of the operations of the calls whose edits have been applied. -/
theorem ops_eq (reach : Crowd.Reach StepLog.Handles (c.opening board start) w) :
    w.desk.link.ops = start.ops ++ (editors w.handled).map c.op := by
  rw [(StepLog.grown (served reach)).1, editors, List.map_map]
  congr 1
  refine List.map_congr_left fun entry member => ?_
  rcases entry with ⟨i, x⟩
  rcases List.mem_filter.mp member with ⟨member, isApplied⟩
  rcases (phase reach i).course with ⟨q, course⟩
  rcases course.request_eq (mem_theirs.mpr member) with ⟨base, asked⟩ | asked
  · rw [Turn.op, asked]
    exact op_of_request (c.edit i) base
  · rcases x with ⟨request, answer⟩
    change request = listing c.session at asked
    subst asked
    rw [not_applied_listing] at isApplied
    cases isApplied

/-- A call that returns a success has had its edit applied. -/
theorem of_success (reach : Crowd.Reach StepLog.Handles (c.opening board start) w) {i : ι}
    {value : Value} (returned : w.Returned i (.success value)) :
    ∃ base, (i, ⟨(c.edit i).request base, .success value⟩) ∈ w.handled := by
  rcases (phase reach i).of_returned returned with course | ⟨error, same, _⟩
  · rcases course.of_success with ⟨base, member⟩
    exact ⟨base, mem_theirs.mp member⟩
  · cases same

/-- `c.Overtaken handled i error`: the call `i` was told a position and refused against it with
`error`, and in between another call had its edit applied. -/
def Overtaken (c : Contest ι) (handled : List (ι × Turn)) (i : ι) (error : Failure) : Prop :=
  ∃ before listed middle after head,
    handled = before ++ (i, ⟨listing c.session, listed⟩) ::
      (middle ++ (i, ⟨(c.edit i).request head, .failure error⟩) :: after) ∧
    position c.session listed = .ok head ∧
    ∃ entry ∈ middle, entry.1 ≠ i ∧ entry.2.applied = true

/-- A call that returns a conflict has not had its edit applied, and was overtaken. -/
theorem of_conflict (reach : Crowd.Reach StepLog.Handles (c.opening board start) w) {i : ι}
    {error : Failure} (returned : w.Returned i (.failure error)) (code : error.code = .conflict) :
    i ∉ editors w.handled ∧ c.Overtaken w.handled i error := by
  rcases (phase reach i).of_returned returned with course | ⟨_, same, lost⟩
  · rcases course.of_conflict code with
      ⟨first, listed, refused, ⟨failed, said⟩ | ⟨head, found, said⟩⟩
    · -- The backend's listings succeed, so it was not the listing that failed.
      rcases eq_append_of_theirs_eq_cons said with ⟨before, rest, split, _, said⟩
      rcases eq_append_of_theirs_eq_cons said with ⟨between, after, rfl, _, _⟩
      have split' : w.handled =
          (before ++ (i, ⟨(c.edit i).request (c.edit i).base, first⟩) :: between) ++
            (i, ⟨listing c.session, listed⟩) :: after := by
        rw [split, List.append_assoc, List.cons_append]
        rfl
      rcases listed_of_served (served reach) split' with ⟨m, found, _⟩
      have contrary := failed.symm.trans found
      cases contrary
    · have none : i ∉ editors w.handled := by
        rw [← List.count_eq_zero, count_editors]
        have conflict : IsConflict (.failure error) := ⟨error, rfl, code⟩
        change theirs i w.handled = _ at said
        rw [said]
        simp [not_applied_of_conflict refused, not_applied_listing,
          not_applied_of_conflict conflict]
      rcases eq_append_of_theirs_eq_cons said with ⟨before, rest, split, _, said⟩
      rcases eq_append_of_theirs_eq_cons said with ⟨between, rest, rfl, _, said⟩
      rcases eq_append_of_theirs_eq_cons said with ⟨middle, after, rfl, others, _⟩
      have split' : w.handled =
          (before ++ (i, ⟨(c.edit i).request (c.edit i).base, first⟩) :: between) ++
            (i, ⟨listing c.session, listed⟩) ::
              (middle ++ (i, ⟨(c.edit i).request head, .failure error⟩) :: after) := by
        rw [split, List.append_assoc, List.cons_append]
        rfl
      rcases listed_of_served (served reach) split' with ⟨m, found', later⟩
      have same := found.symm.trans found'
      cases same
      rcases exists_applied_between later with ⟨entry, member, isApplied⟩
      refine ⟨none, _, listed, middle, after, m.head, split', found, entry, member, ?_, isApplied⟩
      intro same
      have mine : entry.2 ∈ theirs i middle := mem_theirs.mpr (same ▸ member)
      rw [others] at mine
      cases mine
  · cases same
    rw [code] at lost
    cases lost

/-- What is true of the calls of a contest and of the log at any time. -/
structure Settled (c : Contest ι) (start : StepLog) (w : Crowd ι Outcome StepLog) : Prop where
  /-- No call has its edit applied twice. -/
  once : (editors w.handled).Nodup
  /-- The log has grown by the operations of the calls whose edits have been applied. -/
  ops : w.desk.link.ops = start.ops ++ (editors w.handled).map c.op
  /-- The head has moved on by their number. -/
  head : w.desk.link.head = start.head + (editors w.handled).length
  /-- A call that returns a success has had an attempt applied, its operation stands in the log at
  the position of that attempt, and it returns the next position. -/
  success : ∀ i value, w.Returned i (.success value) →
    ∃ (n : Nat) (base : Int),
      (i, ⟨(c.edit i).request base, .success value⟩) ∈ w.handled ∧
      (editors w.handled)[n]? = some i ∧ base = start.head + n ∧
      value.field "head_seq" = .int (base + 1)
  /-- A call that returns a conflict has not had its edit applied, and was overtaken. -/
  conflict : ∀ i error, w.Returned i (.failure error) → error.code = .conflict →
    i ∉ editors w.handled ∧ c.Overtaken w.handled i error
  /-- No call has more than three requests handled. -/
  brief : ∀ i, (theirs i w.handled).length ≤ 3
  /-- What stands in the log stays there, whatever happens next. -/
  grows : ∀ w', Crowd.Reach StepLog.Handles w w' → editors w.handled <+: editors w'.handled

/-- **Contending edits.**  Whatever the order in which the requests of the calls are handled, and
whichever answers are lost, the contest is settled at any time. -/
theorem settled_of_reach (reach : Crowd.Reach StepLog.Handles (c.opening board start) w) :
    c.Settled start w where
  once := nodup_editors reach
  ops := ops_eq reach
  head := by
    rw [(StepLog.grown (served reach)).2, editors, List.length_map]
  success := by
    intro i value returned
    rcases of_success reach returned with ⟨base, member⟩
    rcases editors_of_success (served reach) member with ⟨n, place, base_eq, next⟩
    exact ⟨n, base, member, place, base_eq, next⟩
  conflict := fun i error returned code => of_conflict reach returned code
  brief := by
    intro i
    rcases (phase reach i).course with ⟨q, course⟩
    exact course.length_le
  grows := by
    intro w' later
    rcases later.served with ⟨log, handled, _⟩
    refine ⟨editors log, ?_⟩
    rw [handled, editors, editors, editors, applied, applied, applied, List.filter_append,
      List.map_append]

/-- Two calls: one against the head of an empty log, the other against a position ahead of it. -/
def duel : Contest Bool where
  session := "s1"
  base ahead := if ahead then 5 else 0
  op _ := .null
  recorded _ := true

/-- A run in which the one call loses the answer to its edit, which was applied, and the other one
is overtaken by it: it is refused, listed at zero, and refused again. -/
theorem settled_of_duel :
    ∃ w error, Crowd.Reach StepLog.Handles (duel.opening {} ⟨0, []⟩) w ∧
      w.Returned false (.failure { code := .io, message := "lost" }) ∧
      w.Returned true (.failure error) ∧ error.code = .conflict ∧
      duel.Settled ⟨0, []⟩ w := by
  let refusal : Failure := { code := .conflict, message := "stale" }
  let head (n : Int) : Value := .object [("head_seq", .int n)]
  let done : Value := .object [("applied", .bool true), ("head_seq", .int 1)]
  have listed :=
    (Relation.ReflTransGen.refl (r := Crowd.Step StepLog.Handles) (a := duel.opening {} ⟨0, []⟩))
      |>.tail (.act true rfl)
      |>.tail (.send true rfl)
      |>.tail (.handle true (.failure refusal) rfl (.refused (by decide) rfl))
      |>.tail (.deliver true rfl)
      |>.tail (.act true rfl)
      |>.tail (.send true rfl)
      |>.tail (.handle true (.success (head 0)) rfl (.listed rfl))
  have overtaken := listed
    |>.tail (.act false rfl)
    |>.tail (.send false rfl)
    |>.tail (.handle false (.success done) rfl (.applied rfl rfl rfl))
    |>.tail (.lose false { code := .io, message := "lost" } rfl rfl)
    |>.tail (.act false rfl)
  have refused := overtaken
    |>.tail (.deliver true rfl)
    |>.tail (.act true rfl)
    |>.tail (.act true rfl)
    |>.tail (.send true rfl)
    |>.tail (.handle true (.failure refusal) rfl (.refused (by decide) rfl))
    |>.tail (.deliver true rfl)
    |>.tail (.act true rfl)
  exact ⟨_, refusal, refused, rfl, rfl, rfl, settled_of_reach refused⟩

end Contest

end CaptureDesk.Revision
