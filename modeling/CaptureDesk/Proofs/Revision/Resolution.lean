import CaptureDesk.Proofs.Board.Invalidation
import CaptureDesk.Proofs.Oracle
import CaptureDesk.Proofs.Positions.Writers
import CaptureDesk.Proofs.Revision.Contention
import Mathlib.Order.Bounds.Basic

/-!
# What a revision comes to

Over a backend that may answer anything, a revision asks for its edit, after a conflict for the
listing, and after a listing with a position for the edit once more; its result is the last answer,
but for a listing that is a success without a position (`Revision.Resolves`).

Whether it is recorded on a board or not makes no difference to any of this.  On the board nothing
changes but the position of its session, which is raised to the greatest of those that count, with
the flag that tells of it (`Board.Raised`), and the code of the last error.
-/

namespace CaptureDesk

/-! ## Raising a position -/

/-- The greatest of some numbers, and none if there are none. -/
def IsHighest (numbers : Set Int) : Option Int → Prop
  | none => numbers = ∅
  | some n => IsGreatest numbers n

theorem IsHighest.insert {numbers : Set Int} {highest : Option Int}
    (isHighest : IsHighest numbers highest) (n : Int) :
    IsHighest (insert n numbers) (some ((highest.map (max · n)).getD n)) := by
  cases highest with
  | none =>
      have none : numbers = ∅ := isHighest
      subst none
      simp [IsHighest]
  | some known =>
      have greatest : IsGreatest numbers known := isHighest
      have inserted := greatest.insert n
      rwa [max_comm] at inserted

namespace Board

/-- From `before` to `after` the position of a session was raised over the positions `heads`, and
nothing else happened: the position is now the greatest of these and the one known before, and the
flag of the session went up just if the position is new or greater than before. -/
structure Raised (session : Str) (heads : Set Int) (before after : Board) : Prop where
  position : IsHighest (heads ∪ {known | before.headSeqs.get? session = some known})
    (after.headSeqs.get? session)
  others : ∀ other, other ≠ session → after.headSeqs.get? other = before.headSeqs.get? other
  flag : after.invalidated.session = true ↔
    before.invalidated.session = true ∨
      ∃ now, after.headSeqs.get? session = some now ∧
        ∀ known, before.headSeqs.get? session = some known → known < now
  frame : after =
    { before with
      headSeqs := after.headSeqs
      invalidated := { before.invalidated with session := after.invalidated.session } }

variable {session : Str} {heads : Set Int} {before between : Board}

theorem raised_refl (session : Str) (b : Board) : Raised session ∅ b b where
  position := by
    cases known : b.headSeqs.get? session with
    | none => simp [IsHighest]
    | some n => simp [IsHighest, IsGreatest, upperBounds]
  others _ _ := rfl
  flag := by
    refine ⟨Or.inl, ?_⟩
    rintro (up | ⟨now, found, below⟩)
    · exact up
    · exact absurd (below now found) (lt_irrefl now)
  frame := rfl

/-- One more position is noted. -/
theorem Raised.setHeadSeq (raised : Raised session heads before between) (n : Int) :
    Raised session (insert n heads) before (between.setHeadSeq session n) where
  position := by
    rw [get?_setHeadSeq, if_pos rfl, Set.insert_union]
    exact raised.position.insert n
  others other distinct := by
    rw [get?_setHeadSeq, if_neg (Ne.symm distinct)]
    exact raised.others other distinct
  flag := by
    have up : (between.setHeadSeq session n).invalidated.session = true ↔
        between.invalidated.session = true ∨ Change.IsSessionNews between (.setHeadSeq session n) :=
      sessionFlag_apply between (c := .setHeadSeq session n) nofun
    have highest := raised.position
    rw [up, raised.flag, get?_setHeadSeq, if_pos rfl, Change.IsSessionNews]
    cases found : between.headSeqs.get? session with
    | none =>
        -- Nothing is noted yet, so nothing was known before either, and the position is new.
        rw [found] at highest
        have unknown : ∀ known, before.headSeqs.get? session ≠ some known := by
          intro known same
          exact Set.eq_empty_iff_forall_notMem.mp highest known (Or.inr same)
        exact iff_of_true (Or.inr (Or.inl rfl))
          (Or.inr ⟨n, rfl, fun known same => absurd same (unknown known)⟩)
    | some now =>
        -- What was known before is at or behind `now`; being greater than it is being raised once.
        rw [found] at highest
        have behind : ∀ known, before.headSeqs.get? session = some known → known ≤ now :=
          fun known same => highest.2 (Or.inr same)
        simp only [Option.some.injEq, exists_eq_left', reduceCtorEq, false_or, Option.map_some,
          Option.getD_some]
        constructor
        · rintro ((up | below) | news)
          · exact Or.inl up
          · exact Or.inr fun known same => (below known same).trans_le (le_max_left now n)
          · exact Or.inr fun known same =>
              ((behind known same).trans_lt news).trans_le (le_max_right now n)
        · rintro (up | below)
          · exact Or.inl (Or.inl up)
          · by_cases news : now < n
            · exact Or.inr news
            · rw [max_eq_left (not_lt.mp news)] at below
              exact Or.inl (Or.inr below)
  frame := by
    have frame := raised.frame
    unfold Board.setHeadSeq
    split
    · rw [frame]
    · exact frame

end Board

/-! ## Answers -/

/-- The answer is a success that was applied, and reports a position. -/
def Outcome.AppliedAt (answer : Outcome) (n : Int) : Prop :=
  ∃ value, answer = .success value ∧ (value.field "applied").truthy = true ∧
    value.field "head_seq" = .int n

namespace Revision

/-- An edit as it is asked for against a position. -/
def Asked.edit (e : Edit) (base : Int) : Request :=
  ⟨"steps_apply_edit",
    .object [("session_id", .str e.session), ("base_seq", .int base), ("op", e.op)]⟩

/-- The steps of a session as they are asked for. -/
def Asked.listing (session : Str) : Request :=
  ⟨"steps_list", .object [("session_id", .str session)]⟩

/-- What a revision asks and reports, the position that it takes from its listing, and its result,
when the oracle was asked `asked` before. -/
inductive Resolves (o : Oracle) (asked : List Request) (e : Edit) :
    List Request → List Report → Option Int → Outcome → Prop
  /-- The first answer is no conflict. -/
  | settled {first : Outcome} :
      o (asked ++ [Asked.edit e e.base]) = first → ¬ IsConflict first →
      Resolves o asked e [Asked.edit e e.base] [.editAttempted e.session e.base 1] none first
  /-- The listing fails. -/
  | unlisted {first : Outcome} {error : Failure} :
      o (asked ++ [Asked.edit e e.base]) = first → IsConflict first →
      o (asked ++ [Asked.edit e e.base, Asked.listing e.session]) = .failure error →
      Resolves o asked e [Asked.edit e e.base, Asked.listing e.session]
        [.editAttempted e.session e.base 1, .editConflicted e.session e.base,
          .refreshFailed e.session error.code]
        none (.failure error)
  /-- The listing reports no position. -/
  | headless {first : Outcome} {value : Value} :
      o (asked ++ [Asked.edit e e.base]) = first → IsConflict first →
      o (asked ++ [Asked.edit e e.base, Asked.listing e.session]) = .success value →
      (∀ n, value.field "head_seq" ≠ .int n) →
      Resolves o asked e [Asked.edit e e.base, Asked.listing e.session]
        [.editAttempted e.session e.base 1, .editConflicted e.session e.base,
          .refreshFailed e.session .internal]
        none
        (.failure (.internal ("steps_list returned no head_seq for session " ++ e.session)))
  /-- The listing reports a position, and the edit is made once more. -/
  | retried {first second : Outcome} {value : Value} {head : Int} :
      o (asked ++ [Asked.edit e e.base]) = first → IsConflict first →
      o (asked ++ [Asked.edit e e.base, Asked.listing e.session]) = .success value →
      value.field "head_seq" = .int head →
      o (asked ++ [Asked.edit e e.base, Asked.listing e.session, Asked.edit e head]) = second →
      Resolves o asked e [Asked.edit e e.base, Asked.listing e.session, Asked.edit e head]
        [.editAttempted e.session e.base 1, .editConflicted e.session e.base,
          .editAttempted e.session head 2]
        (some head) second

/-! ## What is recorded -/

theorem appliedAt_eq_some_iff {value : Value} {n : Int} :
    appliedAt value = some n ↔ (Outcome.success value).AppliedAt n := by
  constructor
  · intro found
    refine ⟨value, rfl, ?_, reported_of_appliedAt found⟩
    unfold appliedAt at found
    split at found
    · assumption
    · cases found
  · rintro ⟨_, same, applied, reported⟩
    cases same
    rw [appliedAt, if_pos applied, reported]
    rfl

/-- The board after a final answer has been recorded on it. -/
def concluded (session : Str) (b : Board) : Outcome → Board
  | .failure error => b.setLastError (some error.code.name)
  | .success value =>
      match appliedAt value with
      | some head => b.setHeadSeq session head
      | none => b

/-- From `before` to `after` the position of a session was raised over `heads`, the code of the
result became the last error if it is a failure, and nothing else happened. -/
def Recorded (session : Str) (heads : Set Int) (result : Outcome) (before after : Board) : Prop :=
  ∃ raised, Board.Raised session heads before raised ∧
    after =
      { raised with
        lastErrorCode := (result.error?.map (·.code.name)).or before.lastErrorCode }

section Recorded

variable {session : Str} {heads : Set Int} {before between : Board}

/-- Only a failure sets the code of the last error. -/
theorem recorded_success (raised : Board.Raised session heads before between) (value : Value) :
    Recorded session heads (.success value) before between := by
  refine ⟨between, raised, ?_⟩
  have same : between.lastErrorCode = before.lastErrorCode := by rw [raised.frame]
  exact same ▸ rfl

/-- A final answer raises the position by what was applied, and its code is the last error. -/
theorem recorded_concluded (raised : Board.Raised session heads before between) (answer : Outcome) :
    Recorded session ({n | answer.AppliedAt n} ∪ heads) answer before
      (concluded session between answer) := by
  cases answer with
  | failure error =>
      have nothing : {n | (Outcome.failure error).AppliedAt n} = ∅ := by
        simp [Outcome.AppliedAt]
      rw [nothing, Set.empty_union]
      exact ⟨between, raised, rfl⟩
  | success value =>
      cases applied : appliedAt value with
      | none =>
          have nothing : {n | (Outcome.success value).AppliedAt n} = ∅ := by
            refine Set.eq_empty_iff_forall_notMem.mpr fun n found => ?_
            rw [Set.mem_ofPred_eq, ← appliedAt_eq_some_iff, applied] at found
            cases found
          rw [nothing, Set.empty_union, concluded, applied]
          exact recorded_success raised value
      | some head =>
          have one : {n | (Outcome.success value).AppliedAt n} = {head} := by
            ext n
            rw [Set.mem_ofPred_eq, ← appliedAt_eq_some_iff, applied]
            exact ⟨fun same => (Option.some.inj same).symm, fun same => congrArg some same.symm⟩
          rw [one, Set.singleton_union, concluded, applied]
          exact recorded_success (raised.setHeadSeq head) value

end Recorded

/-! ## Runs -/

section Run

variable {σ : Type} (link : Link σ) (recorded : Bool)

theorem run_conclude (session : Str) (answer : Outcome) (d : Desk σ) :
    (conclude recorded session answer).run link d =
      (.ok answer,
        { d with board := if recorded then concluded session d.board answer else d.board }) := by
  cases answer with
  | failure error => cases recorded <;> rfl
  | success value =>
      cases applied : appliedAt value with
      | none => cases recorded <;> simp only [conclude, concluded, applied] <;> rfl
      | some head => cases recorded <;> simp only [conclude, concluded, applied] <;> rfl

theorem run_changeIf {α : Type} (c : Board.Change) (next : Unit → Procedure α) (d : Desk σ) :
    (changeIf recorded c >>= next).run link d =
      (next ()).run link { d with board := if recorded then d.board.apply c else d.board } := by
  cases recorded <;> rfl

end Run

theorem run_ask {α : Type} (o : Oracle) (request : Request) (next : Outcome → Procedure α)
    (d : Desk (List Request)) :
    (Procedure.ask request next).run o.link d =
      (next (o (d.link ++ [request]))).run o.link { d with link := d.link ++ [request] } := by
  simp [Procedure.run, Oracle.link, Desk.receive]

section Perform

variable {o : Oracle} {e : Edit} {d : Desk (List Request)} (recorded : Bool)

/-- An answer that is no conflict is final. -/
theorem run_settled {first : Outcome} (answered : o (d.link ++ [e.request e.base]) = first)
    (other : ¬ IsConflict first) :
    (perform recorded e).run o.link d =
      (.ok first,
        { d with
          board := if recorded then concluded e.session d.board first else d.board
          link := d.link ++ [e.request e.base]
          reports := d.reports ++ [.editAttempted e.session e.base 1] }) := by
  unfold perform attempt
  simp only [Procedure.report, Procedure.act_bind, Procedure.done_bind, Procedure.ask_bind]
  rw [Procedure.run, run_ask]
  simp only [Desk.perform, answered]
  split
  · exact (other ⟨_, rfl, rfl⟩).elim
  · exact run_conclude o.link recorded e.session first _

/-- What a revision does with the answer to its listing. -/
def afterListing (e : Edit) (listed : Outcome) : Procedure Outcome :=
  match position e.session listed with
  | .error error => do
      Procedure.report (.refreshFailed e.session error.code)
      conclude recorded e.session (.failure error)
  | .ok head => do
      changeIf recorded (.setHeadSeq e.session head)
      let second ← attempt e head 2
      conclude recorded e.session second

/-- After a conflict the listing is asked for. -/
theorem run_conflicted {first listed : Outcome}
    (answered : o (d.link ++ [e.request e.base]) = first) (conflict : IsConflict first)
    (relisted : o (d.link ++ [e.request e.base, listing e.session]) = listed) :
    (perform recorded e).run o.link d =
      (afterListing recorded e listed).run o.link
        { d with
          link := d.link ++ [e.request e.base, listing e.session]
          reports :=
            d.reports ++
              [.editAttempted e.session e.base 1, .editConflicted e.session e.base] } := by
  rcases conflict with ⟨⟨code, message, details, recoverable, hint⟩, rfl, rfl⟩
  subst relisted
  unfold perform attempt
  simp only [Procedure.report, Procedure.act_bind, Procedure.done_bind, Procedure.ask_bind]
  rw [Procedure.run, run_ask]
  simp only [Desk.perform, answered]
  rw [Procedure.run, run_ask]
  simp only [Desk.perform, List.append_assoc, List.cons_append, List.nil_append]
  rfl

section Conflict

variable {first listed : Outcome} (answered : o (d.link ++ [e.request e.base]) = first)
  (conflict : IsConflict first)
  (relisted : o (d.link ++ [e.request e.base, listing e.session]) = listed)

include answered conflict relisted

/-- Without a position there is no further attempt. -/
theorem run_unlisted {error : Failure} (found : position e.session listed = .error error) :
    (perform recorded e).run o.link d =
      (.ok (.failure error),
        { d with
          board := if recorded then concluded e.session d.board (.failure error) else d.board
          link := d.link ++ [e.request e.base, listing e.session]
          reports :=
            d.reports ++
              [.editAttempted e.session e.base 1, .editConflicted e.session e.base,
                .refreshFailed e.session error.code] }) := by
  rw [run_conflicted recorded answered conflict relisted, afterListing, found]
  simp only [Procedure.report, Procedure.act_bind, Procedure.done_bind]
  rw [Procedure.run, run_conclude]
  simp [Desk.perform]

/-- With a position the edit is made once more, and its answer is final. -/
theorem run_retried {head : Int} {second : Outcome}
    (found : position e.session listed = .ok head)
    (again : o (d.link ++ [e.request e.base, listing e.session, e.request head]) = second) :
    (perform recorded e).run o.link d =
      (.ok second,
        { d with
          board :=
            if recorded then concluded e.session (d.board.setHeadSeq e.session head) second
            else d.board
          link := d.link ++ [e.request e.base, listing e.session, e.request head]
          reports :=
            d.reports ++
              [.editAttempted e.session e.base 1, .editConflicted e.session e.base,
                .editAttempted e.session head 2] }) := by
  subst again
  rw [run_conflicted recorded answered conflict relisted, afterListing, found]
  simp only [run_changeIf, attempt, Procedure.report, Procedure.act_bind, Procedure.done_bind,
    Procedure.ask_bind]
  rw [Procedure.run, run_ask, run_conclude]
  cases recorded <;> simp [Desk.perform, Board.apply]

/-- A conflict and a listing from which no position can be taken end the revision. -/
theorem resolves_of_error {error : Failure}
    (found : position e.session listed = .error error) :
    Resolves o d.link e [e.request e.base, listing e.session]
      [.editAttempted e.session e.base 1, .editConflicted e.session e.base,
        .refreshFailed e.session error.code]
      none (.failure error) := by
  cases listed with
  | failure error =>
      cases found
      exact .unlisted answered conflict relisted
  | success value =>
      cases reported : (value.field "head_seq").int? with
      | some head => simp [position, reported] at found
      | none =>
          simp only [position, reported, Except.error.injEq] at found
          subst found
          refine .headless answered conflict relisted ?_
          intro n same
          rw [same] at reported
          cases reported

end Conflict

end Perform

/-- **What a revision comes to.**  Over any oracle it resolves, with the same requests, reports and
result whether it is recorded or not.  Unrecorded it leaves the board as it is; recorded it raises
the position of its session, by that of the listing and that of an edit that was applied, and sets
the code of the last error if its result is a failure. -/
theorem resolves_perform (o : Oracle) (e : Edit) (d : Desk (List Request)) :
    ∃ requests reports refreshed result board,
      Resolves o d.link e requests reports refreshed result ∧
      Recorded e.session ({n | result.AppliedAt n} ∪ {n | refreshed = some n}) result d.board
        board ∧
      ∀ recorded, (perform recorded e).run o.link d =
        (.ok result,
          { d with
            board := if recorded then board else d.board
            link := d.link ++ requests
            reports := d.reports ++ reports }) := by
  have untouched : Board.Raised e.session {n | (none : Option Int) = some n} d.board d.board := by
    have nothing : {n | (none : Option Int) = some n} = ∅ := by simp
    rw [nothing]
    exact Board.raised_refl e.session d.board
  generalize answered : o (d.link ++ [e.request e.base]) = first
  generalize relisted : o (d.link ++ [e.request e.base, listing e.session]) = listed
  by_cases conflict : IsConflict first
  · cases found : position e.session listed with
    | error error =>
        exact ⟨_, _, _, _, _, resolves_of_error answered conflict relisted found,
          recorded_concluded untouched (.failure error),
          fun recorded => run_unlisted recorded answered conflict relisted found⟩
    | ok head =>
        obtain ⟨value, same, reported⟩ := reported_of_position found
        have noted : Board.Raised e.session {n | some head = some n} d.board
            (d.board.setHeadSeq e.session head) := by
          have one : {n | some head = some n} = insert head (∅ : Set Int) := by
            ext n
            simp [eq_comm]
          rw [one]
          exact (Board.raised_refl e.session d.board).setHeadSeq head
        exact ⟨_, _, _, _, _, .retried answered conflict (relisted.trans same) reported rfl,
          recorded_concluded noted _,
          fun recorded => run_retried recorded answered conflict relisted found rfl⟩
  · exact ⟨_, _, _, _, _, .settled answered conflict, recorded_concluded untouched first,
      fun recorded => run_settled recorded answered conflict⟩

end Revision

end CaptureDesk
