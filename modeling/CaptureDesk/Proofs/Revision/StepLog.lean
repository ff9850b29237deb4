import CaptureDesk.Proofs.Interleaving
import CaptureDesk.Revision
import Mathlib.Tactic.Common

/-!
# The step log of a session

The backend keeps a log of the edits of a session and its position, the *head*.  An edit is applied
if it was made against the head and refused with a conflict otherwise; a listing reports the head.
What else an answer carries is left open.

`StepLog.grown` says what the requests handled in a row have made of a log: the operations of the
applied ones stand at its end, and the head has moved on by their number.  Since no other request
moves the head, two different heads have an applied edit between them (`StepLog.exists_applied`).
-/

namespace CaptureDesk.Revision

/-- The log of a session's edits, and its position. -/
structure StepLog where
  head : Int
  ops : List Value
  deriving DecidableEq, Repr

/-- The log after one more edit. -/
def StepLog.push (log : StepLog) (op : Value) : StepLog :=
  { head := log.head + 1, ops := log.ops ++ [op] }

/-- `Handles log request answer after`: on a request the backend may give this answer, and the log
is `after` from then on. -/
inductive StepLog.Handles : StepLog → Request → Outcome → StepLog → Prop
  | listed {log : StepLog} {body value : Value} :
      value.field "head_seq" = .int log.head →
      Handles log ⟨"steps_list", body⟩ (.success value) log
  | applied {log : StepLog} {body value : Value} :
      body.field "base_seq" = .int log.head →
      value.field "applied" = .bool true →
      value.field "head_seq" = .int (log.head + 1) →
      Handles log ⟨"steps_apply_edit", body⟩ (.success value) (log.push (body.field "op"))
  | refused {log : StepLog} {body : Value} {error : Failure} :
      body.field "base_seq" ≠ .int log.head → error.code = .conflict →
      Handles log ⟨"steps_apply_edit", body⟩ (.failure error) log

end CaptureDesk.Revision

namespace CaptureDesk

/-- The request of a turn was an edit, and it was applied. -/
def Turn.applied (x : Turn) : Bool :=
  x.request.command == "steps_apply_edit" && x.answer.isOk

/-- The operation of an edit that is asked for. -/
def Turn.op (x : Turn) : Value := x.request.body.field "op"

end CaptureDesk

namespace CaptureDesk.Revision

/-- A request that is handled is an edit that is applied, or it leaves the log as it is. -/
theorem StepLog.Handles.applied_or_same {log after : StepLog} {x : Turn}
    (handles : Handles log x.request x.answer after) :
    (x.applied = true ∧ after = log.push x.op) ∨ (x.applied = false ∧ after = log) := by
  rcases x with ⟨request, answer⟩
  cases handles with
  | listed => exact Or.inr ⟨by simp [Turn.applied], rfl⟩
  | applied => exact Or.inl ⟨by simp [Turn.applied, Outcome.isOk], rfl⟩
  | refused => exact Or.inr ⟨by simp [Turn.applied, Outcome.isOk], rfl⟩

section Answers

variable {log after : StepLog} {request : Request}

/-- An applied edit was made against the head, and its answer reports the next position. -/
theorem StepLog.Handles.of_success {value : Value}
    (handles : Handles log request (.success value) after)
    (edit : request.command = "steps_apply_edit") :
    request.body.field "base_seq" = .int log.head ∧
      value.field "head_seq" = .int (log.head + 1) := by
  cases handles with
  | listed => exact absurd edit (by simp)
  | applied base _ head => exact ⟨base, head⟩

/-- A refused edit was not made against the head. -/
theorem StepLog.Handles.of_failure {error : Failure}
    (handles : Handles log request (.failure error) after) :
    request.body.field "base_seq" ≠ .int log.head := by
  cases handles with
  | refused base _ => exact base

/-- A listing succeeds and reports the head. -/
theorem StepLog.Handles.of_listing {answer : Outcome}
    (handles : Handles log request answer after) (listing : request.command = "steps_list") :
    after = log ∧ ∃ value, answer = .success value ∧ value.field "head_seq" = .int log.head := by
  cases handles with
  | listed head => exact ⟨rfl, _, rfl, head⟩
  | applied | refused => exact absurd listing (by simp)

end Answers

/-- The applied edits among the requests handled, in their order. -/
def applied {ι : Type} (handled : List (ι × Turn)) : List (ι × Turn) :=
  handled.filter fun entry => entry.2.applied

section Log

variable {ι : Type} {start log : StepLog} {handled : List (ι × Turn)}

/-- **What the requests handled have made of a log.**  The operations of the applied edits have been
appended, and the head has moved on by their number. -/
theorem StepLog.grown (served : Served StepLog.Handles start handled log) :
    log.ops = start.ops ++ (applied handled).map (fun entry => entry.2.op) ∧
      log.head = start.head + (applied handled).length := by
  induction served with
  | nil => exact ⟨by simp [applied], by simp [applied]⟩
  | cons first _ ih =>
      rcases ih with ⟨ops, head⟩
      rcases first.applied_or_same with ⟨yes, rfl⟩ | ⟨no, rfl⟩
      · constructor
        · rw [ops]
          simp [applied, yes, StepLog.push]
        · rw [head]
          simp only [applied, yes, StepLog.push, List.filter_cons_of_pos, List.length_cons]
          omega
      · simpa [applied, no] using And.intro ops head

/-- Where the head has moved, an edit was applied. -/
theorem StepLog.exists_applied (served : Served StepLog.Handles start handled log)
    (moved : log.head ≠ start.head) :
    ∃ entry ∈ handled, entry.2.applied = true := by
  by_contra none
  push Not at none
  have empty : applied handled = [] := by
    rw [applied, List.filter_eq_nil_iff]
    exact none
  have head := (StepLog.grown served).2
  rw [empty] at head
  exact moved (by simpa using head)

end Log

end CaptureDesk.Revision
