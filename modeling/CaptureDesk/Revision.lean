import CaptureDesk.Procedure

/-!
# Revising a step

An edit carries the position of the step log that it was made against, and the backend refuses it
with a conflict when the log has moved on.  The position is then refreshed and the edit made once
more; a second conflict is final, so that two contending editors cannot keep each other busy for
ever.  Every other failure, also one of the refresh, is the answer.

A revision may run without a board to record on; it then asks and reports the same.
-/

namespace CaptureDesk.Revision

/-- An edit: the session, the position that it was made against, and what is to be done. -/
structure Edit where
  session : Str
  base : Int
  op : Value
  deriving DecidableEq, Repr

/-- The request for an edit against a position. -/
def Edit.request (e : Edit) (base : Int) : Request :=
  ⟨"steps_apply_edit",
    .object [("session_id", .str e.session), ("base_seq", .int base), ("op", e.op)]⟩

/-- The request for the steps of a session. -/
def listing (session : Str) : Request :=
  ⟨"steps_list", .object [("session_id", .str session)]⟩

/-- Makes an edit against a position. -/
def attempt (e : Edit) (base : Int) (count : Nat) : Procedure Outcome := do
  Procedure.report (.editAttempted e.session base count)
  .ask (e.request base) .done

/-- The position that a listing reports. -/
def position (session : Str) : Outcome → Except Failure Int
  | .failure error => .error error
  | .success value =>
      match (value.field "head_seq").int? with
      | some head => .ok head
      | none =>
          .error (Failure.internal ("steps_list returned no head_seq for session " ++ session))

/-- Changes the board, if there is one. -/
def changeIf (recorded : Bool) (c : Board.Change) : Procedure Unit :=
  if recorded then Procedure.change c else .done ()

/-- The position that an applied edit reports. -/
def appliedAt (value : Value) : Option Int :=
  if (value.field "applied").truthy then (value.field "head_seq").int? else none

/-- Records the final answer: the code of an error, or the position of an applied edit. -/
def conclude (recorded : Bool) (session : Str) (answer : Outcome) : Procedure Outcome := do
  match answer with
  | .failure error => changeIf recorded (.setLastError (some error.code.name))
  | .success value =>
      match appliedAt value with
      | some head => changeIf recorded (.setHeadSeq session head)
      | none => pure ()
  pure answer

/-- Makes an edit, with one refresh and one more attempt after a conflict. -/
def perform (recorded : Bool) (e : Edit) : Procedure Outcome := do
  let first ← attempt e e.base 1
  match first with
  | .failure { code := .conflict, .. } =>
      Procedure.report (.editConflicted e.session e.base)
      let listed ← Procedure.ask (listing e.session) .done
      match position e.session listed with
      | .error error =>
          Procedure.report (.refreshFailed e.session error.code)
          conclude recorded e.session (.failure error)
      | .ok head =>
          changeIf recorded (.setHeadSeq e.session head)
          let second ← attempt e head 2
          conclude recorded e.session second
  | answer => conclude recorded e.session answer

end CaptureDesk.Revision
