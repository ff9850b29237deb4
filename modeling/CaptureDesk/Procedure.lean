import CaptureDesk.Board
import CaptureDesk.Command
import CaptureDesk.Fault
import CaptureDesk.Log

/-!
# Procedures

An operation on the backend is a *procedure*: a tree that asks one request after another and goes on
with each answer.  Between requests it acts: it writes a report, announces a stage, or changes the
board.  A procedure fixes no backend, so that what it asks, and in which order, can be stated for
every backend, and procedures can be interleaved request by request.

A *link* is a way to get requests answered; `Procedure.run` carries a procedure out over a link.
-/

namespace CaptureDesk

/-- What a procedure does beside asking. -/
inductive Act where
  | report (report : Report)
  | announce (stage : Stage)
  | change (change : Board.Change)
  deriving DecidableEq, Repr

/-- An operation on the backend that ends in a result. -/
inductive Procedure (α : Type) where
  | done (result : α)
  | ask (request : Request) (next : Outcome → Procedure α)
  | act (act : Act) (next : Procedure α)

namespace Procedure

variable {α β : Type}

/-- Carries on with the result of a procedure. -/
def bind (t : Procedure α) (next : α → Procedure β) : Procedure β :=
  match t with
  | done a => next a
  | ask request rest => ask request fun answer => (rest answer).bind next
  | act a rest => act a (rest.bind next)

instance : Monad Procedure where
  pure := done
  bind := bind

@[simp] theorem pure_eq_done (a : α) : (pure a : Procedure α) = done a := rfl

@[simp] theorem done_bind (a : α) (next : α → Procedure β) : (done a >>= next) = next a := rfl

@[simp] theorem ask_bind (r : Request) (rest : Outcome → Procedure α) (next : α → Procedure β) :
    (ask r rest >>= next) = ask r fun answer => rest answer >>= next := rfl

@[simp] theorem act_bind (a : Act) (rest : Procedure α) (next : α → Procedure β) :
    (act a rest >>= next) = act a (rest >>= next) := rfl

/-- Asks for a command with an argument. -/
def request (command : Str) (body : Value) : Procedure Outcome :=
  ask ⟨command, body⟩ done

/-- Writes a report. -/
def report (r : Report) : Procedure Unit := act (.report r) (done ())

/-- Announces that a stage begins. -/
def announce (s : Stage) : Procedure Unit := act (.announce s) (done ())

/-- Changes the board. -/
def change (c : Board.Change) : Procedure Unit := act (.change c) (done ())

end Procedure

/-- The answer of a link: an outcome or the fault that kept it away, what was reported meanwhile,
and the state that the link is left in. -/
structure Reply (σ : Type) where
  outcome : Except Fault Outcome
  reports : List Report := []
  state : σ

/-- A way to get requests answered. -/
abbrev Link (σ : Type) := Request → σ → Reply σ

/-- What a procedure works on: the board, the state of the link, and what has been reported and
announced. -/
structure Desk (σ : Type) where
  board : Board := {}
  link : σ
  reports : List Report := []
  announced : List Stage := []

namespace Desk

variable {σ : Type}

/-- Carries an act out. -/
def perform (d : Desk σ) : Act → Desk σ
  | .report r => { d with reports := d.reports ++ [r] }
  | .announce s => { d with announced := d.announced ++ [s] }
  | .change c => { d with board := d.board.apply c }

/-- Takes in what a link left behind. -/
def receive (d : Desk σ) (reply : Reply σ) : Desk σ :=
  { d with link := reply.state, reports := d.reports ++ reply.reports }

end Desk

/-- Carries a procedure out over a link.  A fault of the link ends the procedure; what was done
before stays done. -/
def Procedure.run {α σ : Type} (link : Link σ) : Procedure α → Desk σ → Except Fault α × Desk σ
  | done a, d => (.ok a, d)
  | act a next, d => next.run link (d.perform a)
  | ask request next, d =>
      let reply := link request d.link
      match reply.outcome with
      | .ok answer => (next answer).run link (d.receive reply)
      | .error fault => (.error fault, d.receive reply)

/-- Running two procedures in a row is running the second from where the first left off. -/
theorem Procedure.run_bind {α β σ : Type} (link : Link σ) (t : Procedure α) (next : α → Procedure β)
    (d : Desk σ) :
    (t >>= next).run link d =
      match t.run link d with
      | (.ok a, d) => (next a).run link d
      | (.error fault, d) => (.error fault, d) := by
  induction t generalizing d with
  | done a => rfl
  | act a rest ih => exact ih (d.perform a)
  | ask request rest ih =>
      simp only [Procedure.ask_bind, Procedure.run]
      split
      · rename_i answer _
        exact ih answer _
      · rfl

/-! ## Scripted links -/

/-- A link that answers from a script: for each command a list of transported values, the last of
which is given again and again.  It keeps the requests that it was asked. -/
structure Script where
  answers : Table (List Value) := []
  asked : List Request := []
  deriving Repr

namespace Script

/-- Answers from the script; a command without an answer is not found. -/
def link : Link Script := fun request script =>
  let script := { script with asked := script.asked ++ [request] }
  match script.answers.get? request.command with
  | some (raw :: rest) =>
      let left := if rest.isEmpty then [raw] else rest
      { outcome := .ok (Outcome.ofValue raw)
        state := { script with answers := script.answers.put request.command left } }
  | _ =>
      { outcome := .ok (.failure { code := .notFound, message := request.command })
        state := script }

end Script

end CaptureDesk
