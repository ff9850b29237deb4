import CaptureDesk.Procedure
import Mathlib.Logic.Function.Basic
import Mathlib.Logic.Relation

/-!
# Procedures side by side

Several parties carry out a procedure each, over one board and one backend.  The backend handles a
request in one piece, and that is all that is fixed: requests are handled in any order, an answer is
delivered at any time after it was given, and a party may give up waiting at any time, when it goes
on with an input or output failure.  A request that a party no longer waits for is *adrift*; the
backend may still handle it, at any later time or never.

* `Crowd.Step`: one step of one party, of the backend, or of the network between them.
* `Crowd.Step.views`: a step is a step of one party's `View`, and changes no other view.  What
  holds of a party's view in every run can so be proved of its own steps alone
  (`Crowd.Reach.view`).
* `Dialogue`: what a procedure asks when it is given answers.  The acts in between do not matter to
  it, so it is a relation on *bare* procedures.
* `Served`: the backend's state is what the requests handled so far have made of it.
-/

namespace CaptureDesk

/-! ## What a procedure asks -/

namespace Procedure

variable {α : Type}

/-- A procedure without its acts: what it asks, and what it ends in. -/
def bare : Procedure α → Procedure α
  | done a => done a
  | ask request next => ask request fun answer => (next answer).bare
  | act _ next => next.bare

@[simp] theorem bare_done (a : α) : (done a).bare = done a := rfl

@[simp] theorem bare_ask (request : Request) (next : Outcome → Procedure α) :
    (ask request next).bare = ask request fun answer => (next answer).bare := rfl

@[simp] theorem bare_act (a : Act) (next : Procedure α) : (act a next).bare = next.bare := rfl

end Procedure

/-- A request and the answer that the backend gave to it. -/
structure Turn where
  request : Request
  answer : Outcome
  deriving DecidableEq, Repr

/-- `Dialogue p said q`: the bare procedure `p` asks the requests of `said` one after another, and
with the answers there it is left with `q`. -/
inductive Dialogue {α : Type} : Procedure α → List Turn → Procedure α → Prop
  | nil {p : Procedure α} : Dialogue p [] p
  | cons {request : Request} {next : Outcome → Procedure α} {answer : Outcome}
      {said : List Turn} {q : Procedure α} :
      Dialogue (next answer) said q →
      Dialogue (.ask request next) (⟨request, answer⟩ :: said) q

/-- A dialogue goes on with the request that the procedure is left with. -/
theorem Dialogue.snoc {α : Type} {p : Procedure α} {said : List Turn} {request : Request}
    {next : Outcome → Procedure α}
    (dialogue : Dialogue p said (.ask request next)) (answer : Outcome) :
    Dialogue p (said ++ [⟨request, answer⟩]) (next answer) := by
  generalize rest : Procedure.ask request next = q at dialogue
  induction dialogue with
  | nil =>
      subst rest
      exact .cons .nil
  | cons _ ih => exact .cons (ih rest)

theorem Dialogue.of_done {α : Type} {a : α} {said : List Turn} {q : Procedure α}
    (dialogue : Dialogue (.done a) said q) : said = [] ∧ q = .done a := by
  cases dialogue with
  | nil => exact ⟨rfl, rfl⟩

/-- A dialogue with a procedure that asks has not begun, or goes on after the first answer. -/
theorem Dialogue.of_ask {α : Type} {request : Request} {next : Outcome → Procedure α}
    {said : List Turn} {q : Procedure α}
    (dialogue : Dialogue (.ask request next) said q) :
    (said = [] ∧ q = .ask request next) ∨
      ∃ answer rest, said = ⟨request, answer⟩ :: rest ∧ Dialogue (next answer) rest q := by
  cases dialogue with
  | nil => exact Or.inl ⟨rfl, rfl⟩
  | cons rest => exact Or.inr ⟨_, _, rfl, rest⟩

/-! ## Parties and their backend -/

/-- Where a party stands. -/
inductive Standing (α : Type) where
  /-- It goes on with the rest of its procedure. -/
  | going (rest : Procedure α)
  /-- It waits for the answer to a request, which the backend has given or has yet to give. -/
  | waiting (request : Request) (next : Outcome → Procedure α) (answer : Option Outcome)

/-- What one party has to do with, out of what all of them have to do with. -/
def theirs {ι β : Type} [DecidableEq ι] (i : ι) (all : List (ι × β)) : List β :=
  all.filterMap fun entry => if entry.1 = i then some entry.2 else none

section Theirs

variable {ι β : Type} [DecidableEq ι]

@[simp] theorem theirs_nil (i : ι) : theirs i ([] : List (ι × β)) = [] := rfl

@[simp] theorem theirs_append (i : ι) (all more : List (ι × β)) :
    theirs i (all ++ more) = theirs i all ++ theirs i more := by
  simp only [theirs, List.filterMap_append]

@[simp] theorem theirs_cons_self (i : ι) (b : β) (all : List (ι × β)) :
    theirs i ((i, b) :: all) = b :: theirs i all := by
  simp [theirs]

theorem theirs_cons_ne {i j : ι} (different : j ≠ i) (b : β) (all : List (ι × β)) :
    theirs i ((j, b) :: all) = theirs i all := by
  simp [theirs, different]

theorem mem_theirs {i : ι} {b : β} {all : List (ι × β)} : b ∈ theirs i all ↔ (i, b) ∈ all := by
  simp only [theirs, List.mem_filterMap, Option.ite_none_right_eq_some, Option.some.injEq]
  constructor
  · intro h
    obtain ⟨⟨j, c⟩, member, rfl, rfl⟩ := h
    exact member
  · intro member
    exact ⟨(i, b), member, rfl, rfl⟩

/-- The first thing that a party has to do with, and the place where it stands among all. -/
theorem eq_append_of_theirs_eq_cons {i : ι} {b : β} {rest : List β} {all : List (ι × β)}
    (first : theirs i all = b :: rest) :
    ∃ before after, all = before ++ (i, b) :: after ∧ theirs i before = [] ∧
      theirs i after = rest := by
  induction all with
  | nil => cases first
  | cons entry all ih =>
      rcases entry with ⟨j, c⟩
      by_cases same : j = i
      · subst same
        rw [theirs_cons_self] at first
        cases first
        exact ⟨[], all, rfl, rfl, rfl⟩
      · rw [theirs_cons_ne same] at first
        rcases ih first with ⟨before, after, split, none, some⟩
        exact ⟨(j, c) :: before, after, by rw [split]; rfl,
          by rw [theirs_cons_ne same, none], some⟩

end Theirs

/-- Parties at work: the board and the backend that they share, where each of them stands, the
requests adrift, and what the backend has handled so far, in its order. -/
structure Crowd (ι α σ : Type) where
  desk : Desk σ
  standing : ι → Standing α
  adrift : List (ι × Request) := []
  handled : List (ι × Turn) := []

namespace Crowd

variable {ι α σ : Type} [DecidableEq ι]

/-- Moves a party. -/
def move (w : Crowd ι α σ) (i : ι) (s : Standing α) : Crowd ι α σ :=
  { w with standing := Function.update w.standing i s }

/-- Has the backend handle a request of a party, after which it is left in a state. -/
def serve (w : Crowd ι α σ) (i : ι) (turn : Turn) (left : σ) : Crowd ι α σ :=
  { w with
    desk := { w.desk with link := left }
    handled := w.handled ++ [(i, turn)] }

/-- One step.  `handles before request answer after` says what the backend may answer to a request,
and the state that it is left in. -/
inductive Step (handles : σ → Request → Outcome → σ → Prop) : Crowd ι α σ → Crowd ι α σ → Prop
  /-- A party does something beside asking. -/
  | act {w : Crowd ι α σ} {a : Act} {next : Procedure α} (i : ι) :
      w.standing i = .going (.act a next) →
      Step handles w { w.move i (.going next) with desk := w.desk.perform a }
  /-- A party sends a request. -/
  | send {w : Crowd ι α σ} {request : Request} {next : Outcome → Procedure α} (i : ι) :
      w.standing i = .going (.ask request next) →
      Step handles w (w.move i (.waiting request next none))
  /-- The backend handles a request that a party waits for. -/
  | handle {w : Crowd ι α σ} {request : Request} {next : Outcome → Procedure α} {left : σ} (i : ι)
      (answer : Outcome) :
      w.standing i = .waiting request next none →
      handles w.desk.link request answer left →
      Step handles w ((w.move i (.waiting request next (some answer))).serve i
        ⟨request, answer⟩ left)
  /-- An answer reaches the party that waits for it. -/
  | deliver {w : Crowd ι α σ} {request : Request} {next : Outcome → Procedure α} {answer : Outcome}
      (i : ι) :
      w.standing i = .waiting request next (some answer) →
      Step handles w (w.move i (.going (next answer)))
  /-- A party gives up on a request that has not been handled, which is adrift from now on. -/
  | giveUp {w : Crowd ι α σ} {request : Request} {next : Outcome → Procedure α} (i : ι)
      (error : Failure) :
      w.standing i = .waiting request next none → error.code = .io →
      Step handles w
        { w.move i (.going (next (.failure error))) with adrift := w.adrift ++ [(i, request)] }
  /-- A party gives up on a request that has been handled: the answer is lost. -/
  | lose {w : Crowd ι α σ} {request : Request} {next : Outcome → Procedure α} {answer : Outcome}
      (i : ι) (error : Failure) :
      w.standing i = .waiting request next (some answer) → error.code = .io →
      Step handles w (w.move i (.going (next (.failure error))))
  /-- The backend handles a request that is adrift.  Nobody waits for the answer. -/
  | drift {w : Crowd ι α σ} {request : Request} {before after : List (ι × Request)} {left : σ}
      (i : ι) (answer : Outcome) :
      w.adrift = before ++ (i, request) :: after →
      handles w.desk.link request answer left →
      Step handles w
        { w.serve i ⟨request, answer⟩ left with adrift := before ++ after }

/-- Any number of steps. -/
abbrev Reach (handles : σ → Request → Outcome → σ → Prop) : Crowd ι α σ → Crowd ι α σ → Prop :=
  Relation.ReflTransGen (Step handles)

/-- A party has come to the end of its procedure. -/
def Returned (w : Crowd ι α σ) (i : ι) (result : α) : Prop :=
  w.standing i = .going (.done result)

end Crowd

/-! ## The view of one party -/

/-- What one party has to do with: where it stands, what the backend has handled for it, and its
requests adrift. -/
structure View (α : Type) where
  standing : Standing α
  said : List Turn
  adrift : List Request

/-- One step as the party sees it whose step it is.  The backend may answer anything. -/
inductive View.Step {α : Type} : View α → View α → Prop
  | act {a : Act} {next : Procedure α} {said : List Turn} {adrift : List Request} :
      Step ⟨.going (.act a next), said, adrift⟩ ⟨.going next, said, adrift⟩
  | send {request : Request} {next : Outcome → Procedure α} {said : List Turn}
      {adrift : List Request} :
      Step ⟨.going (.ask request next), said, adrift⟩
        ⟨.waiting request next none, said, adrift⟩
  | handle {request : Request} {next : Outcome → Procedure α} {said : List Turn}
      {adrift : List Request} (answer : Outcome) :
      Step ⟨.waiting request next none, said, adrift⟩
        ⟨.waiting request next (some answer), said ++ [⟨request, answer⟩], adrift⟩
  | deliver {request : Request} {next : Outcome → Procedure α} {answer : Outcome}
      {said : List Turn} {adrift : List Request} :
      Step ⟨.waiting request next (some answer), said, adrift⟩
        ⟨.going (next answer), said, adrift⟩
  | giveUp {request : Request} {next : Outcome → Procedure α} {error : Failure}
      {said : List Turn} {adrift : List Request} :
      error.code = .io →
      Step ⟨.waiting request next none, said, adrift⟩
        ⟨.going (next (.failure error)), said, adrift ++ [request]⟩
  | lose {request : Request} {next : Outcome → Procedure α} {answer : Outcome} {error : Failure}
      {said : List Turn} {adrift : List Request} :
      error.code = .io →
      Step ⟨.waiting request next (some answer), said, adrift⟩
        ⟨.going (next (.failure error)), said, adrift⟩
  | drift {standing : Standing α} {said : List Turn} {before after : List Request}
      {request : Request} (answer : Outcome) :
      Step ⟨standing, said, before ++ request :: after⟩
        ⟨standing, said ++ [⟨request, answer⟩], before ++ after⟩

namespace Crowd

variable {ι α σ : Type} [DecidableEq ι] {handles : σ → Request → Outcome → σ → Prop}

/-- The view of a party. -/
def view (w : Crowd ι α σ) (i : ι) : View α :=
  ⟨w.standing i, theirs i w.handled, theirs i w.adrift⟩

/-- **A step belongs to one party.**  It is a step of that party's view, and every other view stays
as it is. -/
theorem Step.views {w w' : Crowd ι α σ} (step : Step handles w w') :
    ∃ i, View.Step (w.view i) (w'.view i) ∧ ∀ j, j ≠ i → w'.view j = w.view j := by
  cases step with
  | act i stands =>
      refine ⟨i, ?_, fun j different => ?_⟩
      · simpa [view, move, stands] using View.Step.act
      · simp [view, move, different]
  | send i stands =>
      refine ⟨i, ?_, fun j different => ?_⟩
      · simpa [view, move, stands] using View.Step.send
      · simp [view, move, different]
  | handle i answer stands _ =>
      refine ⟨i, ?_, fun j different => ?_⟩
      · simpa [view, move, serve, stands] using View.Step.handle answer
      · simp [view, move, serve, different, theirs_cons_ne different.symm]
  | deliver i stands =>
      refine ⟨i, ?_, fun j different => ?_⟩
      · simpa [view, move, stands] using View.Step.deliver
      · simp [view, move, different]
  | giveUp i error stands code =>
      refine ⟨i, ?_, fun j different => ?_⟩
      · simpa [view, move, stands] using View.Step.giveUp code
      · simp [view, move, different, theirs_cons_ne different.symm]
  | lose i error stands code =>
      refine ⟨i, ?_, fun j different => ?_⟩
      · simpa [view, move, stands] using View.Step.lose code
      · simp [view, move, different]
  | drift i answer adrift _ =>
      refine ⟨i, ?_, fun j different => ?_⟩
      · simpa [view, serve, adrift] using View.Step.drift answer
      · simp [view, serve, adrift, theirs_cons_ne different.symm]

/-- What the steps of a party keep true of its view is true of it after any run of all parties. -/
theorem Reach.view {w w' : Crowd ι α σ} (reach : Reach handles w w')
    (keeps : ι → View α → Prop) (kept : ∀ i v v', View.Step v v' → keeps i v → keeps i v')
    (start : ∀ i, keeps i (w.view i)) (i : ι) : keeps i (w'.view i) := by
  induction reach with
  | refl => exact start i
  | tail _ step ih =>
      rcases step.views with ⟨j, own, others⟩
      by_cases same : i = j
      · subst same
        exact kept i _ _ own ih
      · rw [others i same]
        exact ih

end Crowd

/-! ## What the backend has become -/

/-- `Served handles s log t`: the backend handles the requests of `log` one after another with the
answers there, which leads from `s` to `t`. -/
inductive Served {ι σ : Type} (handles : σ → Request → Outcome → σ → Prop) :
    σ → List (ι × Turn) → σ → Prop
  | nil {s : σ} : Served handles s [] s
  | cons {s m t : σ} {i : ι} {turn : Turn} {log : List (ι × Turn)} :
      handles s turn.request turn.answer m → Served handles m log t →
      Served handles s ((i, turn) :: log) t

section Served

variable {ι σ : Type} {handles : σ → Request → Outcome → σ → Prop}

/-- What is handled in a row is handled in two parts. -/
theorem served_append {s t : σ} {log more : List (ι × Turn)} :
    Served handles s (log ++ more) t ↔
      ∃ m, Served handles s log m ∧ Served handles m more t := by
  constructor
  · intro served
    induction log generalizing s with
    | nil => exact ⟨s, .nil, served⟩
    | cons entry log ih =>
        cases served with
        | cons first rest =>
            rcases ih rest with ⟨m, left, right⟩
            exact ⟨m, .cons first left, right⟩
  · intro h
    obtain ⟨m, left, right⟩ := h
    induction left with
    | nil => exact right
    | cons first _ ih => exact .cons first (ih right)

/-- The state of the backend after a run is what the requests handled in it have made of it. -/
theorem Crowd.Reach.served {α : Type} [DecidableEq ι] {w w' : Crowd ι α σ}
    (reach : Crowd.Reach handles w w') :
    ∃ log, w'.handled = w.handled ++ log ∧ Served handles w.desk.link log w'.desk.link := by
  induction reach with
  | refl => exact ⟨[], by simp, .nil⟩
  | tail _ step ih =>
      rcases ih with ⟨log, handled, served⟩
      have one : ∀ {i : ι} {turn : Turn} {left : σ},
          handles _ turn.request turn.answer left →
          Served handles _ (log ++ [(i, turn)]) left :=
        fun h => served_append.mpr ⟨_, served, .cons h .nil⟩
      cases step with
      | @act a _ i _ => cases a <;> exact ⟨log, handled, served⟩
      | send | deliver | giveUp | lose => exact ⟨log, handled, served⟩
      | @handle request _ left i answer _ h =>
          exact ⟨log ++ [(i, ⟨request, answer⟩)],
            by simp only [serve, move, handled, List.append_assoc], one h⟩
      | @drift request _ _ left i answer _ h =>
          exact ⟨log ++ [(i, ⟨request, answer⟩)],
            by simp only [serve, handled, List.append_assoc], one h⟩

end Served

end CaptureDesk
