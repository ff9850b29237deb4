import CaptureDesk.Proofs.Acts
import CaptureDesk.Proofs.Oracle

/-!
# Transcripts

A transcript of a procedure is what went on while it was carried out: the turns that it took with
its backend, the acts that it did, and the result that it ended in.  A transcript mentions neither a
backend nor a board, so the same one serves for every backend that gives the answers of its turns.

* `Transcript.run`: over an oracle that gives the answers, the procedure runs as in the transcript.
* `Oracle.exists_transcript`: every run over an oracle has a transcript.  What holds of all
  transcripts therefore holds of all runs.
* `Transcript.of_bind`: a transcript of procedures in a row is one of the first and one of the
  second.
* `Procedure.Asks`: what holds of every request that a procedure can make.
-/

namespace CaptureDesk

/-- `Transcript t turns acts a`: on hearing the answers of `turns` to its requests, which are those
of `turns`, the procedure `t` does `acts` and ends in `a`. -/
inductive Transcript {α : Type} : Procedure α → List Turn → List Act → α → Prop
  | done {a : α} : Transcript (.done a) [] [] a
  | act {x : Act} {next : Procedure α} {turns : List Turn} {acts : List Act} {a : α} :
      Transcript next turns acts a → Transcript (.act x next) turns (x :: acts) a
  | ask {request : Request} {next : Outcome → Procedure α} {answer : Outcome} {turns : List Turn}
      {acts : List Act} {a : α} :
      Transcript (next answer) turns acts a →
      Transcript (.ask request next) (⟨request, answer⟩ :: turns) acts a

/-! ## Runs over an oracle -/

/-- The first of the turns is answered after what was asked before, and the others after it. -/
theorem Oracle.gave_cons {o : Oracle} {asked : List Request} {turn : Turn} {turns : List Turn} :
    o.Gave asked (turn :: turns) ↔
      turn.answer = o (asked ++ [turn.request]) ∧ o.Gave (asked ++ [turn.request]) turns := by
  constructor
  · intro gave
    generalize whole : turn :: turns = all at gave
    induction gave generalizing turns with
    | nil => cases whole
    | @snoc before request earlier ih =>
        cases before with
        | nil =>
            obtain ⟨rfl, rfl⟩ := List.cons.inj whole
            exact ⟨by simp, .nil⟩
        | cons first before =>
            obtain ⟨rfl, rfl⟩ := List.cons.inj whole
            obtain ⟨answered, rest⟩ := ih rfl
            refine ⟨answered, ?_⟩
            simpa using @Gave.snoc _ _ _ request rest
  · rcases turn with ⟨request, answer⟩
    intro ⟨answered, gave⟩
    dsimp only at answered gave
    subst answered
    induction gave with
    | nil => simpa using @Gave.snoc o asked _ request .nil
    | @snoc before later _ ih => simpa using @Gave.snoc _ _ _ later ih

/-- The turns that requests make when an oracle answers them. -/
def Oracle.turns (o : Oracle) (asked : List Request) : List Request → List Turn
  | [] => []
  | request :: rest =>
      ⟨request, o (asked ++ [request])⟩ :: o.turns (asked ++ [request]) rest

theorem Oracle.gave_turns (o : Oracle) (asked requests : List Request) :
    o.Gave asked (o.turns asked requests) := by
  induction requests generalizing asked with
  | nil => exact .nil
  | cons request rest ih => exact gave_cons.mpr ⟨rfl, ih (asked ++ [request])⟩

/-- The requests of turns with an oracle tell what the turns are. -/
theorem Oracle.Gave.eq_turns {o : Oracle} {asked : List Request} {turns : List Turn}
    (gave : o.Gave asked turns) : turns = o.turns asked (turns.map Turn.request) := by
  induction turns generalizing asked with
  | nil => rfl
  | cons turn turns ih =>
      obtain ⟨answered, rest⟩ := gave_cons.mp gave
      rw [List.map_cons, Oracle.turns, ← ih rest, ← answered]

namespace Desk

/-- The desk after turns with an oracle, and acts. -/
def resume (d : Desk (List Request)) (turns : List Turn) (acts : List Act) :
    Desk (List Request) :=
  acts.foldl perform { d with link := d.link ++ turns.map Turn.request }

variable {σ : Type}

@[simp] theorem link_foldl_perform (d : Desk σ) (acts : List Act) :
    (acts.foldl perform d).link = d.link := by
  induction acts generalizing d with
  | nil => rfl
  | cons x acts ih => rw [List.foldl_cons, ih, link_perform]

/-- Acts do not look at the link. -/
theorem perform_link (d : Desk σ) (x : Act) (link : σ) :
    { d with link }.perform x = { d.perform x with link } := by
  cases x <;> rfl

@[simp] theorem resume_nil (d : Desk (List Request)) : d.resume [] [] = d := by
  simp [resume]

theorem resume_act (d : Desk (List Request)) (turns : List Turn) (x : Act) (acts : List Act) :
    d.resume turns (x :: acts) = (d.perform x).resume turns acts := by
  rw [resume, List.foldl_cons, perform_link, resume, link_perform]

theorem resume_turn (d : Desk (List Request)) (turn : Turn) (turns : List Turn)
    (acts : List Act) :
    d.resume (turn :: turns) acts =
      { d with link := d.link ++ [turn.request] }.resume turns acts := by
  simp [resume]

@[simp] theorem link_resume (d : Desk (List Request)) (turns : List Turn) (acts : List Act) :
    (d.resume turns acts).link = d.link ++ turns.map Turn.request :=
  link_foldl_perform _ acts

end Desk

section Runs

variable {α : Type} {t : Procedure α} {turns : List Turn} {acts : List Act} {a : α} {o : Oracle}
  {d : Desk (List Request)}

/-- Over an oracle that gives the answers of a transcript, the procedure runs as it says. -/
theorem Transcript.run (transcript : Transcript t turns acts a) (gave : o.Gave d.link turns) :
    t.run o.link d = (.ok a, d.resume turns acts) := by
  induction transcript generalizing d with
  | done => rw [Procedure.run, Desk.resume_nil]
  | @act x next turns acts a _ ih =>
      rw [Procedure.run, Desk.resume_act]
      exact ih (by rwa [Desk.link_perform])
  | @ask request next answer turns acts a _ ih =>
      obtain ⟨answered, rest⟩ := Oracle.gave_cons.mp gave
      dsimp only at answered rest
      subst answered
      have received :
          d.receive (o.link request d.link) = { d with link := d.link ++ [request] } := by
        simp [Desk.receive, Oracle.link]
      rw [Desk.resume_turn, Procedure.run]
      show (next (o (d.link ++ [request]))).run o.link (d.receive (o.link request d.link)) = _
      rw [received]
      exact ih rest

/-- Every run over an oracle has a transcript. -/
theorem Oracle.exists_transcript (o : Oracle) (t : Procedure α) (asked : List Request) :
    ∃ turns acts a, Transcript t turns acts a ∧ o.Gave asked turns := by
  induction t generalizing asked with
  | done a => exact ⟨[], [], a, .done, .nil⟩
  | act x next ih =>
      obtain ⟨turns, acts, a, transcript, gave⟩ := ih asked
      exact ⟨turns, x :: acts, a, .act transcript, gave⟩
  | ask request next ih =>
      obtain ⟨turns, acts, a, transcript, gave⟩ :=
        ih (o (asked ++ [request])) (asked ++ [request])
      exact ⟨⟨request, _⟩ :: turns, acts, a, .ask transcript, Oracle.gave_cons.mpr ⟨rfl, gave⟩⟩

end Runs

/-! ## Procedures in a row -/

namespace Transcript

variable {α β : Type} {turns : List Turn} {acts : List Act}

theorem of_done {a b : α} (transcript : Transcript (.done a) turns acts b) :
    turns = [] ∧ acts = [] ∧ b = a := by
  cases transcript
  exact ⟨rfl, rfl, rfl⟩

theorem of_request {command : String} {body : Value} {answer : Outcome}
    (transcript : Transcript (Procedure.request command body) turns acts answer) :
    turns = [⟨⟨command, body⟩, answer⟩] ∧ acts = [] := by
  cases transcript with
  | ask rest =>
      cases rest
      exact ⟨rfl, rfl⟩

theorem of_change {c : Board.Change} {u : Unit}
    (transcript : Transcript (Procedure.change c) turns acts u) :
    turns = [] ∧ acts = [.change c] := by
  cases transcript with
  | act rest =>
      cases rest
      exact ⟨rfl, rfl⟩

/-- What procedures in a row do is what the first does, and then what the second does with the
result of the first. -/
theorem of_bind {t : Procedure α} {next : α → Procedure β} {b : β}
    (transcript : Transcript (t >>= next) turns acts b) :
    ∃ turns₁ acts₁ a turns₂ acts₂, Transcript t turns₁ acts₁ a ∧
      Transcript (next a) turns₂ acts₂ b ∧ turns = turns₁ ++ turns₂ ∧ acts = acts₁ ++ acts₂ := by
  induction t generalizing turns acts with
  | done a => exact ⟨[], [], a, turns, acts, .done, transcript, rfl, rfl⟩
  | act x rest ih =>
      cases transcript with
      | act later =>
          obtain ⟨turns₁, acts₁, a, turns₂, acts₂, first, second, rfl, rfl⟩ := ih later
          exact ⟨turns₁, x :: acts₁, a, turns₂, acts₂, .act first, second, rfl, rfl⟩
  | ask request rest ih =>
      cases transcript with
      | @ask _ _ answer _ _ _ later =>
          obtain ⟨turns₁, acts₁, a, turns₂, acts₂, first, second, rfl, rfl⟩ := ih answer later
          exact ⟨⟨request, answer⟩ :: turns₁, acts₁, a, turns₂, acts₂, .ask first, second, rfl, rfl⟩

/-- A request is answered, and its answer is what the procedure goes on with. -/
theorem of_request_bind {command : String} {body : Value} {next : Outcome → Procedure β} {b : β}
    (transcript : Transcript (Procedure.request command body >>= next) turns acts b) :
    ∃ answer rest, turns = ⟨⟨command, body⟩, answer⟩ :: rest ∧
      Transcript (next answer) rest acts b := by
  obtain ⟨_, _, answer, rest, _, first, second, rfl, rfl⟩ := of_bind transcript
  obtain ⟨rfl, rfl⟩ := of_request first
  exact ⟨answer, rest, rfl, second⟩

end Transcript

/-! ## All that a procedure may do and ask -/

namespace Procedure

variable {α β : Type}

/-- The acts of a transcript have every property that all acts of the procedure have. -/
theorem Only.transcript {P : Act → Prop} {t : Procedure α} {turns : List Turn} {acts : List Act}
    {a : α} (only : t.Only P fun _ => True) (transcript : Transcript t turns acts a) :
    ∀ x ∈ acts, P x := by
  induction transcript with
  | done => exact List.forall_mem_nil _
  | act _ ih => exact List.forall_mem_cons.mpr ⟨only.1, ih only.2⟩
  | ask _ ih => exact ih (only _ trivial)

/-- Every request has the property `Q`, whatever answers come. -/
def Asks (Q : Request → Prop) : Procedure α → Prop
  | done _ => True
  | act _ next => next.Asks Q
  | ask request next => Q request ∧ ∀ answer, (next answer).Asks Q

variable {Q : Request → Prop}

theorem Asks.bind {t : Procedure α} {next : α → Procedure β} (first : t.Asks Q)
    (second : ∀ a, (next a).Asks Q) : (t >>= next).Asks Q := by
  induction t with
  | done a => exact second a
  | act x rest ih => exact ih first
  | ask request rest ih => exact ⟨first.1, fun answer => ih answer (first.2 answer)⟩

theorem Asks.request {command : Str} {body : Value} (holds : Q ⟨command, body⟩) :
    (request command body).Asks Q :=
  ⟨holds, fun _ => trivial⟩

/-- The requests of a transcript have every property that all requests of the procedure have. -/
theorem Asks.transcript {t : Procedure α} {turns : List Turn} {acts : List Act} {a : α}
    (asks : t.Asks Q) (transcript : Transcript t turns acts a) :
    ∀ turn ∈ turns, Q turn.request := by
  induction transcript with
  | done => exact List.forall_mem_nil _
  | act _ ih => exact ih asks
  | ask _ ih => exact List.forall_mem_cons.mpr ⟨asks.1, ih (asks.2 _)⟩

end Procedure

end CaptureDesk
