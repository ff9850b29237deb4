import CaptureDesk.Proofs.Interleaving

/-!
# Backends that always answer

An *oracle* is a backend that answers every request, with a success or a failure: any outcome, and
so whatever a transported value may stand for.  What it answers may depend on everything that it was
ever asked, so whatever holds over every oracle holds of every backend whose link does not fault,
and at every point of its history.

* `Oracle.Gave`: the answers of some turns are those that an oracle gives to their requests.
* `Procedure.Yields`: a procedure ends in a result, with a condition on the result and on the desk.
  There is one rule for each form of a procedure, and `Procedure.Yields.bind` for procedures in a
  row.
-/

namespace CaptureDesk

/-- The answer to the last of the requests asked so far. -/
abbrev Oracle := List Request → Outcome

/-- Asks an oracle.  The state of the link is what was asked so far. -/
def Oracle.link (o : Oracle) : Link (List Request) := fun request asked =>
  { outcome := .ok (o (asked ++ [request])), state := asked ++ [request] }

/-- `o.Gave asked turns`: when the requests of `turns` come after those of `asked`, the oracle gives
the answers of `turns`. -/
inductive Oracle.Gave (o : Oracle) (asked : List Request) : List Turn → Prop
  | nil : Gave o asked []
  | snoc {turns : List Turn} {request : Request} :
      Gave o asked turns →
      Gave o asked
        (turns ++ [⟨request, o (asked ++ turns.map Turn.request ++ [request])⟩])

namespace Procedure

variable {α β σ : Type} {link : Link σ} {d : Desk σ}

/-- Carried out over the link from the desk `d`, a procedure ends in a result and leaves a desk of
which `post` holds. -/
def Yields (link : Link σ) (t : Procedure α) (d : Desk σ) (post : α → Desk σ → Prop) : Prop :=
  ∃ result after, t.run link d = (.ok result, after) ∧ post result after

variable {post : α → Desk σ → Prop}

theorem Yields.done {a : α} (holds : post a d) : Yields link (done a) d post :=
  ⟨a, d, rfl, holds⟩

theorem Yields.act {a : Act} {next : Procedure α} (rest : Yields link next (d.perform a) post) :
    Yields link (act a next) d post :=
  rest

/-- A request to an oracle is answered, and the procedure goes on with the answer. -/
theorem Yields.ask {o : Oracle} {d : Desk (List Request)} {request : Request}
    {next : Outcome → Procedure α} {post : α → Desk (List Request) → Prop}
    (rest : Yields o.link (next (o (d.link ++ [request])))
      { d with link := d.link ++ [request] } post) :
    Yields o.link (.ask request next) d post := by
  obtain ⟨result, after, run, holds⟩ := rest
  refine ⟨result, after, ?_, holds⟩
  rw [Procedure.run]
  simpa [Oracle.link, Desk.receive] using run

theorem Yields.mono {t : Procedure α} {post' : α → Desk σ → Prop}
    (yields : Yields link t d post) (weaker : ∀ a after, post a after → post' a after) :
    Yields link t d post' := by
  obtain ⟨result, after, run, holds⟩ := yields
  exact ⟨result, after, run, weaker result after holds⟩

/-- Procedures in a row yield what the second yields wherever the first has left off. -/
theorem Yields.bind {t : Procedure α} {next : α → Procedure β} {post' : β → Desk σ → Prop}
    (first : Yields link t d post)
    (second : ∀ a after, post a after → Yields link (next a) after post') :
    Yields link (t >>= next) d post' := by
  obtain ⟨a, between, run, holds⟩ := first
  obtain ⟨b, after, run', holds'⟩ := second a between holds
  refine ⟨b, after, ?_, holds'⟩
  rw [run_bind, run]
  exact run'

end Procedure

end CaptureDesk
