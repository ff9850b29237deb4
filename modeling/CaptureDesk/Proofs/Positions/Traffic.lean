import CaptureDesk.Proofs.Board.Invalidation
import CaptureDesk.Proofs.Positions.Writers
import CaptureDesk.Proofs.Revision.StepLog

/-!
# Positions while answers are under way

Any number of flows, revisions and steps screens are carried out over one board and one backend.  A
request is handled in one piece, at any time after it was sent; its answer reaches the party that
waits for it at any later time, or a failure does in its place.  Meanwhile the backend moves on by
itself, and the board is changed by what else happens to it.  Of the backend it is only known that
no head is negative or ever decreases, and that no answer reports a position that the log has not
reached (`Tracks`).

What the parties have noted so far is kept beside the board, in its order, together with the answers
that each of them has heard.  Two invariants carry the result.  The rest of every party is honest
about the present heads (`Traffic.Honest`), hence no position on the board is ahead of the backend.
And what a party has noted, with what it goes on to note, is what its answers are worth
(`Traffic.Accounted`), hence the board depends on the answers alone, not on the order in which they
came (`Traffic.consistent_of_reach`).
-/

namespace CaptureDesk

/-- What is known of a backend with a step log for each session. -/
structure Tracks {σ : Type} (handles : σ → Request → Outcome → σ → Prop)
    (heads : σ → Str → Int) : Prop where
  nonneg : ∀ s session, 0 ≤ heads s session
  grows : ∀ s request answer s', handles s request answer s' → heads s ≤ heads s'
  truthful : ∀ s request answer s', handles s request answer s' →
    Truthful (heads s') request answer

/-- A party is not in the middle of what it does on an answer. -/
def Standing.AtRest {α : Type} : Standing α → Prop
  | .going (.act _ _) => False
  | _ => True

/-- What a party has left to do, from the request on that it waits for. -/
def Standing.rest {α : Type} : Standing α → Procedure α
  | .going rest => rest
  | .waiting request next _ => .ask request next

/-- What a party has left to do is honest about the heads, whether it hears the answer that it waits
for or a failure in its place. -/
def Standing.Honest (heads : Str → Int) : Standing Unit → Prop
  | .going rest => rest.Honest heads
  | .waiting request next none => (Procedure.ask request next).Honest heads
  | .waiting request next (some answer) =>
      (Procedure.ask request next).Honest heads ∧ (next answer).Honest heads

theorem Standing.Honest.mono {s : Standing Unit} {heads later : Str → Int}
    (honest : s.Honest heads) (grown : heads ≤ later) : s.Honest later := by
  match s, honest with
  | .going rest, honest => exact Procedure.Honest.mono honest grown
  | .waiting request next none, honest => exact Procedure.Honest.mono honest grown
  | .waiting request next (some answer), honest =>
      exact ⟨Procedure.Honest.mono honest.1 grown, honest.2.mono grown⟩

/-- Tasks that share a board and a backend, and the record of what they have heard and noted. -/
structure Traffic (ι σ : Type) where
  desk : Desk σ
  standing : ι → Standing Unit := fun _ => .going (.done ())
  task : ι → Option Task := fun _ => none
  heard : ι → List Outcome := fun _ => []
  noted : List (ι × Position) := []

namespace Traffic

variable {ι σ : Type}

/-- The position that the board shows for a session. -/
def known? (w : Traffic ι σ) (session : Str) : Option Int :=
  w.desk.board.headSeqs.get? session

/-- The positions that have been noted for a session. -/
def notedFor (w : Traffic ι σ) (session : Str) : List Int :=
  w.noted.filterMap fun entry =>
    if entry.2.session = session then some entry.2.head else none

/-- What a party does from its beginning. -/
def procedure (w : Traffic ι σ) (i : ι) : Procedure Unit :=
  (w.task i).elim (.done ()) Task.procedure

/-- What a party takes from the answers that it has heard. -/
def worth (w : Traffic ι σ) (i : ι) : List Position :=
  (w.task i).elim [] fun task => task.positions (w.heard i)

theorem notes_heard (w : Traffic ι σ) (i : ι) : (w.procedure i).notes (w.heard i) = w.worth i := by
  unfold procedure worth
  cases w.task i with
  | none => rfl
  | some task => exact task.notes_procedure (w.heard i)

variable [DecidableEq ι]

/-- Moves a party. -/
def move (w : Traffic ι σ) (i : ι) (s : Standing Unit) : Traffic ι σ :=
  { w with standing := Function.update w.standing i s }

/-- Carries an act of a party out, and notes the position if it is one. -/
def perform (w : Traffic ι σ) (i : ι) (a : Act) (next : Procedure Unit) : Traffic ι σ :=
  { w.move i (.going next) with
    desk := w.desk.perform a
    noted := w.noted ++ a.position?.toList.map fun p => (i, p) }

/-- Lets a party hear an answer, with which it goes on. -/
def hear (w : Traffic ι σ) (i : ι) (answer : Outcome) (next : Outcome → Procedure Unit) :
    Traffic ι σ :=
  { w.move i (.going (next answer)) with
    heard := Function.update w.heard i (w.heard i ++ [answer]) }

/-- One step. -/
inductive Step (handles : σ → Request → Outcome → σ → Prop) (heads : σ → Str → Int) :
    Traffic ι σ → Traffic ι σ → Prop
  /-- A party begins a task. -/
  | begin {w : Traffic ι σ} (i : ι) (task : Task) :
      w.task i = none →
      Step handles heads w
        { w.move i (.going task.procedure) with task := Function.update w.task i (some task) }
  /-- A party does something beside asking. -/
  | act {w : Traffic ι σ} {a : Act} {next : Procedure Unit} (i : ι) :
      w.standing i = .going (.act a next) → Step handles heads w (w.perform i a next)
  /-- A party sends a request. -/
  | send {w : Traffic ι σ} {request : Request} {next : Outcome → Procedure Unit} (i : ι) :
      w.standing i = .going (.ask request next) →
      Step handles heads w (w.move i (.waiting request next none))
  /-- The backend handles a request. -/
  | handle {w : Traffic ι σ} {request : Request} {next : Outcome → Procedure Unit} {left : σ}
      (i : ι) (answer : Outcome) :
      w.standing i = .waiting request next none → handles w.desk.link request answer left →
      Step handles heads w
        { w.move i (.waiting request next (some answer)) with
          desk := { w.desk with link := left } }
  /-- An answer reaches the party that waits for it. -/
  | deliver {w : Traffic ι σ} {request : Request} {next : Outcome → Procedure Unit}
      {answer : Outcome} (i : ι) :
      w.standing i = .waiting request next (some answer) →
      Step handles heads w (w.hear i answer next)
  /-- A failure reaches a party in place of the answer, which may have been given. -/
  | fail {w : Traffic ι σ} {request : Request} {next : Outcome → Procedure Unit}
      {answer : Option Outcome} (i : ι) (error : Failure) :
      w.standing i = .waiting request next answer →
      Step handles heads w (w.hear i (.failure error) next)
  /-- The backend moves on by itself. -/
  | elapse {w : Traffic ι σ} (later : σ) :
      heads w.desk.link ≤ heads later →
      Step handles heads w { w with desk := { w.desk with link := later } }
  /-- The board is changed by something else. -/
  | touch {w : Traffic ι σ} (c : Board.Change) :
      c.position? = none → Step handles heads w { w with desk := w.desk.perform (.change c) }

/-- Any number of steps. -/
abbrev Reach (handles : σ → Request → Outcome → σ → Prop) (heads : σ → Str → Int) :
    Traffic ι σ → Traffic ι σ → Prop :=
  Relation.ReflTransGen (Step handles heads)

/-- Nothing has begun, and no position is known. -/
def opening (board : Board) (link : σ) : Traffic ι σ :=
  { desk := { board := { board with headSeqs := [] }, link } }

/-! ## What a step does -/

theorem get?_apply_other (b : Board) {c : Board.Change} (other : c.position? = none)
    (session : Str) : (b.apply c).headSeqs.get? session = b.headSeqs.get? session := by
  cases c with
  | setHeadSeq => cases other
  | setActiveSession s =>
      simp only [Board.apply, Board.setActiveSession]
      split <;> rfl
  | recordJobHandle job =>
      simp only [Board.apply, Board.recordJobHandle]
      split <;> rfl
  | _ => rfl

section Perform

variable (w : Traffic ι σ) (i : ι) {a : Act} (next : Procedure Unit) (session : Str)

/-- An act that notes no position leaves the positions on the board as they are. -/
theorem known?_perform_other (other : a.position? = none) :
    (w.perform i a next).known? session = w.known? session := by
  cases a with
  | report | announce => rfl
  | change c => exact get?_apply_other w.desk.board other session

/-- After a position has been noted the board shows the greater one. -/
theorem known?_perform {p : Position} (noted : a.position? = some p) :
    (w.perform i a next).known? session =
      if p.session = session then some (((w.known? session).map (max · p.head)).getD p.head)
      else w.known? session := by
  cases a with
  | report | announce => cases noted
  | change c =>
      cases c with
      | setHeadSeq named head =>
          cases noted
          refine (Board.get?_setHeadSeq w.desk.board named session head).trans ?_
          by_cases same : named = session
          · rw [if_pos same, if_pos same, same]
            rfl
          · rw [if_neg same, if_neg same]
            rfl
      | _ => cases noted

theorem notedFor_perform_other (other : a.position? = none) :
    (w.perform i a next).notedFor session = w.notedFor session := by
  simp [perform, notedFor, other]

theorem notedFor_perform {p : Position} (noted : a.position? = some p) :
    (w.perform i a next).notedFor session =
      w.notedFor session ++ if p.session = session then [p.head] else [] := by
  by_cases same : p.session = session <;> simp [perform, notedFor, noted, same]

theorem theirs_perform :
    theirs i (w.perform i a next).noted = theirs i w.noted ++ a.position?.toList := by
  cases noted : a.position? <;> simp [perform, noted]

theorem theirs_perform_ne {j : ι} (different : j ≠ i) :
    theirs j (w.perform i a next).noted = theirs j w.noted := by
  cases noted : a.position? <;> simp [perform, noted, theirs_cons_ne different.symm]

end Perform

theorem mem_notedFor (w : Traffic ι σ) {session : Str} {head : Int} :
    head ∈ w.notedFor session ↔ ∃ i, ⟨session, head⟩ ∈ theirs i w.noted := by
  simp only [notedFor, List.mem_filterMap, mem_theirs, Option.ite_none_right_eq_some,
    Option.some.injEq]
  constructor
  · rintro ⟨⟨i, p⟩, member, rfl, rfl⟩
    exact ⟨i, member⟩
  · rintro ⟨i, member⟩
    exact ⟨_, member, rfl, rfl⟩

/-! ## No position is ahead -/

/-- No party goes on to note a position that is ahead, and none that is known is ahead. -/
structure Honest (heads : σ → Str → Int) (w : Traffic ι σ) : Prop where
  parties : ∀ i, (w.standing i).Honest (heads w.desk.link)
  behind : ∀ session known, w.known? session = some known → known ≤ heads w.desk.link session

variable {handles : σ → Request → Outcome → σ → Prop} {heads : σ → Str → Int}
  {w w' : Traffic ι σ}

section Honest

/-- A party that is moved is honest with all others, when the heads have not moved back. -/
theorem Honest.parties_move {s : Standing Unit} {link : σ} (honest : w.Honest heads) (i : ι)
    (moved : s.Honest (heads link)) (grown : heads w.desk.link ≤ heads link) (j : ι) :
    (Function.update w.standing i s j).Honest (heads link) := by
  by_cases same : j = i
  · subst same
    rwa [Function.update_self]
  · rw [Function.update_of_ne same]
    exact (honest.parties j).mono grown

/-- What an honest party notes is not ahead, so the board is not. -/
theorem Honest.behind_perform (honest : w.Honest heads) {i : ι} {a : Act} {next : Procedure Unit}
    (stands : w.standing i = .going (.act a next)) (session : Str) (known : Int)
    (found : (w.perform i a next).known? session = some known) :
    known ≤ heads w.desk.link session := by
  have going := honest.parties i
  rw [stands] at going
  cases noted : a.position? with
  | none =>
      rw [known?_perform_other w i next session noted] at found
      exact honest.behind session known found
  | some p =>
      rw [known?_perform w i next session noted] at found
      have notAhead : p.head ≤ heads w.desk.link p.session := going.1 p noted
      by_cases same : p.session = session
      · subst same
        rw [if_pos rfl] at found
        cases found
        cases before : w.known? p.session with
        | none => exact notAhead
        | some n => exact max_le (honest.behind p.session n before) notAhead
      · rw [if_neg same] at found
        exact honest.behind session known found

/-- **No step lets a position be ahead.** -/
theorem Honest.step (laws : Tracks handles heads) (step : Step handles heads w w')
    (honest : w.Honest heads) : w'.Honest heads := by
  cases step with
  | begin i task _ =>
      exact ⟨honest.parties_move i (task.honest_procedure (laws.nonneg _)) le_rfl, honest.behind⟩
  | @act a next i stands =>
      have going := honest.parties i
      rw [stands] at going
      have link : (w.perform i a next).desk.link = w.desk.link := Desk.link_perform w.desk a
      constructor
      · rw [link]
        exact honest.parties_move i going.2 le_rfl
      · rw [link]
        exact honest.behind_perform stands
  | send i stands =>
      have going := honest.parties i
      rw [stands] at going
      exact ⟨honest.parties_move i going le_rfl, honest.behind⟩
  | @handle request next left i answer stands handled =>
      have waiting := honest.parties i
      rw [stands] at waiting
      have grown := laws.grows _ _ _ _ handled
      have truthful := laws.truthful _ _ _ _ handled
      refine ⟨honest.parties_move i ⟨?_, ?_⟩ grown, ?_⟩
      · exact Procedure.Honest.mono waiting grown
      · exact waiting _ grown answer truthful
      · exact fun session known found => (honest.behind session known found).trans (grown session)
  | deliver i stands =>
      have waiting := honest.parties i
      rw [stands] at waiting
      exact ⟨honest.parties_move i waiting.2 le_rfl, honest.behind⟩
  | @fail request next answer i error stands =>
      have waiting := honest.parties i
      rw [stands] at waiting
      have asking : (Procedure.ask request next).Honest (heads w.desk.link) := by
        cases answer with
        | none => exact waiting
        | some answer => exact waiting.1
      exact ⟨honest.parties_move i (asking _ le_rfl _ (.failure error)) le_rfl, honest.behind⟩
  | elapse later grown =>
      refine ⟨fun i => (honest.parties i).mono grown, ?_⟩
      exact fun session known found => (honest.behind session known found).trans (grown session)
  | touch c other =>
      refine ⟨honest.parties, fun session known found => ?_⟩
      exact honest.behind session known ((get?_apply_other _ other session).symm.trans found)

theorem honest_of_reach (laws : Tracks handles heads) {board : Board} {link : σ}
    (reach : Reach handles heads (opening board link) w) : w.Honest heads := by
  induction reach with
  | refl => exact ⟨fun _ => trivial, nofun⟩
  | tail _ step ih => exact ih.step laws step

end Honest

/-! ## The greatest position noted -/

theorem max?_append_singleton {ns : List Int} {n : Int} :
    (ns ++ [n]).max? = some ((ns.max?.map (max · n)).getD n) := by
  cases ns with
  | nil => rfl
  | cons m ns =>
      rw [List.cons_append, List.max?_cons', List.max?_cons', List.foldl_append]
      rfl

/-- **A step keeps the board at the greatest position noted.** -/
theorem greatest_step (step : Step handles heads w w') {session : Str}
    (greatest : w.known? session = (w.notedFor session).max?) :
    w'.known? session = (w'.notedFor session).max? := by
  cases step with
  | begin | send | handle | deliver | fail | elapse => exact greatest
  | touch c other => exact (get?_apply_other _ other session).trans greatest
  | @act a next i stands =>
      cases noted : a.position? with
      | none =>
          rw [known?_perform_other w i next session noted,
            notedFor_perform_other w i next session noted, greatest]
      | some p =>
          rw [known?_perform w i next session noted, notedFor_perform w i next session noted]
          by_cases same : p.session = session
          · rw [if_pos same, if_pos same, max?_append_singleton, greatest]
          · rw [if_neg same, if_neg same, List.append_nil, greatest]

theorem greatest_of_reach {board : Board} {link : σ}
    (reach : Reach handles heads (opening board link) w) (session : Str) :
    w.known? session = (w.notedFor session).max? := by
  induction reach with
  | refl => rfl
  | tail _ step ih => exact greatest_step step ih

/-! ## What the answers are worth -/

/-- What a party has noted, with what it goes on to note, is what it notes from its beginning. -/
structure Accounted (w : Traffic ι σ) : Prop where
  notes : ∀ i more,
    (w.procedure i).notes (w.heard i ++ more) =
      theirs i w.noted ++ (w.standing i).rest.notes more
  idle : ∀ i, w.task i = none → w.heard i = [] ∧ w.standing i = .going (.done ())

section Accounted

/-- The account of all parties is kept when that of the one party that has changed is. -/
theorem Accounted.of_others (accounted : w.Accounted) (i : ι)
    (others : ∀ j, j ≠ i → w'.task j = w.task j ∧ w'.heard j = w.heard j ∧
      theirs j w'.noted = theirs j w.noted ∧ w'.standing j = w.standing j)
    (begun : w'.task i ≠ none)
    (notes : ∀ more, (w'.procedure i).notes (w'.heard i ++ more) =
      theirs i w'.noted ++ (w'.standing i).rest.notes more) : w'.Accounted where
  notes j more := by
    by_cases same : j = i
    · subst same
      exact notes more
    · obtain ⟨task, heard, noted, standing⟩ := others j same
      rw [procedure, task, heard, noted, standing]
      exact accounted.notes j more
  idle j none := by
    by_cases same : j = i
    · subst same
      exact absurd none begun
    · obtain ⟨task, heard, _, standing⟩ := others j same
      rw [heard, standing]
      exact accounted.idle j (task.symm.trans none)

/-- A party that is in the middle of something has begun. -/
theorem Accounted.begun (accounted : w.Accounted) {i : ι}
    (stands : w.standing i ≠ .going (.done ())) : w.task i ≠ none :=
  fun none => stands (accounted.idle i none).2

/-- A party that hears an answer notes from there on what it notes with that answer. -/
theorem Accounted.hear (accounted : w.Accounted) {i : ι} {request : Request}
    {next : Outcome → Procedure Unit} {given : Option Outcome}
    (stands : w.standing i = .waiting request next given) (answer : Outcome) :
    (w.hear i answer next).Accounted := by
  refine accounted.of_others i (fun j different => ?_) ?_ fun more => ?_
  · simp [Traffic.hear, move, different]
  · exact accounted.begun (by simp [stands])
  · have notes := accounted.notes i (answer :: more)
    rw [stands] at notes
    simpa [Traffic.hear, move, procedure, Standing.rest, Procedure.notes] using notes

/-- **A step keeps the account of every party.** -/
theorem Accounted.step (step : Step handles heads w w') (accounted : w.Accounted) :
    w'.Accounted := by
  cases step with
  | begin i task free =>
      refine accounted.of_others i (fun j different => ?_) ?_ fun more => ?_
      · simp [move, different]
      · simp
      · have silent := accounted.notes i []
        obtain ⟨heard, stands⟩ := accounted.idle i free
        rw [procedure, free, heard, stands] at silent
        have none : theirs i w.noted = [] := by
          simpa [Standing.rest, Procedure.notes] using silent.symm
        simp [move, procedure, heard, none, Standing.rest]
  | @act a next i stands =>
      refine accounted.of_others i (fun j different => ?_) ?_ fun more => ?_
      · refine ⟨rfl, rfl, theirs_perform_ne w i next different, ?_⟩
        simp [perform, move, different]
      · exact accounted.begun (by simp [stands])
      · have notes := accounted.notes i more
        rw [stands] at notes
        rw [theirs_perform, List.append_assoc]
        simpa [perform, move, procedure, Standing.rest, Procedure.notes] using notes
  | send i stands =>
      refine accounted.of_others i (fun j different => ?_) ?_ fun more => ?_
      · simp [move, different]
      · exact accounted.begun (by simp [stands])
      · have notes := accounted.notes i more
        rw [stands] at notes
        simpa [move, procedure, Standing.rest] using notes
  | handle i answer stands _ =>
      refine accounted.of_others i (fun j different => ?_) ?_ fun more => ?_
      · simp [move, different]
      · exact accounted.begun (by simp [stands])
      · have notes := accounted.notes i more
        rw [stands] at notes
        simpa [move, procedure, Standing.rest] using notes
  | deliver i stands => exact accounted.hear stands _
  | fail i error stands => exact accounted.hear stands _
  | elapse | touch => exact ⟨accounted.notes, accounted.idle⟩

theorem accounted_of_reach {board : Board} {link : σ}
    (reach : Reach handles heads (opening board link) w) : w.Accounted := by
  induction reach with
  | refl => exact ⟨fun _ _ => rfl, fun _ _ => ⟨rfl, rfl⟩⟩
  | tail _ step ih => exact ih.step step

/-- A party has noted no more than its answers are worth. -/
theorem Accounted.prefix_worth (accounted : w.Accounted) (i : ι) :
    theirs i w.noted <+: w.worth i := by
  have notes := accounted.notes i []
  rw [List.append_nil, notes_heard] at notes
  exact ⟨_, notes.symm⟩

/-- A party that is at rest has noted all that its answers are worth. -/
theorem Accounted.eq_worth (accounted : w.Accounted) {i : ι} (atRest : (w.standing i).AtRest) :
    theirs i w.noted = w.worth i := by
  have notes := accounted.notes i []
  have silent : (w.standing i).rest.notes [] = [] := by
    match w.standing i, atRest with
    | .going (.done _), _ => rfl
    | .going (.ask _ _), _ => rfl
    | .waiting _ _ _, _ => rfl
  rw [List.append_nil, notes_heard, silent, List.append_nil] at notes
  exact notes.symm

end Accounted

/-! ## Consistent positions -/

/-- When all parties are at rest, the board shows the greatest position that the answers are worth,
of whichever party. -/
theorem known?_eq_some_iff (accounted : w.Accounted)
    {session : Str} (greatest : w.known? session = (w.notedFor session).max?)
    (atRest : ∀ i, (w.standing i).AtRest) {head : Int} :
    w.known? session = some head ↔
      (∃ i, ⟨session, head⟩ ∈ w.worth i) ∧ ∀ i n, ⟨session, n⟩ ∈ w.worth i → n ≤ head := by
  have member : ∀ n, n ∈ w.notedFor session ↔ ∃ i, ⟨session, n⟩ ∈ w.worth i := by
    intro n
    rw [mem_notedFor]
    exact exists_congr fun i => by rw [accounted.eq_worth (atRest i)]
  rw [greatest, List.max?_eq_some_iff, member]
  refine and_congr_right fun _ => ?_
  constructor
  · exact fun upper i n worth => upper n ((member n).mpr ⟨i, worth⟩)
  · intro upper n noted
    obtain ⟨i, worth⟩ := (member n).mp noted
    exact upper i n worth

/-- **A step never takes a position back.** -/
theorem known?_step (step : Step handles heads w w') {session : Str} {known : Int}
    (found : w.known? session = some known) :
    ∃ later, w'.known? session = some later ∧ known ≤ later := by
  cases step with
  | begin | send | handle | deliver | fail | elapse => exact ⟨known, found, le_rfl⟩
  | touch c other => exact ⟨known, (get?_apply_other _ other session).trans found, le_rfl⟩
  | @act a next i stands =>
      cases noted : a.position? with
      | none => exact ⟨known, (known?_perform_other w i next session noted).trans found, le_rfl⟩
      | some p =>
          rw [known?_perform w i next session noted, found]
          by_cases same : p.session = session
          · rw [if_pos same]
            exact ⟨max known p.head, rfl, le_max_left _ _⟩
          · rw [if_neg same]
            exact ⟨known, rfl, le_rfl⟩

/-- What is noted raises the flag of the session if it is news. -/
theorem sessionFlag_step (step : Step handles heads w w') {i : ι} {p : Position}
    (noted : w'.noted = w.noted ++ [(i, p)]) :
    w'.desk.board.invalidated.session = true ↔
      w.desk.board.invalidated.session = true ∨
        (Board.Change.setHeadSeq p.session p.head).IsSessionNews w.desk.board := by
  cases step with
  | begin | send | handle | deliver | fail | elapse | touch => simp [hear, move] at noted
  | @act a next j stands =>
      cases a with
      | report | announce => simp [perform, Act.position?] at noted
      | change c =>
          cases c with
          | setHeadSeq session head =>
              simp only [perform, Act.position?, Board.Change.position?, Option.toList_some,
                List.map_cons, List.map_nil, List.append_cancel_left_eq, List.cons.injEq,
                Prod.mk.injEq, and_true] at noted
              obtain ⟨_, rfl⟩ := noted
              exact Board.sessionFlag_apply w.desk.board nofun
          | _ => simp [perform, Act.position?, Board.Change.position?] at noted

/-- What is true of the positions on the board at any time. -/
structure Consistent (heads : σ → Str → Int) (w : Traffic ι σ) : Prop where
  /-- No position is ahead of the backend. -/
  behind : ∀ session known, w.known? session = some known → known ≤ heads w.desk.link session
  /-- The board shows the greatest position that has been noted. -/
  greatest : ∀ session, w.known? session = (w.notedFor session).max?
  /-- What a party has noted is what its answers are worth, as far as it has come. -/
  worth : ∀ i, theirs i w.noted <+: w.worth i
  /-- When all parties are at rest, the board shows the greatest position that any answer is
  worth. -/
  final : (∀ i, (w.standing i).AtRest) → ∀ session head,
    w.known? session = some head ↔
      (∃ i, ⟨session, head⟩ ∈ w.worth i) ∧ ∀ i n, ⟨session, n⟩ ∈ w.worth i → n ≤ head

/-- What is true of the positions on the board from one time to the next. -/
structure Advance (w w' : Traffic ι σ) : Prop where
  /-- No position is taken back. -/
  kept : ∀ session known, w.known? session = some known →
    ∃ later, w'.known? session = some later ∧ known ≤ later
  /-- A position that is noted raises the flag of the session just when it is the first of that
  session or greater than the one shown. -/
  raised : ∀ i p, w'.noted = w.noted ++ [(i, p)] →
    (w'.desk.board.invalidated.session = true ↔
      w.desk.board.invalidated.session = true ∨ w.known? p.session = none ∨
        ∃ known, w.known? p.session = some known ∧ known < p.head)

/-- **Consistent positions.**  Whatever parties do at the same time over one board, and in whatever
order their answers come, the positions on the board are consistent, no step takes one back, and
when all parties are at rest the answers that they have heard alone decide what the board shows. -/
theorem consistent_of_reach (laws : Tracks handles heads) {board : Board} {link : σ}
    (reach : Reach handles heads (opening board link) w) :
    w.Consistent heads ∧ (∀ w', Step handles heads w w' → w.Advance w') ∧
      ∀ board' link' w', Reach handles heads (opening board' link') w' →
        (∀ i, (w.standing i).AtRest) → (∀ i, (w'.standing i).AtRest) →
        (∀ i, w'.task i = w.task i ∧ w'.heard i = w.heard i) →
        ∀ session, w'.known? session = w.known? session := by
  have accounted := accounted_of_reach reach
  have greatest := greatest_of_reach reach
  refine ⟨⟨(honest_of_reach laws reach).behind, greatest, accounted.prefix_worth, ?_⟩, ?_, ?_⟩
  · exact fun atRest session head => known?_eq_some_iff accounted (greatest session) atRest
  · exact fun w' step => ⟨fun _ _ => known?_step step, fun _ _ => sessionFlag_step step⟩
  · intro board' link' w' reach' atRest atRest' alike session
    have same : ∀ i, w'.worth i = w.worth i := by
      intro i
      rw [worth, worth, (alike i).1, (alike i).2]
    refine Option.ext fun head => ?_
    rw [known?_eq_some_iff accounted (greatest session) atRest,
      known?_eq_some_iff (accounted_of_reach reach') (greatest_of_reach reach' session) atRest']
    simp only [same]

/-! ## A backend with many sessions -/

/-- A backend that keeps a head for each session: a new session starts at zero, a listing reports
the head, and an edit that was made against it moves it on. -/
inductive Ledger : (Str → Nat) → Request → Outcome → (Str → Nat) → Prop
  | created {heads : Str → Nat} {body value : Value} :
      value.field "head_seq" = .null → Ledger heads ⟨"session_create", body⟩ (.success value) heads
  | listed {heads : Str → Nat} {body value : Value} (session : Str) :
      body.field "session_id" = .str session → value.field "head_seq" = .int (heads session) →
      Ledger heads ⟨"steps_list", body⟩ (.success value) heads
  | applied {heads : Str → Nat} {body value : Value} (session : Str) :
      body.field "session_id" = .str session → body.field "base_seq" = .int (heads session) →
      value.field "applied" = .bool true → value.field "head_seq" = .int (heads session + 1) →
      Ledger heads ⟨"steps_apply_edit", body⟩ (.success value)
        (Function.update heads session (heads session + 1))

/-- The heads of such a backend. -/
def Ledger.head (heads : Str → Nat) (session : Str) : Int := heads session

theorem tracks_ledger : Tracks Ledger Ledger.head where
  nonneg heads session := Int.natCast_nonneg _
  grows heads request answer later handled := by
    cases handled with
    | created | listed => exact le_rfl
    | applied named =>
        intro session
        by_cases same : session = named
        · subst same
          simp only [Ledger.head, Function.update_self]
          omega
        · simp [Ledger.head, same]
  truthful heads request answer later handled := by
    intro value head session success reported subject
    cases handled with
    | created none =>
        cases success
        rw [none] at reported
        cases reported
    | listed named about found =>
        cases success
        have same : named = session := by simpa [Request.subject?, about, Value.str?] using subject
        rw [found] at reported
        cases reported
        exact (congrArg (Ledger.head heads) same).le
    | applied named about _ _ found =>
        cases success
        have same : named = session := by simpa [Request.subject?, about, Value.str?] using subject
        rw [found] at reported
        cases reported
        subst same
        simp [Ledger.head]

/-- A flow that opens a session, a revision of a step of that session, and a look at its steps. -/
def bustle : Fin 3 → Task
  | 0 => .produce ⟨"demo", .null⟩
  | 1 => .revise ⟨"s1", 0, .null⟩
  | 2 => .showSteps (some "s1")

/-- The steps are listed before the revision is applied.  Whether the listing arrives after the
answer to the edit or before it, the board shows the position of the edit. -/
theorem consistent_of_late_listing :
    ∃ w w' : Traffic (Fin 3) (Str → Nat),
      Reach Ledger Ledger.head (opening {} fun _ => 0) w ∧
      Reach Ledger Ledger.head (opening {} fun _ => 0) w' ∧
      w.notedFor "s1" = [0, 1, 0] ∧ w'.notedFor "s1" = [0, 0, 1] ∧
      w.known? "s1" = some 1 ∧ w'.known? "s1" = some 1 ∧
      w.Consistent Ledger.head ∧ w'.Consistent Ledger.head := by
  let head (n : Int) : Value := .object [("head_seq", .int n)]
  let done : Value := .object [("applied", .bool true), ("head_seq", .int 1)]
  have created :=
    (Relation.ReflTransGen.refl (r := Step Ledger Ledger.head)
        (a := (opening {} fun _ => 0 : Traffic (Fin 3) (Str → Nat))))
      |>.tail (.begin 0 (bustle 0) rfl)
      |>.tail (.act 0 rfl)
      |>.tail (.act 0 rfl)
      |>.tail (.send 0 rfl)
      |>.tail (.handle 0 (.success (.object [("session_id", .str "s1")])) rfl (.created rfl))
      |>.tail (.deliver 0 rfl)
      |>.tail (.act 0 rfl)
      |>.tail (.act 0 rfl)
      |>.tail (.act 0 rfl)
      |>.tail (.act 0 rfl)
  have handled := created
    |>.tail (.begin 1 (bustle 1) rfl)
    |>.tail (.act 1 rfl)
    |>.tail (.send 1 rfl)
    |>.tail (.begin 2 (bustle 2) rfl)
    |>.tail (.act 2 rfl)
    |>.tail (.send 2 rfl)
    |>.tail (.handle 2 (.success (head 0)) rfl (.listed "s1" rfl rfl))
    |>.tail (.handle 1 (.success done) rfl (.applied "s1" rfl rfl rfl rfl))
  have late := handled
    |>.tail (.deliver 1 rfl)
    |>.tail (.act 1 rfl)
    |>.tail (.deliver 2 rfl)
    |>.tail (.act 2 rfl)
  have early := handled
    |>.tail (.deliver 2 rfl)
    |>.tail (.act 2 rfl)
    |>.tail (.deliver 1 rfl)
    |>.tail (.act 1 rfl)
  obtain ⟨consistent, _, same⟩ := consistent_of_reach tracks_ledger late
  obtain ⟨consistent', _, _⟩ := consistent_of_reach tracks_ledger early
  have known : _ = some (1 : Int) := consistent.greatest "s1"
  refine ⟨_, _, late, early, rfl, rfl, known, ?_, consistent, consistent'⟩
  refine (same _ _ _ early ?_ ?_ ?_ "s1").trans known
  · exact fun | 0 => trivial | 1 => trivial | 2 => trivial
  · exact fun | 0 => trivial | 1 => trivial | 2 => trivial
  · exact fun | 0 => ⟨rfl, rfl⟩ | 1 => ⟨rfl, rfl⟩ | 2 => ⟨rfl, rfl⟩

end Traffic

end CaptureDesk
