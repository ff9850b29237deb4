import CaptureDesk.Proofs.Board.Invalidation
import CaptureDesk.Proofs.Positions.Writers
import CaptureDesk.Proofs.Transcript

/-!
# Loading a route

Loading a route shows its screen whatever the backend answers, and touches almost nothing: the board
shows the route, and only a listing on the steps screen adds to what it knows, the position that the
listing reports (`Leaves`).  All that is asked keeps to the session that was active on entry
(`Request.KeepsTo`).  A second load that hears the same answers shows the same and changes nothing,
since what it notes is known by then.

That the acts of a load are as few as this is read off its transcript once, for all routes
(`Screen.notes_of_transcript`).
-/

namespace CaptureDesk

/-! ## Requests about a session -/

/-- The commands of the screens that are about a session. -/
def sessionCommands : List Str :=
  ["capture_get_status", "timeline_get_keyframes", "evidence_get_coverage",
    "evidence_for_time_range", "steps_list", "anchors_list_for_step", "tutorial_validate_export",
    "proof_get_view", "exports_list"]

/-- A request keeps to the active session: it names a session just if its command is about one, it
names no session but the active one, and only the status of the capture is asked without one. -/
structure Request.KeepsTo (session : Option Str) (request : Request) : Prop where
  named : request.command ∈ sessionCommands ↔ (request.body.field? "session_id").isSome = true
  own : ∀ v, request.body.field? "session_id" = some v → v = Value.ofText? session
  needed : request.command ∈ sessionCommands →
    request.command = "capture_get_status" ∨ ∃ name : Str, session = some name ∧ name ≠ ""

namespace Request.KeepsTo

theorem of_named {session command : Str} {fields : List (Str × Value)}
    (real : session ≠ "") (about : command ∈ sessionCommands) :
    KeepsTo (some session) ⟨command, .object (("session_id", .str session) :: fields)⟩ where
  named := iff_of_true about rfl
  own := by
    intro name given
    cases given
    rfl
  needed _ := Or.inr ⟨session, rfl, real⟩

theorem of_plain {session : Option Str} {command : Str} {body : Value}
    (apart : command ∉ sessionCommands) (unnamed : body.field? "session_id" = none) :
    KeepsTo session ⟨command, body⟩ where
  named := iff_of_false apart (by simp [unnamed])
  own v found := by
    rw [unnamed] at found
    cases found
  needed about := absurd about apart

end Request.KeepsTo

namespace Screen

/-- A screen about the active session is the absent one, or is loaded for a session with a name. -/
theorem aboutSession_cases (session : Option Str) (absent : Screen)
    (load : Str → Procedure Screen) :
    ((session = none ∨ session = some (Str.plain "")) ∧
      aboutSession session absent load = .done absent) ∨
    ∃ name : Str, session = some name ∧ name ≠ "" ∧
      aboutSession session absent load = load name := by
  cases session with
  | none => exact Or.inl ⟨Or.inl rfl, rfl⟩
  | some name =>
      by_cases blank : name = ""
      · subst blank
        exact Or.inl ⟨Or.inr rfl, rfl⟩
      · exact Or.inr ⟨name, rfl, blank, aboutSession_named blank absent load⟩

theorem asks_aboutSession {Q : Option Str → Request → Prop} {session : Option Str}
    {absent : Screen} {load : Str → Procedure Screen}
    (asks : ∀ name : Str, name ≠ "" → (load name).Asks (Q (some name))) :
    (aboutSession session absent load).Asks (Q session) := by
  rcases aboutSession_cases session absent load with ⟨-, same⟩ | ⟨name, rfl, real, same⟩
  · rw [same]
    trivial
  · rw [same]
    exact asks name real

theorem asks_verifyRows {session : Option Str} (rows : List Value) :
    (verifyRows rows).Asks (Request.KeepsTo session) := by
  induction rows with
  | nil => trivial
  | cons row rest ih =>
      exact .bind (.request (.of_plain (by decide) rfl)) fun _ => .bind ih fun _ => trivial

theorem asks_loadCapture (session : Option Str) :
    (loadCapture session).Asks (Request.KeepsTo session) := by
  have about : .plain "capture_get_status" ∈ sessionCommands := by decide
  refine .bind (.request ⟨iff_of_true about rfl, ?_, fun _ => Or.inl rfl⟩) fun answer => ?_
  · intro name given
    cases given
    rfl
  · cases answer <;>
    · dsimp only
      split
      · trivial
      · trivial
      · rename_i name blank
        have real : name ≠ "" := fun same => blank (by rw [same])
        exact .bind (.request (.of_named real (by decide))) fun _ => trivial

section Named

variable {session : Str} (real : session ≠ "")

include real

theorem asks_loadEvidence : (loadEvidence session).Asks (Request.KeepsTo (some session)) :=
  .bind (.request (.of_named real (by decide))) fun _ =>
    .bind (.request (.of_named real (by decide))) fun _ => trivial

theorem asks_loadSteps : (loadSteps session).Asks (Request.KeepsTo (some session)) := by
  refine .bind (.request (.of_named real (by decide))) fun listed => ?_
  cases listed <;> trivial

theorem asks_loadAnchors : (loadAnchors session).Asks (Request.KeepsTo (some session)) := by
  refine .bind (.request (.of_named real (by decide))) fun listing => ?_
  split
  · trivial
  · exact .bind (.request (.of_named real (by decide))) fun _ => trivial

theorem asks_loadSlicerStudio :
    (loadSlicerStudio session).Asks (Request.KeepsTo (some session)) := by
  refine .bind (.request (.of_named real (by decide))) fun answer => ?_
  cases answer <;> trivial

theorem asks_loadProofLedger :
    (loadProofLedger session).Asks (Request.KeepsTo (some session)) := by
  refine .bind (.request (.of_named real (by decide))) fun answer => ?_
  cases answer with
  | failure error => trivial
  | success ledger =>
      exact .bind (.request (.of_named real (by decide))) fun _ =>
        .bind (asks_verifyRows _) fun _ => trivial

end Named

/-- Whatever a screen asks keeps to the session that it is about. -/
theorem asks_load (route : Route) (session : Option Str) :
    (load route session).Asks (Request.KeepsTo session) := by
  have plain {command : String} {body : Value} (apart : .plain command ∉ sessionCommands)
      (unnamed : body.field? "session_id" = none) :
      (Procedure.request command body).Asks (Request.KeepsTo session) :=
    .request (.of_plain apart unnamed)
  cases route with
  | permissions =>
      exact .bind (plain (by decide) rfl) fun _ => .bind (plain (by decide) rfl) fun _ => trivial
  | capture => exact asks_loadCapture session
  | modelDock =>
      exact .bind (plain (by decide) rfl) fun _ => .bind (plain (by decide) rfl) fun _ =>
        .bind (plain (by decide) rfl) fun _ => trivial
  | agentPlant => exact .bind (plain (by decide) rfl) fun _ => trivial
  | evidence => exact asks_aboutSession fun _ => asks_loadEvidence
  | steps => exact asks_aboutSession fun _ => asks_loadSteps
  | anchors => exact asks_aboutSession fun _ => asks_loadAnchors
  | slicerStudio => exact asks_aboutSession fun _ => asks_loadSlicerStudio
  | proofLedger => exact asks_aboutSession fun _ => asks_loadProofLedger

/-! ## What a load notes -/

/-- The request for the steps of a session. -/
def stepsRequest (session : Str) : Request := ⟨"steps_list", scope session⟩

/-- The position that a listing reports, zero when it reports none. -/
def listedHead (listing : Value) : Int := (listing.field "head_seq").int?.getD 0

/-- `Notes route session turns acts`: in loading the screen of a route about a session, the turns
`turns` are taken with the backend, and `acts` are done. -/
inductive Notes : Route → Option Str → List Turn → List Act → Prop
  | listed {session : Str} (listing : Value) : session ≠ "" →
      Notes .steps (some session) [⟨stepsRequest session, .success listing⟩]
        [.change (.setHeadSeq session (listedHead listing))]
  | failed {session : Str} (error : Failure) : session ≠ "" →
      Notes .steps (some session) [⟨stepsRequest session, .failure error⟩] []
  | absent {session : Option Str} : session = none ∨ session = some (Str.plain "") →
      Notes .steps session [] []
  | other {route : Route} {session : Option Str} {turns : List Turn} : route ≠ .steps →
      Notes route session turns []

section Transcripts

variable {route : Route} {session : Option Str} {turns : List Turn} {acts : List Act}
  {screen : Screen}

theorem notes_of_loadSteps {name : Str} (real : name ≠ "")
    (transcript : Transcript (loadSteps name) turns acts screen) :
    Notes .steps (some name) turns acts := by
  obtain ⟨answer, rest, rfl, later⟩ := Transcript.of_request_bind transcript
  cases answer with
  | failure error =>
      obtain ⟨rfl, rfl, -⟩ := Transcript.of_done later
      exact .failed error real
  | success listing =>
      obtain ⟨_, _, _, _, _, change, done, rfl, rfl⟩ := Transcript.of_bind later
      obtain ⟨rfl, rfl⟩ := Transcript.of_change change
      obtain ⟨rfl, rfl, -⟩ := Transcript.of_done done
      exact .listed listing real

/-- Only a listing on the steps screen is noted. -/
theorem notes_of_transcript (transcript : Transcript (load route session) turns acts screen) :
    Notes route session turns acts := by
  by_cases steps : route = .steps
  · subst steps
    rw [load] at transcript
    rcases aboutSession_cases session (.steps [] 0) loadSteps with
      ⟨absent, same⟩ | ⟨name, rfl, real, same⟩
    · rw [same] at transcript
      obtain ⟨rfl, rfl, -⟩ := Transcript.of_done transcript
      exact .absent absent
    · rw [same] at transcript
      exact notes_of_loadSteps real transcript
  · have only : (load route session).Only (fun _ => False) fun _ => True :=
      only_load session fun same => absurd same steps
    obtain rfl : acts = [] := List.eq_nil_iff_forall_not_mem.mpr (only.transcript transcript)
    exact .other steps

end Transcripts

end Screen

/-! ## What a load leaves -/

namespace Board

/-- `b.HeadRaised session head later`: from `b` to `later` a position of a session has become known.
The greater of the positions is kept, the flag of the session goes up on news, and that is all. -/
structure HeadRaised (b : Board) (session : Str) (head : Int) (later : Board) : Prop where
  known : later.headSeqs.get? session =
    some (((b.headSeqs.get? session).map (max · head)).getD head)
  others : ∀ other, other ≠ session → later.headSeqs.get? other = b.headSeqs.get? other
  flag : later.invalidated.session = true ↔
    b.invalidated.session = true ∨ Change.IsSessionNews b (.setHeadSeq session head)
  still : ¬ Change.IsSessionNews b (.setHeadSeq session head) → later = b
  rest : later = { b with
    headSeqs := later.headSeqs
    invalidated := { b.invalidated with session := later.invalidated.session } }

theorem headRaised_setHeadSeq (b : Board) (session : Str) (head : Int) :
    b.HeadRaised session head (b.setHeadSeq session head) where
  known := by rw [get?_setHeadSeq, if_pos rfl]
  others other apart := by rw [get?_setHeadSeq, if_neg apart.symm]
  flag := sessionFlag_apply b (c := .setHeadSeq session head) nofun
  still old := by
    rw [Change.IsSessionNews, ← isNews_iff] at old
    rw [setHeadSeq, if_neg old]
  rest := by
    unfold setHeadSeq
    split <;> rfl

@[simp] theorem activeRoute_setHeadSeq (b : Board) (session : Str) (head : Int) :
    (b.setHeadSeq session head).activeRoute = b.activeRoute := by
  unfold setHeadSeq
  split <;> rfl

@[simp] theorem activeSession_setHeadSeq (b : Board) (session : Str) (head : Int) :
    (b.setHeadSeq session head).activeSession = b.activeSession := by
  unfold setHeadSeq
  split <;> rfl

theorem setActiveRoute_of_eq {b : Board} {route : Str} (shown : b.activeRoute = route) :
    b.setActiveRoute route = b := by
  subst shown
  rfl

/-- A position that has been noted is no news. -/
theorem setHeadSeq_idem (b : Board) (session : Str) (head : Int) :
    (b.setHeadSeq session head).setHeadSeq session head = b.setHeadSeq session head := by
  refine (headRaised_setHeadSeq _ session head).still ?_
  rw [Change.IsSessionNews, (headRaised_setHeadSeq b session head).known]
  intro news
  rcases news with absent | ⟨known, same, less⟩
  · cases absent
  · cases same
    cases before : b.headSeqs.get? session with
    | none => simp [before] at less
    | some n =>
        simp only [before, Option.map_some, Option.getD_some] at less
        omega

end Board

section Loading

open Screen

/-- The board that a load of a route leaves: it shows the route, and when the steps screen of a
session got a listing, the position that this reports is known. -/
inductive Leaves (o : Oracle) (d : Desk (List Request)) (route : Route) : Board → Prop
  | noted {session : Str} {listing : Value} {later : Board} :
      route = .steps → d.board.activeSession = some session → session ≠ "" →
      o (d.link ++ [stepsRequest session]) = .success listing →
      (d.board.setActiveRoute route.name).HeadRaised session (listedHead listing) later →
      Leaves o d route later
  | untouched :
      (∀ session listing, route = .steps → d.board.activeSession = some session → session ≠ "" →
        o (d.link ++ [stepsRequest session]) ≠ .success listing) →
      Leaves o d route (d.board.setActiveRoute route.name)

/-- Over the oracle `o`, a load of a route from the desk `d` takes `turns`, shows `screen` and
leaves the desk `after`; and a later load from the board that is left, if it hears the same, shows
the same and changes nothing. -/
structure Loaded (o : Oracle) (d : Desk (List Request)) (route : Route) (screen : Screen)
    (turns : List Turn) (after : Desk (List Request)) : Prop where
  run : d.loadRoute o.link route.name = (.ok screen, after)
  gave : o.Gave d.link turns
  link : after.link = d.link ++ turns.map Turn.request
  reports : after.reports = d.reports
  announced : after.announced = d.announced
  shows : after.board.activeRoute = route.name
  board : Leaves o d route after.board
  keeps : ∀ turn ∈ turns, turn.request.KeepsTo d.board.activeSession
  again : ∀ (o' : Oracle) (d' : Desk (List Request)), d'.board = after.board →
    o'.Gave d'.link turns →
    d'.loadRoute o'.link route.name =
      (.ok screen, { d' with link := d'.link ++ turns.map Turn.request })

/-- The names of routes. -/
def Route.names : List Str := Route.all.map fun route => .plain route.name

theorem Route.ofName?_name (route : Route) : Route.ofName? route.name = some route := by
  cases route <;> decide

theorem loadRoute_name {σ : Type} (link : Link σ) (d : Desk σ) (route : Route) :
    d.loadRoute link route.name =
      (Screen.load route d.board.activeSession).run link
        (d.perform (.change (.setActiveRoute route.name))) := by
  rw [Desk.loadRoute, Route.ofName?_name]

theorem loadRoute_unknown {σ : Type} (link : Link σ) (d : Desk σ) {name : Str}
    (unknown : name ∉ Route.names) :
    d.loadRoute link name = (.error (.unknownRoute name), d) := by
  have none : Route.ofName? name = none := by
    refine List.find?_eq_none.mpr ?_
    intro route member same
    exact unknown (List.mem_map.mpr ⟨route, member, by simpa using same⟩)
  rw [Desk.loadRoute, none]

variable {o : Oracle} {d : Desk (List Request)} {route : Route} {session : Option Str}
  {turns : List Turn} {acts : List Act}

/-- The desk on which the screen of a route is filled. -/
def Desk.enter (d : Desk (List Request)) (route : Route) : Desk (List Request) :=
  d.perform (.change (.setActiveRoute route.name))

theorem Screen.Notes.leaves (notes : Notes route session turns acts)
    (active : d.board.activeSession = session) (gave : o.Gave d.link turns) :
    Leaves o d route ((d.enter route).resume turns acts).board := by
  cases notes with
  | listed listing real =>
      obtain ⟨answered, -⟩ := Oracle.gave_cons.mp gave
      exact .noted rfl active real answered.symm (Board.headRaised_setHeadSeq _ _ _)
  | failed error real =>
      obtain ⟨answered, -⟩ := Oracle.gave_cons.mp gave
      refine .untouched fun name listing _ same _ given => ?_
      cases active.symm.trans same
      cases answered.trans given
  | absent absent =>
      refine .untouched fun name listing _ same real _ => ?_
      rw [active] at same
      subst same
      rcases absent with absent | absent
      · cases absent
      · cases absent
        exact real rfl
  | other apart => exact .untouched fun _ _ same => absurd same apart

/-- Loading reports and announces nothing. -/
theorem Screen.Notes.quiet (notes : Notes route session turns acts) :
    ((d.enter route).resume turns acts).reports = d.reports ∧
      ((d.enter route).resume turns acts).announced = d.announced := by
  cases notes <;> exact ⟨rfl, rfl⟩

/-- What a load has noted is known, so that a load from the board that it leaves changes nothing. -/
theorem Screen.Notes.settled (notes : Notes route session turns acts)
    (active : d.board.activeSession = session) {d' : Desk (List Request)}
    (board : d'.board = ((d.enter route).resume turns acts).board) :
    d'.board.activeRoute = route.name ∧ d'.board.activeSession = session ∧
      (d'.enter route).resume turns acts =
        { d' with link := d'.link ++ turns.map Turn.request } := by
  rcases d' with ⟨board', link, reports, announced⟩
  dsimp only at board
  subst board
  cases notes with
  | @listed name listing real =>
      let shown := d.board.setActiveRoute Route.steps.name
      have route : (shown.setHeadSeq name (listedHead listing)).activeRoute = Route.steps.name :=
        shown.activeRoute_setHeadSeq name (listedHead listing)
      have same : ((shown.setHeadSeq name (listedHead listing)).setActiveRoute
          Route.steps.name).setHeadSeq name (listedHead listing) =
            shown.setHeadSeq name (listedHead listing) := by
        rw [Board.setActiveRoute_of_eq route, Board.setHeadSeq_idem]
      refine ⟨route, (shown.activeSession_setHeadSeq _ _).trans active, ?_⟩
      exact congrArg (fun board => ({ board, link := _, reports, announced } : Desk _)) same
  | failed | absent | other => exact ⟨rfl, active, rfl⟩

/-- **A load of a route shows its screen and touches almost nothing.**  From every desk and over
every oracle, each route is loaded: its screen is shown, the board is left with no more than the
position that a listing on the steps screen reports, everything that was asked keeps to the active
session, and a load that hears the same shows the same and changes nothing.  A name that is no route
is refused, and nothing is asked or changed. -/
theorem loaded_of_route (o : Oracle) (d : Desk (List Request)) :
    (∀ route, ∃ screen turns after, Loaded o d route screen turns after) ∧
      ∀ name : Str, name ∉ Route.names →
        d.loadRoute o.link name = (.error (.unknownRoute name), d) := by
  refine ⟨fun route => ?_, fun name unknown => loadRoute_unknown o.link d unknown⟩
  obtain ⟨turns, acts, screen, transcript, gave⟩ :=
    o.exists_transcript (Screen.load route d.board.activeSession) d.link
  have notes := Screen.notes_of_transcript transcript
  refine ⟨screen, turns, (d.enter route).resume turns acts, ?_⟩
  exact
    { run := by
        rw [loadRoute_name]
        exact transcript.run gave
      gave
      link := Desk.link_resume _ _ _
      reports := notes.quiet.1
      announced := notes.quiet.2
      shows := (notes.settled rfl (rfl : ((d.enter route).resume turns acts).board = _)).1
      board := notes.leaves rfl gave
      keeps := (Screen.asks_load route _).transcript transcript
      again := by
        intro o' d' board gave'
        obtain ⟨-, active, same⟩ := notes.settled rfl board
        rw [loadRoute_name, active, ← same]
        exact transcript.run gave' }

/-- A backend that knows the steps of its sessions and nothing else. -/
def listsSteps : Oracle := fun asked =>
  match asked.getLast? with
  | some ⟨"steps_list", _⟩ =>
      .success (.object
        [("head_seq", .int 7), ("steps", .array [.null, .object [("title", .str "Open")]])])
  | _ => .failure { code := .notFound, message := "unknown" }

/-- A position beyond the known one is noted on the steps screen, and raises the flag. -/
theorem loaded_steps_listing :
    let d : Desk (List Request) :=
      { board := { activeSession := some "s1", headSeqs := [("s2", 9), ("s1", 3)] }, link := [] }
    (∃ screen turns after, Loaded listsSteps d .steps screen turns after) ∧
      (d.loadRoute listsSteps.link "steps").1 =
        .ok (.steps [stepRow (.object [("title", .str "Open")])] 7) ∧
      (d.loadRoute listsSteps.link "steps").2.board =
        { d.board with
          activeRoute := "steps"
          headSeqs := [("s2", 9), ("s1", 7)]
          invalidated := { session := true } } ∧
      .plain "nowhere" ∉ Route.names ∧
      d.loadRoute listsSteps.link "nowhere" = (.error (.unknownRoute "nowhere"), d) := by
  intro d
  have unknown : .plain "nowhere" ∉ Route.names := by decide
  obtain ⟨loaded, refused⟩ := loaded_of_route listsSteps d
  exact ⟨loaded .steps, by decide +kernel, by decide +kernel, unknown, refused _ unknown⟩

end Loading

end CaptureDesk
