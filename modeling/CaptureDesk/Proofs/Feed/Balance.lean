import CaptureDesk.Proofs.Feed.Verdict
import Mathlib

/-!
# Where a line is counted

A line that is not blank meets one fate (`Arrival.Meets`): it is taken in on a channel, or counted
as malformed under one name, or ignored because it is for no channel, or the monitor chokes on it.
All that can become of a line is said once, by `Monitor.Lands`; the rest is read off from it, so
that after any lines the accounts balance.

The accounts of a feed have fixed places.  A `Ledger` is a table instead, in which an account is
opened when something is first counted under a name.  It agrees with the feed under every name, and
no line opens an account in it but that for stray lines.
-/

namespace CaptureDesk

/-! ## Accounts by name -/

theorem Channel.ofName?_name (c : Channel) : ofName? c.name = some c := by
  cases c <;> rfl

theorem Channel.name_of_ofName? {name : Str} {c : Channel} (found : ofName? name = some c) :
    c.name = name := by
  simpa using List.find?_some found

/-- The name of the account for stray lines. -/
def strayName : Str := "unknown"

/-- The names under which something is counted. -/
def accountNames : List Str := Channel.all.map (fun c => .plain c.name) ++ [strayName]

theorem Channel.name_mem_accountNames (c : Channel) : .plain c.name ∈ accountNames := by
  cases c <;> decide

namespace Feed

theorem tallyNamed_update (f : Feed) (c : Channel) (change : Tally → Tally) (name : Str) :
    (f.update c change).tallyNamed name =
      if name = c.name then change (f.tallyNamed name) else f.tallyNamed name := by
  unfold tallyNamed
  cases found : Channel.ofName? name with
  | none =>
      have other : name ≠ c.name := by
        rintro rfl
        rw [Channel.ofName?_name] at found
        cases found
      simp [other]
  | some d =>
      obtain rfl := Channel.name_of_ofName? found
      have same : Str.plain d.name = .plain c.name ↔ c = d := by cases c <;> cases d <;> decide
      simp only [tally_update, same]

/-- The account for stray lines with a change. -/
theorem tallyNamed_unknown (f : Feed) (change : Tally → Tally) (name : Str) :
    ({ f with unknown := change f.unknown } : Feed).tallyNamed name =
      if name = strayName then change (f.tallyNamed name) else f.tallyNamed name := by
  unfold tallyNamed
  cases found : Channel.ofName? name with
  | none =>
      by_cases stray : name = strayName
      · subst stray
        rfl
      · simp [stray, show name ≠ "unknown" from stray]
  | some d =>
      have other : name ≠ strayName := by
        rintro rfl
        rw [show Channel.ofName? strayName = none from rfl] at found
        cases found
      rw [if_neg other]
      cases d <;> rfl

/-- The events on all channels. -/
def eventCount (f : Feed) : Nat :=
  (Channel.all.map fun c => (f.tally c).eventCount).sum

/-- What is malformed on all channels, and the stray lines. -/
def malformedCount (f : Feed) : Nat :=
  (Channel.all.map fun c => (f.tally c).malformedCount).sum + f.unknown.malformedCount

/-- One more of what a change adds on one channel is one more of it altogether. -/
theorem eventCount_update {f : Feed} {c : Channel} {change : Tally → Tally} {k : Nat}
    (adds : ∀ t, (change t).eventCount = t.eventCount + k) :
    (f.update c change).eventCount = f.eventCount + k := by
  cases c <;> simp only [eventCount, Channel.all, List.map, tally, update, adds, List.sum_cons,
    List.sum_nil] <;> omega

theorem malformedCount_update {f : Feed} {c : Channel} {change : Tally → Tally} {k : Nat}
    (adds : ∀ t, (change t).malformedCount = t.malformedCount + k) :
    (f.update c change).malformedCount = f.malformedCount + k := by
  cases c <;> simp only [malformedCount, Channel.all, List.map, tally, update, adds, List.sum_cons,
    List.sum_nil] <;> omega

end Feed

/-! ## What can become of a line -/

/-- Whether a line names a channel that there is not. -/
def namesOther (text : Str) : Bool :=
  match Json.read (Text.stripBy CodePoint.isBlank text.points) with
  | .error _ => false
  | .ok record =>
      match record.field "channel" with
      | .str name => (Channel.ofName? name).isNone
      | _ => false

namespace Monitor

variable (m : Monitor) (text : Str)

/-- All that can become of a line. -/
inductive Lands : Arrival → Prop
  | blank : text.isBlank = true → namesOther text = false →
      Lands { monitor := m, result := .ok false }
  | stray : text.isBlank = false → namesOther text = false → Lands m.stray
  | ignored : text.isBlank = false → namesOther text = true →
      Lands { monitor := m, result := .ok false }
  | accepted {c : Channel} {envelope : Envelope} :
      text.isBlank = false → namesOther text = false → Lands (m.accept c envelope)
  | rejected {c : Channel} :
      text.isBlank = false → namesOther text = false → Lands (m.reject c)
  | choked {fault : Fault} : text.isBlank = false → namesOther text = false →
      Lands { monitor := m, result := .error fault }

theorem lands_ingestLine : m.Lands text (m.ingestLine text) := by
  by_cases blank : Text.stripBy CodePoint.isBlank text.points = []
  · rw [ingestLine, blank]
    refine .blank (Str.isBlank_eq_true_iff.mpr blank) ?_
    rw [namesOther, blank]
    rfl
  have filled : text.isBlank = false := by
    rw [← Bool.not_eq_true, Str.isBlank_eq_true_iff]
    exact blank
  rw [ingestLine_of_filled blank]
  cases read : Json.read (Text.stripBy CodePoint.isBlank text.points) with
  | error fault =>
      have noName : namesOther text = false := by rw [namesOther, read]
      cases fault with
      | malformed => exact .stray filled noName
      | tooManyDigits => exact .choked filled noName
  | ok record =>
      cases named : record.field "channel" with
      | str name =>
          simp only [named, ingest_eq]
          cases found : Channel.ofName? name with
          | none => exact .ignored filled (by simp [namesOther, read, named, found])
          | some c =>
              have noName : namesOther text = false := by simp [namesOther, read, named, found]
              simp only [takeIn]
              cases Envelope.read c (record.field "envelope") with
              | error fault => exact .choked filled noName
              | ok envelope =>
                  cases envelope with
                  | none => exact .rejected filled noName
                  | some envelope => exact .accepted filled noName
      | null | bool | int | float | moment | array | object =>
          simp only [named]
          exact .stray filled (by simp [namesOther, read, named])

end Monitor

/-! ## Fates -/

/-- What becomes of a line that is not blank. -/
inductive Fate where
  /-- It is an event of a channel. -/
  | taken (c : Channel)
  /-- It is malformed, and counted under a name. -/
  | counted (account : Str)
  /-- It is for a channel that there is not. -/
  | ignored
  /-- It has no answer. -/
  | choked
  deriving DecidableEq, Repr

/-- A line meets a fate at a monitor, with an arrival. -/
def Arrival.Meets (m : Monitor) (text : Str) (a : Arrival) : Fate → Prop
  | .taken c =>
      a.result = .ok true ∧ ∀ name,
        (a.monitor.feed.tallyNamed name).eventCount =
            (m.feed.tallyNamed name).eventCount + (if name = c.name then 1 else 0) ∧
          (a.monitor.feed.tallyNamed name).malformedCount = (m.feed.tallyNamed name).malformedCount
  | .counted account =>
      a.result = .ok false ∧ account ∈ accountNames ∧ a.monitor.board = m.board ∧ ∀ name,
        a.monitor.feed.tallyNamed name =
          { m.feed.tallyNamed name with
            malformedCount :=
              (m.feed.tallyNamed name).malformedCount + if name = account then 1 else 0 }
  | .ignored => a.result = .ok false ∧ namesOther text = true ∧ a.monitor = m
  | .choked => (∃ fault, a.result = .error fault) ∧ a.monitor = m

theorem Tally.eventCount_advance (t : Tally) (seq : Int) :
    (t.advance seq).eventCount = t.eventCount + 1 := by
  unfold advance
  split
  · rfl
  · split <;> rfl

theorem Tally.malformedCount_advance (t : Tally) (seq : Int) :
    (t.advance seq).malformedCount = t.malformedCount := by
  unfold advance
  split
  · rfl
  · split <;> rfl

section Fates

variable {m : Monitor} {text : Str} {a : Arrival}

theorem meets_accept (m : Monitor) (text : Str) (c : Channel) (envelope : Envelope) :
    (m.accept c envelope).Meets m text (.taken c) := by
  refine ⟨rfl, ?_⟩
  intro name
  have account : (m.accept c envelope).monitor.feed.tallyNamed name =
      if name = c.name then (m.feed.tallyNamed name).advance envelope.seq
      else m.feed.tallyNamed name := Feed.tallyNamed_update ..
  rw [account]
  by_cases own : name = c.name
  · simp only [own, if_true, Tally.eventCount_advance, Tally.malformedCount_advance, and_self]
  · simp only [own, if_false, Nat.add_zero, and_self]

/-- What is dropped under a name has met its fate. -/
theorem meets_counted {account : Str} (known : account ∈ accountNames)
    (result : a.result = .ok false) (board : a.monitor.board = m.board)
    (tally : ∀ name, a.monitor.feed.tallyNamed name =
      if name = account then (m.feed.tallyNamed name).drop else m.feed.tallyNamed name) :
    a.Meets m text (.counted account) := by
  refine ⟨result, known, board, ?_⟩
  intro name
  rw [tally]
  by_cases own : name = account
  · rw [if_pos own, if_pos own]
    rfl
  · rw [if_neg own, if_neg own]
    rfl

theorem Monitor.Lands.exists_meets (lands : m.Lands text a) (filled : text.isBlank = false) :
    ∃ fate, a.Meets m text fate := by
  cases lands with
  | blank blank _ =>
      rw [filled] at blank
      cases blank
  | stray =>
      exact ⟨_, meets_counted (by decide) rfl rfl (Feed.tallyNamed_unknown m.feed Tally.drop)⟩
  | ignored _ other => exact ⟨.ignored, rfl, other, rfl⟩
  | accepted => exact ⟨_, meets_accept m text _ _⟩
  | rejected =>
      rename_i c _ _
      exact ⟨_, meets_counted c.name_mem_accountNames rfl rfl
        (Feed.tallyNamed_update m.feed c Tally.drop)⟩
  | choked => exact ⟨.choked, ⟨_, rfl⟩, rfl⟩

/-- What a line that meets a fate is answered with. -/
def Fate.answer : Fate → Option Bool
  | taken _ => some true
  | counted _ | ignored => some false
  | choked => none

theorem Arrival.Meets.answer {fate : Fate} (meets : a.Meets m text fate) :
    a.result.toOption = fate.answer := by
  cases fate with
  | taken c => rw [meets.1]; rfl
  | counted account => rw [meets.1]; rfl
  | ignored => rw [meets.1]; rfl
  | choked =>
      obtain ⟨⟨fault, result⟩, _⟩ := meets
      rw [result]
      rfl

theorem Channel.name_injective {c d : Channel} (same : c.name = d.name) : c = d := by
  have found := congrArg (ofName? ∘ Str.plain) same
  dsimp only [Function.comp_apply] at found
  rw [ofName?_name, ofName?_name] at found
  exact Option.some.inj found

/-- What is counted under a name is not left alone. -/
theorem not_counted_of_same {account : Str} (counted : a.Meets m text (.counted account))
    (same : a.monitor = m) : False := by
  have account := counted.2.2.2 account
  rw [same, if_pos rfl] at account
  have count := congrArg Tally.malformedCount account
  exact absurd count (Nat.ne_add_one _)

/-- Two different fates are never met together. -/
theorem Arrival.Meets.unique {fate other : Fate} (meets : a.Meets m text fate)
    (meets' : a.Meets m text other) : fate = other := by
  have answer : fate.answer = other.answer := meets.answer.symm.trans meets'.answer
  cases fate with
  | taken c =>
      cases other with
      | taken d =>
          have here := (meets.2 c.name).1
          rw [(meets'.2 c.name).1, if_pos rfl] at here
          by_cases same : Str.plain c.name = .plain d.name
          · rw [Channel.name_injective (Str.plain.inj same)]
          · rw [if_neg same] at here
            omega
      | counted | ignored | choked => cases answer
  | counted account =>
      cases other with
      | counted account' =>
          have here := congrArg Tally.malformedCount (meets.2.2.2 account)
          rw [meets'.2.2.2 account] at here
          by_cases same : account = account'
          · rw [same]
          · simp only [if_pos, if_neg same] at here
            omega
      | ignored => exact (not_counted_of_same meets meets'.2.2).elim
      | taken | choked => cases answer
  | ignored =>
      cases other with
      | counted => exact (not_counted_of_same meets' meets.2.2).elim
      | ignored => rfl
      | taken | choked => cases answer
  | choked =>
      cases other with
      | choked => rfl
      | taken | counted | ignored => cases answer

/-- What is not accepted leaves the board, and all accounts but for what is malformed. -/
theorem Monitor.Lands.untouched (lands : m.Lands text a) (refused : a.result ≠ .ok true) :
    a.monitor.board = m.board ∧ ∀ name, ∃ count,
      a.monitor.feed.tallyNamed name = { m.feed.tallyNamed name with malformedCount := count } := by
  have dropped : ∀ {account : Str} {after : Feed},
      (∀ name, after.tallyNamed name =
        if name = account then (m.feed.tallyNamed name).drop else m.feed.tallyNamed name) →
      ∀ name, ∃ count,
        after.tallyNamed name = { m.feed.tallyNamed name with malformedCount := count } := by
    intro account after tally name
    rw [tally]
    split
    · exact ⟨_, rfl⟩
    · exact ⟨_, rfl⟩
  cases lands with
  | blank | ignored | choked => exact ⟨rfl, fun name => ⟨_, rfl⟩⟩
  | stray => exact ⟨rfl, dropped (Feed.tallyNamed_unknown m.feed Tally.drop)⟩
  | accepted => exact absurd rfl refused
  | rejected => exact ⟨rfl, dropped (Feed.tallyNamed_update m.feed _ Tally.drop)⟩

end Fates

/-! ## Totals -/

namespace Arrival

/-- Whether something was accepted. -/
def isTaken (a : Arrival) : Bool :=
  match a.result with
  | .ok taken => taken
  | .error _ => false

/-- Whether there was no answer. -/
def isFault (a : Arrival) : Bool :=
  match a.result with
  | .ok _ => false
  | .error _ => true

end Arrival

namespace Monitor

variable {m : Monitor} {text : Str} {a : Arrival}

theorem Lands.events (lands : m.Lands text a) :
    a.monitor.feed.eventCount = m.feed.eventCount + if a.isTaken then 1 else 0 := by
  cases lands with
  | blank | stray | ignored | choked => rfl
  | accepted => exact Feed.eventCount_update fun t => t.eventCount_advance _
  | rejected => exact Feed.eventCount_update fun t => rfl

/-- A line that is not blank is accepted, or one more that is malformed, or for a channel that there
is not, or has no answer. -/
theorem Lands.total (lands : m.Lands text a) :
    (if a.isTaken then 1 else 0) + a.monitor.feed.malformedCount +
        (if namesOther text then 1 else 0) + (if a.isFault then 1 else 0) =
      m.feed.malformedCount + if text.isBlank then 0 else 1 := by
  cases lands with
  | blank blank own => simp [blank, own, Arrival.isTaken, Arrival.isFault]
  | ignored filled other => simp [filled, other, Arrival.isTaken, Arrival.isFault]
  | choked filled own => simp [filled, own, Arrival.isTaken, Arrival.isFault]
  | stray filled own =>
      have taken : m.stray.isTaken = false := rfl
      have fault : m.stray.isFault = false := rfl
      have more : m.stray.monitor.feed.malformedCount = m.feed.malformedCount + 1 := rfl
      simp only [taken, fault, more, filled, own, Bool.false_eq_true, if_false]
      omega
  | accepted filled own =>
      rename_i c envelope
      have taken : (m.accept c envelope).isTaken = true := rfl
      have fault : (m.accept c envelope).isFault = false := rfl
      have same : (m.accept c envelope).monitor.feed.malformedCount = m.feed.malformedCount + 0 :=
        Feed.malformedCount_update fun t => t.malformedCount_advance envelope.seq
      simp only [taken, fault, same, filled, own, Bool.false_eq_true, if_false, if_true]
      omega
  | rejected filled own =>
      rename_i c
      have taken : (m.reject c).isTaken = false := rfl
      have fault : (m.reject c).isFault = false := rfl
      have more : (m.reject c).monitor.feed.malformedCount = m.feed.malformedCount + 1 :=
        Feed.malformedCount_update fun t => rfl
      simp only [taken, fault, more, filled, own, Bool.false_eq_true, if_false]
      omega

/-- The arrivals of lines that come one after another. -/
def arrivals (m : Monitor) : List Str → List Arrival
  | [] => []
  | text :: rest => m.ingestLine text :: (m.ingestLine text).monitor.arrivals rest

theorem run_lines_cons (m : Monitor) (text : Str) (rest : List Str) :
    m.run ((text :: rest).map .line) = (m.ingestLine text).monitor.run (rest.map .line) := rfl

theorem events_run (m : Monitor) (lines : List Str) :
    (m.run (lines.map .line)).feed.eventCount =
      m.feed.eventCount + (m.arrivals lines).countP Arrival.isTaken := by
  induction lines generalizing m with
  | nil => rfl
  | cons text rest ih =>
      rw [run_lines_cons, ih, (m.lands_ingestLine text).events, arrivals, List.countP_cons]
      omega

theorem total_run (m : Monitor) (lines : List Str) :
    (m.arrivals lines).countP Arrival.isTaken + (m.run (lines.map .line)).feed.malformedCount +
        lines.countP namesOther + (m.arrivals lines).countP Arrival.isFault =
      m.feed.malformedCount + lines.countP fun text => !text.isBlank := by
  induction lines generalizing m with
  | nil => simp [arrivals, run]
  | cons text rest ih =>
      have first := (m.lands_ingestLine text).total
      have later := ih (m.ingestLine text).monitor
      rw [run_lines_cons, arrivals]
      simp only [List.countP_cons]
      have filled : (if (!text.isBlank) = true then 1 else 0) =
          if text.isBlank = true then 0 else 1 := by
        cases text.isBlank <;> rfl
      omega

/-- Taking lines in counts those that are accepted, if none ends it. -/
theorem ingestLines_eq_ok {m final : Monitor} {lines : List Str} {before accepted : Nat}
    (done : m.ingestLines before lines = .ok (accepted, final)) :
    accepted = before + (m.arrivals lines).countP Arrival.isTaken ∧
      final = m.run (lines.map .line) := by
  induction lines generalizing m before with
  | nil =>
      cases done
      exact ⟨rfl, rfl⟩
  | cons text rest ih =>
      unfold ingestLines at done
      rw [arrivals, List.countP_cons, run_lines_cons, Arrival.isTaken]
      cases result : (m.ingestLine text).result with
      | error fault =>
          simp only [result] at done
          cases done
      | ok taken =>
          simp only [result] at done
          obtain ⟨accepted, final⟩ := ih done
          refine ⟨?_, final⟩
          cases taken with
          | false => simpa using accepted
          | true =>
              simp only [if_true] at accepted ⊢
              omega

end Monitor

/-! ## Accounts that are opened by name -/

/-- The accounts as a table by name. -/
abbrev Ledger := Table Tally

namespace Ledger

/-- The account under a name, empty when there is none. -/
def tally (l : Ledger) (name : Str) : Tally :=
  (l.get? name).getD {}

/-- The accounts at the start: one for each channel. -/
def opening : Ledger :=
  Channel.all.map fun c => (c.name, {})

/-- Changes the account under a name, which is opened if need be. -/
def enter (l : Ledger) (name : Str) (change : Tally → Tally) : Ledger :=
  l.put name (change (l.tally name))

/-- Accounts for what comes from the channel of a name. -/
def ingest (l : Ledger) (name : Str) (raw : Value) : Ledger :=
  match Channel.ofName? name with
  | none => l
  | some channel =>
      match Envelope.read channel raw with
      | .ok (some envelope) => l.enter name (·.advance envelope.seq)
      | .ok none => l.enter name Tally.drop
      | .error _ => l

/-- Accounts for a line. -/
def ingestLine (l : Ledger) (line : Str) : Ledger :=
  match Text.stripBy CodePoint.isBlank line.points with
  | [] => l
  | text =>
      match Json.read text with
      | .error (.malformed ..) => l.enter strayName Tally.drop
      | .error (.tooManyDigits _) => l
      | .ok record =>
          match record.field "channel" with
          | .str name => l.ingest name (record.field "envelope")
          | _ => l.enter strayName Tally.drop

theorem tally_enter (l : Ledger) (name other : Str) (change : Tally → Tally) :
    (l.enter name change).tally other =
      if other = name then change (l.tally other) else l.tally other := by
  unfold enter tally
  rw [Table.get?_put]
  by_cases same : other = name
  · rw [if_pos same, if_pos same.symm, same]
    rfl
  · rw [if_neg same, if_neg (Ne.symm same)]

/-- A table that holds the accounts of a feed, and no others. -/
structure Mirrors (l : Ledger) (f : Feed) : Prop where
  tally : ∀ name, l.tally name = f.tallyNamed name
  names : ∀ name ∈ l.map (·.1), name ∈ accountNames

theorem mirrors_opening : Mirrors opening {} where
  tally name := by
    unfold tally Feed.tallyNamed
    cases found : Channel.ofName? name with
    | none =>
        have fresh : name ∉ opening.map (·.1) := by
          intro member
          rcases List.mem_map.mp member with ⟨_, entry, rfl⟩
          obtain ⟨c, _, rfl⟩ := List.mem_map.mp entry
          rw [Channel.ofName?_name] at found
          cases found
        rw [Table.get?_of_notMem fresh]
        simp
    | some c =>
        obtain rfl := Channel.name_of_ofName? found
        cases c <;> rfl
  names := by decide

variable {l : Ledger}

/-- A change under the name of an account is mirrored. -/
theorem Mirrors.enter {f g : Feed} (mirrors : l.Mirrors f) {name : Str}
    (known : name ∈ accountNames) {change : Tally → Tally}
    (changed : ∀ other, g.tallyNamed other =
      if other = name then change (f.tallyNamed other) else f.tallyNamed other) :
    (l.enter name change).Mirrors g where
  tally other := by rw [tally_enter, changed, mirrors.tally]
  names other member := by
    unfold Ledger.enter at member
    rw [Table.keys_put] at member
    split at member
    · exact mirrors.names other member
    · rcases List.mem_append.mp member with old | new
      · exact mirrors.names other old
      · rwa [List.mem_singleton.mp new]

theorem Mirrors.ingest {m : Monitor} (mirrors : l.Mirrors m.feed) (name : Str) (raw : Value) :
    (l.ingest name raw).Mirrors (m.ingest name raw).monitor.feed := by
  unfold Ledger.ingest Monitor.ingest
  cases found : Channel.ofName? name with
  | none => exact mirrors
  | some c =>
      obtain rfl := Channel.name_of_ofName? found
      have entered : ∀ change : Tally → Tally,
          (l.enter c.name change).Mirrors (m.feed.update c change) := fun change =>
        mirrors.enter c.name_mem_accountNames (Feed.tallyNamed_update m.feed c change)
      simp only
      cases Envelope.read c raw with
      | error fault => exact mirrors
      | ok envelope =>
          cases envelope with
          | none => exact entered Tally.drop
          | some envelope => exact entered (·.advance envelope.seq)

theorem Mirrors.ingestLine {m : Monitor} (mirrors : l.Mirrors m.feed) (line : Str) :
    (l.ingestLine line).Mirrors (m.ingestLine line).monitor.feed := by
  have stray : (l.enter strayName Tally.drop).Mirrors m.stray.monitor.feed :=
    mirrors.enter (by decide) (Feed.tallyNamed_unknown m.feed Tally.drop)
  unfold Ledger.ingestLine Monitor.ingestLine
  cases Text.stripBy CodePoint.isBlank line.points with
  | nil => exact mirrors
  | cons first text =>
      simp only
      cases Json.read (first :: text) with
      | error fault =>
          cases fault with
          | malformed => exact stray
          | tooManyDigits => exact mirrors
      | ok record =>
          simp only
          cases record.field "channel" with
          | str name => exact mirrors.ingest name (record.field "envelope")
          | null | bool | int | float | moment | array | object => exact stray

theorem Mirrors.run {m : Monitor} (mirrors : l.Mirrors m.feed) (lines : List Str) :
    (lines.foldl Ledger.ingestLine l).Mirrors (m.run (lines.map .line)).feed := by
  induction lines generalizing l m with
  | nil => exact mirrors
  | cons text rest ih => exact ih (mirrors.ingestLine text)

end Ledger

/-! ## Whole runs -/

/-- After lines that came to a monitor, its accounts balance. -/
structure Monitor.Balanced (start : Monitor) (lines : List Str) : Prop where
  /-- Each line that is not blank has met one fate. -/
  fates : ∀ before text after, lines = before ++ text :: after → text.isBlank = false →
    let m := start.run (before.map .line)
    ∃! fate, (m.ingestLine text).Meets m text fate
  /-- A line that was not accepted has changed no more than a count of what is malformed. -/
  untouched : ∀ before text after, lines = before ++ text :: after →
    let m := start.run (before.map .line)
    let a := m.ingestLine text
    a.result ≠ .ok true →
      a.monitor.board = m.board ∧ ∀ name, ∃ count,
        a.monitor.feed.tallyNamed name = { m.feed.tallyNamed name with malformedCount := count }
  /-- The lines that were accepted are the events. -/
  events : (start.arrivals lines).countP Arrival.isTaken =
    (start.run (lines.map .line)).feed.eventCount
  /-- So is the count that is given back when no line ends it. -/
  reported : ∀ accepted final, start.ingestLines 0 lines = .ok (accepted, final) →
    accepted = final.feed.eventCount
  /-- The lines that are not blank were accepted, malformed, for a channel that there is not, or
  without an answer. -/
  total : (start.arrivals lines).countP Arrival.isTaken +
      (start.run (lines.map .line)).feed.malformedCount + lines.countP namesOther +
        (start.arrivals lines).countP Arrival.isFault =
    lines.countP fun text => !text.isBlank
  /-- Accounts that are opened by name are the same ones, and there are no others. -/
  ledger : (lines.foldl Ledger.ingestLine Ledger.opening).Mirrors
    (start.run (lines.map .line)).feed

/-- **The accounts balance.**  Whatever lines come to a new feed, and whatever the board, each line
that is not blank is accounted for once, and one that is not accepted has no other effect. -/
theorem Monitor.balanced_lines (board : Board) (lines : List Str) :
    ({ board } : Monitor).Balanced lines where
  fates before text after _ filled := by
    intro m
    obtain ⟨fate, meets⟩ := (m.lands_ingestLine text).exists_meets filled
    exact ⟨fate, meets, fun other meets' => meets'.unique meets⟩
  untouched before text after _ := by
    intro m a refused
    exact (m.lands_ingestLine text).untouched refused
  events := by
    rw [events_run]
    exact (Nat.zero_add _).symm
  reported accepted final done := by
    obtain ⟨rfl, rfl⟩ := ingestLines_eq_ok done
    rw [events_run]
    rfl
  total := by
    rw [total_run]
    exact Nat.zero_add _
  ledger := Ledger.mirrors_opening.run lines

end CaptureDesk
