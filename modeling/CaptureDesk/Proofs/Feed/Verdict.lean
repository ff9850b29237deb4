import CaptureDesk.Proofs.Feed.Run
import CaptureDesk.Proofs.Json.RoundTrip

/-!
# What becomes of an input

A monitor answers an input with a yes or a no.  An envelope that is *malformed* on its channel is
counted there, and a line that names no channel is counted as a stray one; neither changes anything
else.

There are two inputs to which it gives no answer.  Where a channel wants a word and a list or a
table stands in its place, the word cannot be looked up at all, and a line that holds a whole number
with too many digits cannot be read (`Input.Chokes`).  Such an input ends in a fault and is not
counted.  On all others, and on no more than these, the monitor keeps its word
(`Monitor.settles_iff`).

* `Envelope.reads_read`: all that reading can make of a value.
-/

namespace CaptureDesk

/-! ## Values that are no envelopes -/

theorem Value.int?_eq_none_iff {v : Value} : v.int? = none ↔ ∀ n, v ≠ .int n := by
  cases v <;> simp [int?]

theorem Value.nonEmptyStr?_eq_none_iff {v : Value} :
    v.nonEmptyStr? = none ↔ ∀ s : Str, s ≠ "" → v ≠ .str s := by
  cases v with
  | str s =>
      by_cases blank : s = ""
      · refine iff_of_true (if_pos blank) fun t filled same => ?_
        cases same
        exact filled blank
      · simp [nonEmptyStr?, blank]
  | null | bool | int | float | moment | array | object => simp [nonEmptyStr?]

theorem Value.nonEmptyStr?_eq_some {v : Value} {s : Str} (found : v.nonEmptyStr? = some s) :
    s ≠ "" ∧ v = .str s := by
  cases v with
  | str t =>
      by_cases blank : t = ""
      · simp [nonEmptyStr?, blank] at found
      · simp only [nonEmptyStr?, blank, if_false, Option.some.injEq] at found
        subst found
        exact ⟨blank, rfl⟩
  | null | bool | int | float | moment | array | object => cases found

/-- The word that the payloads of a channel carry: its key, and the words that are allowed. -/
def Channel.word? : Channel → Option (String × List String)
  | jobStatus => some ("status", JobStatus.all.map JobStatus.name)
  | jobProgress => none
  | captureStatus => some ("state", CaptureState.all.map CaptureState.name)

/-- What can be wrong with a payload on a channel. -/
inductive Event.Malformed (c : Channel) (payload : Value) : Prop
  | notObject : (∀ fields, payload ≠ .object fields) → Malformed c payload
  | job : c ≠ .captureStatus → (∀ job : Str, job ≠ "" → payload.field "job_id" ≠ .str job) →
      Malformed c payload
  | word {key : String} {allowed : List String} :
      c.word? = some (key, allowed) → (∀ s ∈ allowed, payload.field key ≠ .str (.plain s)) →
      Malformed c payload
  | pct : c = .jobProgress → (∀ n, payload.field "pct" ≠ .int n) → Malformed c payload

/-- What can be wrong with an envelope on a channel. -/
inductive Envelope.Malformed (c : Channel) (raw : Value) : Prop
  | notObject : (∀ fields, raw ≠ .object fields) → Malformed c raw
  | number : (∀ n, raw.field "stream_seq" ≠ .int n) → Malformed c raw
  | payload : Event.Malformed c (raw.field "payload") → Malformed c raw

/-- The value `found` stands in the place of a word and is a list or a table, and what is looked at
before the word is in order. -/
structure Event.Chokes (c : Channel) (payload found : Value) : Prop where
  object : ∃ fields, payload = .object fields
  job : c = .jobStatus → ∃ job : Str, job ≠ "" ∧ payload.field "job_id" = .str job
  word : ∃ key allowed, c.word? = some (key, allowed) ∧ payload.field key = found
  container : (∃ items, found = .array items) ∨ ∃ fields, found = .object fields

/-- An envelope with a number and with a list or a table for a word. -/
structure Envelope.Chokes (c : Channel) (raw found : Value) : Prop where
  number : ∃ n, raw.field "stream_seq" = .int n
  payload : Event.Chokes c (raw.field "payload") found

/-! ## Reading -/

/-- All that looking a word up can come to. -/
inductive Envelope.LooksUp {α : Type} (all : List α) (name : α → String) (v : Value) :
    Except Fault (Option α) → Prop
  | found {a : α} : v = .str (.plain (name a)) → a ∈ all → LooksUp all name v (.ok (some a))
  | missing : (∀ s ∈ all.map name, v ≠ .str (.plain s)) → (∀ items, v ≠ .array items) →
      (∀ fields, v ≠ .object fields) → LooksUp all name v (.ok none)
  | container : ((∃ items, v = .array items) ∨ ∃ fields, v = .object fields) →
      LooksUp all name v (.error (.unhashable v.kind))

theorem Envelope.looksUp_lookUp {α : Type} (all : List α) (name : α → String) (v : Value) :
    LooksUp all name v (lookUp all name v) := by
  cases v with
  | str s =>
      simp only [lookUp]
      cases found : all.find? fun a => .plain (name a) == s with
      | none =>
          refine .missing ?_ (by simp) (by simp)
          intro t member same
          cases same
          obtain ⟨a, among, named⟩ := List.mem_map.mp member
          have other := List.find?_eq_none.mp found a among
          exact other (by simp [named])
      | some a =>
          have named : .plain (name a) = s := by simpa using List.find?_some found
          subst named
          exact .found rfl (List.mem_of_find?_eq_some found)
  | array items => exact .container (Or.inl ⟨items, rfl⟩)
  | object fields => exact .container (Or.inr ⟨fields, rfl⟩)
  | null | bool | int | float | moment => exact .missing (by simp) (by simp) (by simp)

/-- All that reading a payload can come to. -/
inductive Event.Reads (c : Channel) (payload : Value) : Except Fault (Option Event) → Prop
  | taken {event : Event} : ¬ Malformed c payload → Reads c payload (.ok (some event))
  | dropped : Malformed c payload → (∀ found, ¬ Chokes c payload found) →
      Reads c payload (.ok none)
  | choked {found : Value} : Chokes c payload found →
      Reads c payload (.error (.unhashable found.kind))

section Word

variable {α : Type} {all : List α} {name : α → String} {c : Channel} {key : String}
  {payload : Value}

/-- On a channel that wants a word, a payload with everything else in order is read as its word
is. -/
theorem Event.reads_of_word (wanted : c.word? = some (key, all.map name))
    (object : ∃ fields, payload = .object fields)
    (job : c ≠ .captureStatus → ∃ job : Str, job ≠ "" ∧ payload.field "job_id" = .str job)
    {found : Except Fault (Option α)}
    (looksUp : Envelope.LooksUp all name (payload.field key) found) (make : α → Event) :
    Reads c payload (do let a ← found; pure (a.map make)) := by
  have noProgress : c ≠ .jobProgress := by
    intro progress
    rw [progress] at wanted
    cases wanted
  cases looksUp with
  | found word member =>
      refine .taken ?_
      intro malformed
      cases malformed with
      | notObject other =>
          obtain ⟨fields, same⟩ := object
          exact other fields same
      | job names other =>
          obtain ⟨job, named, same⟩ := job names
          exact other job named same
      | word wanted' other =>
          rw [wanted] at wanted'
          cases wanted'
          exact other _ (List.mem_map_of_mem member) word
      | pct progress _ => exact noProgress progress
  | missing other noArray noObject =>
      refine .dropped (.word wanted other) ?_
      intro found chokes
      obtain ⟨key', allowed, wanted', rfl⟩ := chokes.word
      rw [wanted] at wanted'
      cases wanted'
      rcases chokes.container with ⟨items, same⟩ | ⟨fields, same⟩
      · exact noArray items same
      · exact noObject fields same
  | container container =>
      refine .choked ⟨object, ?_, ⟨key, _, wanted, rfl⟩, container⟩
      intro status
      exact job (by rw [status]; decide)

end Word

theorem Event.reads_readEvent (c : Channel) (payload : Value) :
    Reads c payload (Envelope.readEvent c payload) := by
  unfold Envelope.readEvent
  split
  · rename_i fields
    split
    · rename_i none
      have absent := Value.nonEmptyStr?_eq_none_iff.mp none
      refine .dropped (.job (by decide) absent) ?_
      intro found chokes
      obtain ⟨job, named, same⟩ := chokes.job rfl
      exact absent job named same
    · rename_i job named
      exact Event.reads_of_word rfl ⟨fields, rfl⟩
        (fun _ => ⟨job, Value.nonEmptyStr?_eq_some named⟩) (Envelope.looksUp_lookUp ..) _
  · rename_i fields
    have noWord : ∀ found, ¬ Chokes .jobProgress (.object fields) found := by
      intro found chokes
      obtain ⟨key, allowed, wanted, _⟩ := chokes.word
      cases wanted
    split
    · rename_i job pct named whole
      refine .taken ?_
      intro malformed
      cases malformed with
      | notObject other => exact other fields rfl
      | job _ other =>
          obtain ⟨named, same⟩ := Value.nonEmptyStr?_eq_some named
          exact other job named same
      | word wanted _ => cases wanted
      | pct _ other => rw [Value.int?_eq_none_iff.mpr other] at whole; cases whole
    · rename_i absent
      refine .dropped ?_ noWord
      cases named : (Value.field (.object fields) "job_id").nonEmptyStr? with
      | none => exact .job (by decide) (Value.nonEmptyStr?_eq_none_iff.mp named)
      | some job =>
          cases whole : (Value.field (.object fields) "pct").int? with
          | none => exact .pct rfl (Value.int?_eq_none_iff.mp whole)
          | some pct => exact (absent job pct named whole).elim
  · rename_i fields
    exact Event.reads_of_word rfl ⟨fields, rfl⟩ (fun other => absurd rfl other)
      (Envelope.looksUp_lookUp ..) _
  · rename_i noStatus noProgress noCapture
    have notObject : ∀ fields, payload ≠ .object fields := by
      intro fields same
      cases c with
      | jobStatus => exact noStatus fields same rfl
      | jobProgress => exact noProgress fields same rfl
      | captureStatus => exact noCapture fields same rfl
    refine .dropped (.notObject notObject) ?_
    intro found chokes
    obtain ⟨fields, same⟩ := chokes.object
    exact notObject fields same

/-- Other values than objects have no fields. -/
theorem Value.field_of_not_object {v : Value} (other : ∀ fields, v ≠ .object fields)
    (key : Str) : v.field key = .null := by
  cases v with
  | object fields => exact absurd rfl (other fields)
  | null | bool | int | float | str | moment | array => rfl

/-- All that reading an envelope can come to. -/
inductive Envelope.Reads (c : Channel) (raw : Value) : Except Fault (Option Envelope) → Prop
  | taken {envelope : Envelope} : ¬ Malformed c raw → Reads c raw (.ok (some envelope))
  | dropped : Malformed c raw → (∀ found, ¬ Chokes c raw found) → Reads c raw (.ok none)
  | choked {found : Value} : Chokes c raw found → Reads c raw (.error (.unhashable found.kind))

theorem Envelope.reads_read (c : Channel) (raw : Value) : Reads c raw (read c raw) := by
  unfold read
  cases number : (raw.field "stream_seq").int? with
  | none =>
      have absent := Value.int?_eq_none_iff.mp number
      refine .dropped (.number absent) ?_
      intro found chokes
      obtain ⟨n, same⟩ := chokes.number
      exact absent n same
  | some seq =>
      have whole : ∃ n, raw.field "stream_seq" = .int n := by
        by_contra none
        rw [Value.int?_eq_none_iff.mpr (not_exists.mp none)] at number
        cases number
      have payload := Event.reads_readEvent c (raw.field "payload")
      generalize readEvent c (raw.field "payload") = event at payload ⊢
      cases payload with
      | taken wellFormed =>
          refine .taken ?_
          intro malformed
          obtain ⟨n, same⟩ := whole
          cases malformed with
          | notObject other =>
              rw [Value.field_of_not_object other] at same
              cases same
          | number other => exact other n same
          | payload malformed => exact wellFormed malformed
      | dropped malformed free =>
          exact .dropped (.payload malformed) fun found chokes => free found chokes.payload
      | choked chokes => exact .choked ⟨whole, chokes⟩

theorem Event.Chokes.malformed {c : Channel} {payload found : Value}
    (chokes : Chokes c payload found) : Malformed c payload := by
  obtain ⟨key, allowed, wanted, rfl⟩ := chokes.word
  refine .word wanted ?_
  intro s _ same
  rcases chokes.container with ⟨items, other⟩ | ⟨fields, other⟩
  · rw [same] at other
    cases other
  · rw [same] at other
    cases other

theorem Event.Chokes.unique {c : Channel} {payload found found' : Value}
    (chokes : Chokes c payload found) (chokes' : Chokes c payload found') : found = found' := by
  obtain ⟨key, allowed, wanted, rfl⟩ := chokes.word
  obtain ⟨key', allowed', wanted', rfl⟩ := chokes'.word
  rw [wanted] at wanted'
  cases wanted'
  rfl

section Read

variable {c : Channel} {raw : Value}

theorem Envelope.read_of_chokes {found : Value} (chokes : Chokes c raw found) :
    read c raw = .error (.unhashable found.kind) := by
  have reads := reads_read c raw
  generalize read c raw = result at reads ⊢
  cases reads with
  | taken wellFormed => exact absurd (.payload chokes.payload.malformed) wellFormed
  | dropped _ free => exact absurd chokes (free found)
  | choked chokes' => rw [chokes.payload.unique chokes'.payload]

theorem Envelope.read_of_malformed (malformed : Malformed c raw)
    (free : ∀ found, ¬ Chokes c raw found) : read c raw = .ok none := by
  have reads := reads_read c raw
  generalize read c raw = result at reads ⊢
  cases reads with
  | taken wellFormed => exact absurd malformed wellFormed
  | dropped => rfl
  | choked chokes => exact absurd chokes (free _)

theorem Envelope.read_of_wellFormed (wellFormed : ¬ Malformed c raw) :
    ∃ envelope, read c raw = .ok (some envelope) := by
  have reads := reads_read c raw
  generalize read c raw = result at reads ⊢
  cases reads with
  | taken => exact ⟨_, rfl⟩
  | dropped malformed => exact absurd malformed wellFormed
  | choked chokes => exact absurd (.payload chokes.payload.malformed) wellFormed

end Read

/-! ## Lines -/

section Line

variable {text : Str} (filled : Text.stripBy CodePoint.isBlank text.points ≠ [])
include filled

theorem Input.address?_line :
    (Input.line text).address? =
      match Json.read (Text.stripBy CodePoint.isBlank text.points) with
      | .error _ => none
      | .ok record =>
          match record.field "channel" with
          | .str name => (Channel.ofName? name).map (·, record.field "envelope")
          | _ => none := by
  unfold address?
  dsimp only
  generalize Text.stripBy CodePoint.isBlank text.points = stripped at filled ⊢
  cases stripped with
  | nil => exact absurd rfl filled
  | cons c rest => rfl

theorem Monitor.ingestLine_of_filled (m : Monitor) :
    m.ingestLine text =
      match Json.read (Text.stripBy CodePoint.isBlank text.points) with
      | .error (.malformed ..) => m.stray
      | .error (.tooManyDigits count) => { monitor := m, result := .error (.tooManyDigits count) }
      | .ok record =>
          match record.field "channel" with
          | .str name => m.ingest name (record.field "envelope")
          | _ => m.stray := by
  unfold ingestLine
  split
  · rename_i blank
    exact absurd blank filled
  · rfl

end Line

/-- A line that is not blank and is not JSON, or names no channel. -/
inductive Input.Stray : Input → Prop
  | undecodable {text : Str} {complaint : Json.Complaint} {rest : List CodePoint} :
      Text.stripBy CodePoint.isBlank text.points ≠ [] →
      Json.read (Text.stripBy CodePoint.isBlank text.points) = .error (.malformed complaint rest) →
      Stray (.line text)
  | unaddressed {text : Str} {record : Value} :
      Text.stripBy CodePoint.isBlank text.points ≠ [] →
      Json.read (Text.stripBy CodePoint.isBlank text.points) = .ok record →
      (∀ name, record.field "channel" ≠ .str name) → Stray (.line text)

/-- An input that a monitor cannot answer, and the fault that it runs into. -/
inductive Input.Chokes : Input → Fault → Prop
  | word {x : Input} {c : Channel} {raw found : Value} :
      x.address? = some (c, raw) → Envelope.Chokes c raw found →
      Chokes x (.unhashable found.kind)
  | digits {text : Str} {count : Nat} :
      Text.stripBy CodePoint.isBlank text.points ≠ [] →
      Json.read (Text.stripBy CodePoint.isBlank text.points) = .error (.tooManyDigits count) →
      Chokes (.line text) (.tooManyDigits count)

/-! ## Verdicts -/

namespace Monitor

/-- `m.Drops c a`: the arrival `a` was counted as malformed on the channel `c`, and nothing else was
done. -/
structure Drops (m : Monitor) (c : Channel) (a : Arrival) : Prop where
  result : a.result = .ok false
  tally : ∀ d, a.monitor.feed.tally d =
    if c = d then
      { m.feed.tally d with malformedCount := (m.feed.tally d).malformedCount + 1 }
    else m.feed.tally d
  unknown : a.monitor.feed.unknown = m.feed.unknown
  board : a.monitor.board = m.board
  notice : a.notice = none

/-- `m.CountsStray a`: the arrival `a` was counted as a stray line, and nothing else was done. -/
structure CountsStray (m : Monitor) (a : Arrival) : Prop where
  result : a.result = .ok false
  unknown : a.monitor.feed.unknown =
    { m.feed.unknown with malformedCount := m.feed.unknown.malformedCount + 1 }
  tally : ∀ d, a.monitor.feed.tally d = m.feed.tally d
  board : a.monitor.board = m.board
  notice : a.notice = none

theorem drops_reject (m : Monitor) (c : Channel) : m.Drops c (m.reject c) where
  result := rfl
  tally d := Feed.tally_update m.feed c d Tally.drop
  unknown := Feed.unknown_update m.feed c Tally.drop
  board := rfl
  notice := rfl

theorem countsStray_stray (m : Monitor) : m.CountsStray m.stray where
  result := rfl
  unknown := rfl
  tally d := by cases d <;> rfl
  board := rfl
  notice := rfl

/-- The monitor keeps its word on an input: it answers, takes in what is well formed, and counts
what is not. -/
structure Settles (m : Monitor) (x : Input) : Prop where
  answers : ∃ taken, (m.receive x).result = .ok taken
  takes : ∀ c raw, x.address? = some (c, raw) → ¬ Envelope.Malformed c raw →
    (m.receive x).result = .ok true
  drops : ∀ c raw, x.address? = some (c, raw) → Envelope.Malformed c raw →
    m.Drops c (m.receive x)
  countsStray : x.Stray → m.CountsStray (m.receive x)

variable (m : Monitor) {x : Input}

/-- A stray line has no address, and is counted. -/
theorem receive_stray (stray : x.Stray) : x.address? = none ∧ m.receive x = m.stray := by
  cases stray with
  | undecodable filled read =>
      rw [Input.address?_line filled, receive, ingestLine_of_filled filled, read]
      exact ⟨rfl, rfl⟩
  | unaddressed filled read other =>
      rename_i record
      rw [Input.address?_line filled, receive, ingestLine_of_filled filled, read]
      cases named : record.field "channel" with
      | str name => exact absurd named (other name)
      | null | bool | int | float | moment | array | object => simp [named]

/-- An input on which the monitor chokes ends in its fault and changes nothing. -/
theorem receive_of_chokes {fault : Fault} (chokes : x.Chokes fault) :
    m.receive x = { monitor := m, result := .error fault } := by
  cases chokes with
  | word address chokes =>
      rw [receive_of_address address, takeIn, Envelope.read_of_chokes chokes]
  | digits filled read => rw [receive, ingestLine_of_filled filled, read]

/-- An input without an address is answered, unless the monitor chokes on it. -/
theorem answers_of_nowhere (nowhere : x.address? = none) (free : ∀ fault, ¬ x.Chokes fault) :
    ∃ taken, (m.receive x).result = .ok taken := by
  cases x with
  | handle job => exact ⟨false, rfl⟩
  | envelope name raw => exact ⟨false, by rw [receive, ingest_of_unnamed nowhere]⟩
  | line text =>
      by_cases blank : Text.stripBy CodePoint.isBlank text.points = []
      · exact ⟨false, by rw [receive, ingestLine, blank]⟩
      · rw [Input.address?_line blank] at nowhere
        rw [receive, ingestLine_of_filled blank]
        cases read : Json.read (Text.stripBy CodePoint.isBlank text.points) with
        | error fault =>
            cases fault with
            | malformed => exact ⟨false, rfl⟩
            | tooManyDigits count => exact absurd (.digits blank read) (free _)
        | ok record =>
            cases named : record.field "channel" with
            | str name =>
                simp only [read, named] at nowhere
                exact ⟨false, by simp only [named, ingest_of_unnamed nowhere]⟩
            | null | bool | int | float | moment | array | object =>
                exact ⟨false, by simp only [named]; rfl⟩

theorem settles_of_free (free : ∀ fault, ¬ x.Chokes fault) : m.Settles x := by
  cases address : x.address? with
  | none =>
      have noOther : ∀ c raw, ¬ (none : Option (Channel × Value)) = some (c, raw) := nofun
      refine ⟨m.answers_of_nowhere address free, ?_, ?_, ?_⟩
      · intro c raw somewhere
        exact absurd (address.symm.trans somewhere) (noOther c raw)
      · intro c raw somewhere
        exact absurd (address.symm.trans somewhere) (noOther c raw)
      · intro stray
        rw [(m.receive_stray stray).2]
        exact m.countsStray_stray
  | some a =>
      obtain ⟨c, raw⟩ := a
      have free' : ∀ found, ¬ Envelope.Chokes c raw found := fun found chokes =>
        free _ (.word address chokes)
      have takes : ¬ Envelope.Malformed c raw → (m.receive x).result = .ok true := by
        intro wellFormed
        obtain ⟨envelope, read⟩ := Envelope.read_of_wellFormed wellFormed
        rw [receive_of_address address, takeIn, read]
        rfl
      have drops : Envelope.Malformed c raw → m.Drops c (m.receive x) := by
        intro malformed
        rw [receive_of_address address, takeIn, Envelope.read_of_malformed malformed free']
        exact m.drops_reject c
      refine ⟨?_, ?_, ?_, ?_⟩
      · by_cases malformed : Envelope.Malformed c raw
        · exact ⟨false, (drops malformed).result⟩
        · exact ⟨true, takes malformed⟩
      · intro d other address' wellFormed
        cases address.symm.trans address'
        exact takes wellFormed
      · intro d other address' malformed
        cases address.symm.trans address'
        exact drops malformed
      · intro stray
        cases address.symm.trans (m.receive_stray stray).1

/-- **When a monitor keeps its word.**  Whatever its accounts and its board are, it settles an input
just if it does not choke on it; and where it chokes, it ends in the fault and is left as it was. -/
theorem settles_iff (m : Monitor) (x : Input) :
    (m.Settles x ↔ ∀ fault, ¬ x.Chokes fault) ∧
      ∀ fault, x.Chokes fault → m.receive x = { monitor := m, result := .error fault } := by
  refine ⟨⟨?_, m.settles_of_free⟩, fun fault chokes => m.receive_of_chokes chokes⟩
  intro settles fault chokes
  obtain ⟨taken, answered⟩ := settles.answers
  rw [m.receive_of_chokes chokes] at answered
  cases answered

/-- A list in the place of a status is malformed, but it is neither refused nor counted. -/
theorem not_settles_list_status :
    let raw := Value.object
      [("stream_seq", .int 1),
        ("payload", .object [("job_id", .str "j1"), ("status", .array [])])]
    Envelope.Malformed .jobStatus raw ∧
      ({} : Monitor).receive (.envelope "job_status" raw) =
        { monitor := {}, result := .error (.unhashable "list") } ∧
      ¬ ({} : Monitor).Settles (.envelope "job_status" raw) := by
  intro raw
  have run : ({} : Monitor).receive (.envelope "job_status" raw) =
      { monitor := {}, result := .error (.unhashable "list") } := by decide
  refine ⟨.payload (.word rfl (by decide)), run, ?_⟩
  intro settles
  obtain ⟨taken, answered⟩ := settles.answers
  rw [run] at answered
  cases answered

end Monitor

end CaptureDesk
