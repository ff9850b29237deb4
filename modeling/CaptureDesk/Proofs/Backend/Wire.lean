import CaptureDesk.Backend
import CaptureDesk.Proofs.Json.RoundTrip
import CaptureDesk.Proofs.Text.Encoding

/-!
# Requests and answers on the wire

A request reaches the child as it was meant, and an outcome that the child prints comes back as it
was (`faithful_exchange`).  Of the child it is only used that it prints the JSON text of what it has
to say, with white space around it if it likes (`Prints`).

An outcome travels as an object that tells whether it is a success, so a success is not mistaken for
a failure whatever its value looks like (`Outcome.ofValue_toValue`).
-/

namespace CaptureDesk

/-! ## Outcomes and failures as values -/

/-- A failure is read back from its object. -/
theorem Failure.ofValue?_toValue (e : Failure) : Failure.ofValue? e.toValue = some e := by
  rcases e with ⟨code, message, details, recoverable, hint⟩
  have named : (ErrorCode.ofName? code.name).getD .internal = code := by
    rw [ErrorCode.ofName?_name]
    rfl
  cases details <;> cases hint <;>
    simp [toValue, ofValue?, Value.field, Value.field?, Value.fields, Table.get?_cons, Value.str?,
      Value.bool?, named]

/-- **An outcome is read back from its object**, whatever the value of a success looks like. -/
theorem Outcome.ofValue_toValue (r : Outcome) : Outcome.ofValue r.toValue = r := by
  cases r with
  | success v => rfl
  | failure e =>
      have error : (failure e).toValue.field "error" = e.toValue := rfl
      have verdict : verdict? (failure e).toValue = some false := rfl
      simp only [ofValue, verdict, error, Failure.ofValue?_toValue]

/-- No surrogate stands in the texts of a failure. -/
structure Failure.Plain (e : Failure) : Prop where
  message : e.message.isRough = false
  details : ∀ s, e.details = some s → s.isRough = false
  hint : ∀ s, e.actionHint = some s → s.isRough = false

/-- What an outcome holds is plain. -/
def Outcome.Plain : Outcome → Prop
  | success v => Json.Plain v
  | failure e => e.Plain

theorem Failure.Plain.toValue {e : Failure} (plain : e.Plain) : Json.Plain e.toValue := by
  obtain ⟨text, optional, hinted⟩ := plain
  rcases e with ⟨code, message, details, recoverable, hint⟩
  cases details <;> cases hint <;>
    simp_all [Failure.toValue, Json.Plain, Json.PlainFields, Str.isRough]

theorem Outcome.Plain.toValue {r : Outcome} (plain : r.Plain) : Json.Plain r.toValue := by
  cases r with
  | success v => exact ⟨by simp, rfl, trivial, rfl, plain, trivial⟩
  | failure e => exact ⟨by simp, rfl, trivial, rfl, Failure.Plain.toValue plain, trivial⟩

theorem Request.plain_payload {request : Request} (plain : Json.Plain request.body) :
    Json.Plain request.payload := by
  unfold payload
  split
  · exact plain
  · exact ⟨by simp, rfl, plain, trivial⟩

/-! ## What a child is told -/

/-- The value that octets of unknown encoding stand for, if they are the text of one. -/
def Json.ofOctets? (octets : List UInt8) : Option Value :=
  match Text.decodeDetected octets with
  | .ok text => (Json.decode text).toOption
  | .error _ => none

namespace Json

mutual

/-- No part of a plain value is refused. -/
theorem refusal?_of_plain : ∀ v, Plain v → refusal? v = none
  | .null, _ | .bool _, _ | .str _, _ => rfl
  | .int n, plain => by
      rw [refusal?, if_neg]
      rw [show isOverlong n = false from plain]
      decide
  | .array items, plain => refusalItems?_of_plain items plain
  | .object fields, plain => refusalFields?_of_plain fields plain.2

theorem refusalItems?_of_plain : ∀ items, PlainItems items → refusalItems? items = none
  | [], _ => rfl
  | v :: rest, plain => by
      rw [refusalItems?, refusal?_of_plain v plain.1, refusalItems?_of_plain rest plain.2]
      rfl

theorem refusalFields?_of_plain : ∀ fields, PlainFields fields → refusalFields? fields = none
  | [], _ => rfl
  | (_, v) :: rest, plain => by
      rw [refusalFields?, refusal?_of_plain v plain.2.1, refusalFields?_of_plain rest plain.2.2]
      rfl

end

/-- A plain value is written. -/
theorem write?_of_plain {v : Value} (plain : Plain v) :
    write? v = .ok (.plain (String.ofList (dump escapedChar v))) := by
  rw [write?, refusal?_of_plain v plain, compact_of_plain plain, Str.ofPoints_map_char]

/-- The octets of the text of a plain value stand for that value. -/
theorem ofOctets?_dump {v : Value} (plain : Plain v) :
    ofOctets? (Text.Utf8.encode (dump escapedChar v)) = some v := by
  have opens : Opens (dump escapedChar v) := opens_dump plain
  have printable := printable_dump v plain
  have found := decode_dump legible_escaped plain
  cases text : dump escapedChar v with
  | nil =>
      rw [text] at opens
      cases opens
  | cons c rest =>
      rw [text] at opens printable found
      have noNul : '\x00' ∉ c :: rest := fun nul => absurd (printable _ nul) (by decide)
      have ascii : c.toNat < 0x80 := Nat.lt_succ_of_lt opens.1.2
      rw [ofOctets?, Text.decodeDetected_encode ascii noNul]
      simp only [found]
      rfl

end Json

/-! ## What a child says -/

/-- `Prints v octets`: the octets are the JSON text of a value with white space around it.  The text
may keep to ASCII. -/
inductive Prints (v : Value) : List UInt8 → Prop
  | mk {escape : Char → List Char} {before after : List Char} :
      escape = Json.escapedChar ∨ escape = Json.asciiEscaped →
      (∀ c ∈ before, Text.isBlank c = true) → (∀ c ∈ after, Text.isBlank c = true) →
      Prints v (Text.Utf8.encode (before ++ (Json.dump escape v ++ after)))

theorem Prints.legible {escape : Char → List Char}
    (known : escape = Json.escapedChar ∨ escape = Json.asciiEscaped) : Json.Legible escape := by
  rcases known with rfl | rfl
  · exact Json.legible_escaped
  · exact Json.legible_asciiEscaped

/-- The text of an object ends with its closing brace. -/
theorem Json.dumpFields_eq_concat (escape : Char → List Char) (fields : List (Str × Value)) :
    ∃ init, Json.dumpFields escape fields = init ++ ['\x7d'] := by
  induction fields with
  | nil => exact ⟨[], rfl⟩
  | cons entry fields ih =>
      obtain ⟨init, split⟩ := ih
      exact ⟨',' :: ' ' :: (Json.dumpString escape entry.1 ++ ':' :: ' ' ::
        (Json.dump escape entry.2 ++ init)), by simp [Json.dumpFields, split]⟩

namespace Backend

/-- White space around an object that a child has printed is dropped. -/
theorem outputText_of_prints {v : Value} {octets : List UInt8} (prints : Prints v octets)
    (object : ∃ entry fields, v = .object (entry :: fields)) :
    ∃ escape, Json.Legible escape ∧ outputText octets = Json.dump escape v := by
  obtain ⟨entry, fields, rfl⟩ := object
  rcases prints with ⟨known, blankBefore, blankAfter⟩
  rename_i escape before after
  refine ⟨escape, Prints.legible known, ?_⟩
  obtain ⟨init, split⟩ := Json.dumpFields_eq_concat escape fields
  have last : (Json.dump escape (.object (entry :: fields))).getLast? = some '\x7d' := by
    simp [Json.dump, split, List.getLast?_cons, List.getLast?_append]
  rw [outputText, Text.Utf8.decodeLossy_encode]
  exact Text.stripBy_margins blankBefore blankAfter rfl last (by decide) (by decide)

/-- An outcome that a child has printed is the answer. -/
theorem answer_of_prints {r : Outcome} (plain : r.Plain) {stdout : List UInt8}
    (prints : Prints r.toValue stdout) (command : Str) :
    answer command (outputText stdout) = .ok r := by
  obtain ⟨escape, legible, text⟩ := outputText_of_prints prints (by cases r <;> exact ⟨_, _, rfl⟩)
  have found := Json.read_dump legible plain.toValue
  have opens : Json.Opens (Json.dump escape r.toValue) := Json.opens_dump plain.toValue
  rw [text]
  cases dumped : Json.dump escape r.toValue with
  | nil =>
      rw [dumped] at opens
      cases opens
  | cons c rest =>
      rw [dumped] at found
      simp only [answer, found, Outcome.ofValue_toValue]

/-- A failure that a child has printed is what it says. -/
theorem exitFailure_of_prints {e : Failure} (plain : e.Plain) {stderr : List UInt8}
    (prints : Prints e.toValue stderr) (code : Int) :
    exitFailure code (outputText stderr) = .ok e := by
  obtain ⟨escape, legible, text⟩ := outputText_of_prints prints ⟨_, _, rfl⟩
  have found := Json.read_dump legible plain.toValue
  simp only [text, exitFailure, found, Failure.ofValue?_toValue, Option.getD_some]

/-! ## The exchange -/

section Exchange

variable (b : Backend) (seconds : Option Float) {child : Child} {files left : Files}
  {request : Request}

/-- A plain request is encoded as its text. -/
theorem encode_of_plain (plain : Json.Plain request.body) :
    request.encode = .ok (Text.Utf8.encode (Json.dump Json.escapedChar request.payload)) := by
  rw [Request.encode, Json.write?_of_plain (Request.plain_payload plain)]
  simp only [Str.encode, Text.Utf8.ofString, String.toList_ofList, Except.mapError]

/-- One child is started, and told the text of the request. -/
theorem spawns_exchange (known : request.isKnown = true) (plain : Json.Plain request.body)
    (started : child.start (b.argv request.command) files = .ok left) :
    ∃ spawn, (b.exchange child files seconds request).spawns = [spawn] ∧
      spawn.argv = b.argv request.command ∧
      spawn.stdin =
        some (Text.Utf8.encode (Json.dump Json.escapedChar request.payload)) := by
  simp only [exchange, known, Bool.not_true, Bool.false_eq_true, if_false, encode_of_plain plain,
    started]
  cases child.await seconds <;> exact ⟨_, rfl, rfl, rfl⟩

/-- The outcome is what a child that ends in time has written. -/
theorem outcome_exchange (known : request.isKnown = true) (plain : Json.Plain request.body)
    (started : child.start (b.argv request.command) files = .ok left) {code : Option Int}
    {stdout stderr : List UInt8} (ended : child.await seconds = .exited code stdout stderr) :
    (b.exchange child files seconds request).outcome =
      if code.getD unknownExit = 0 then answer request.command (outputText stdout)
      else (exitFailure (code.getD unknownExit) (outputText stderr)).map .failure := by
  simp only [exchange, known, Bool.not_true, Bool.false_eq_true, if_false, encode_of_plain plain,
    started, ended]

end Exchange

/-- **Faithful exchange.**  A child that is started for a known command is told the request; an
outcome that it prints on its standard output when it succeeds is the answer, and so is a failure
that it prints on its standard error when it fails.  Reading any value as an outcome, and its object
once more, comes to the same. -/
theorem faithful_exchange (b : Backend) (child : Child) (files left : Files)
    (seconds : Option Float) (request : Request) (known : request.isKnown = true)
    (plain : Json.Plain request.body)
    (started : child.start (b.argv request.command) files = .ok left) :
    (∃ spawn octets, (b.exchange child files seconds request).spawns = [spawn] ∧
      spawn.argv = b.argv request.command ∧ spawn.stdin = some octets ∧
      Json.ofOctets? octets = some request.payload) ∧
    (∀ (r : Outcome) (stdout stderr : List UInt8), r.Plain → Prints r.toValue stdout →
      child.await seconds = .exited (some 0) stdout stderr →
      (b.exchange child files seconds request).outcome = .ok r) ∧
    (∀ (e : Failure) (code : Option Int) (stdout stderr : List UInt8), code ≠ some 0 → e.Plain →
      Prints e.toValue stderr → child.await seconds = .exited code stdout stderr →
      (b.exchange child files seconds request).outcome = .ok (.failure e)) ∧
    ∀ v, Outcome.ofValue (Outcome.ofValue v).toValue = Outcome.ofValue v := by
  refine ⟨?_, ?_, ?_, fun v => Outcome.ofValue_toValue _⟩
  · obtain ⟨spawn, only, argv, stdin⟩ := spawns_exchange b seconds known plain started
    exact ⟨spawn, _, only, argv, stdin, Json.ofOctets?_dump (Request.plain_payload plain)⟩
  · intro r stdout stderr plainOutcome prints ended
    rw [outcome_exchange b seconds known plain started ended]
    exact answer_of_prints plainOutcome prints request.command
  · intro e code stdout stderr failed plainFailure prints ended
    have nonzero : code.getD unknownExit ≠ 0 := by
      cases code with
      | none => decide
      | some n => exact fun zero => failed (congrArg some zero)
    rw [outcome_exchange b seconds known plain started ended, if_neg nonzero,
      exitFailure_of_prints plainFailure prints]
    rfl

/-- An edit whose operation holds quotes, a line feed and a character beyond U+FFFF. -/
def quotingEdit : Request :=
  ⟨"steps_apply_edit", .object
    [("session_id", .str "s1"), ("base_seq", .int (-3)),
      ("op", .array [.null, .bool true, .str "\"\\\n\x01😀", .object []])]⟩

/-- A value that looks like a failure on its way. -/
def deceptive : Value :=
  .object [("ok", .bool false), ("error", .object [("code", .str "é"), ("message", .str "😀")])]

/-- A child that prints a value, which looks like a failure, as the value of a success, in ASCII and
with white space around it. -/
def deceiver : Child :=
  { stdout := Text.Utf8.encode (['\n', ' '] ++
      (Json.dump Json.asciiEscaped (Outcome.success deceptive).toValue ++ ['\u2028', '\r', '\n'])) }

theorem faithful_exchange_deceptive :
    quotingEdit.isKnown = true ∧
      (∃ spawn octets, (exchange {} deceiver ⟨["", "home"], []⟩ none quotingEdit).spawns = [spawn] ∧
        spawn.stdin = some octets ∧
        Json.ofOctets? octets = some (.object [("req", quotingEdit.body)])) ∧
      (exchange {} deceiver ⟨["", "home"], []⟩ none quotingEdit).outcome =
        .ok (.success deceptive) := by
  have known : quotingEdit.isKnown = true := by decide
  have plain : Json.Plain quotingEdit.body :=
    ⟨by simp, rfl, rfl, rfl, show Json.isOverlong (-3) = false by decide +kernel, rfl,
      ⟨trivial, trivial, rfl, ⟨by simp, trivial⟩, trivial⟩, trivial⟩
  have plainValue : Json.Plain deceptive :=
    ⟨by simp, rfl, trivial, rfl, ⟨by simp, rfl, rfl, rfl, rfl, trivial⟩, trivial⟩
  obtain ⟨⟨spawn, octets, only, _, stdin, value⟩, answered, _⟩ :=
    faithful_exchange {} deceiver ⟨["", "home"], []⟩ ⟨["", "home"], []⟩ none quotingEdit known plain
      rfl
  refine ⟨known, ⟨spawn, octets, only, stdin, value⟩, ?_⟩
  exact answered (.success deceptive) _ [] plainValue
    (.mk (Or.inr rfl) (by simp [Text.isBlank]) (by simp [Text.isBlank])) rfl

end Backend

end CaptureDesk
