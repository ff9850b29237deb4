import CaptureDesk.Proofs.Child.Bounds
import CaptureDesk.Proofs.Json.RoundTrip
import CaptureDesk.Proofs.Text.Encoding
import Mathlib

/-!
# Every request is answered

Whatever a child writes and however it ends, the request comes to an outcome, and `Answered` says to
which one.  Only a whole number with too many digits, in the output that is looked at, is a fault.
-/

namespace CaptureDesk

/-- `v.Describes e`: the value is an object with a code and a message that are strings, and `e` is
the structured error that it stands for. -/
structure Value.Describes (v : Value) (e : Failure) : Prop where
  code : ∃ name, v.field "code" = .str name ∧ e.code = (ErrorCode.ofName? name).getD .internal
  message : v.field "message" = .str e.message
  details : e.details = (v.field "details").str?
  recoverable : e.recoverable = (v.field "recoverable").bool?.getD false
  actionHint : e.actionHint = (v.field "action_hint").str?

theorem Failure.ofValue?_eq_some_iff {v : Value} {e : Failure} :
    Failure.ofValue? v = some e ↔ v.Describes e := by
  unfold ofValue?
  constructor
  · intro found
    split at found
    · rename_i name message code text
      cases found
      exact ⟨⟨name, code, rfl⟩, text, rfl, rfl, rfl⟩
    · cases found
  · obtain ⟨code, message, details, recoverable, actionHint⟩ := e
    rintro ⟨⟨name, held, rfl⟩, text, rfl, rfl, rfl⟩
    simp only [held, text]

namespace Backend

variable {b : Backend} {child : Child} {files : Files} {request : Request}

/-- The encoder accepts the request if it is to be sent, the child is refused by the operating
system if at all, and it ends within the bound. -/
structure Faced (b : Backend) (child : Child) (files : Files) (request : Request) : Prop where
  encoded : request.isKnown = true → ∃ input, request.encode = .ok input
  refused : ∀ fault, child.start (b.argv request.command) files = .error fault →
    ∃ report, fault = .system report
  bounded : b.timeout.IsTimeout
  inTime : ¬ child.Overdue b.timeout

/-- All that a request may be answered with. -/
inductive Answered (b : Backend) (child : Child) (files : Files) (request : Request) :
    Outcome → Prop
  | unknown (unknown : request.isKnown = false) :
      Answered b child files request
        (.failure { code := .unsupported, message := "Unknown command: " ++ request.command })
  | unstarted {report : SystemFault} (known : request.isKnown = true)
      (failed : child.start (b.argv request.command) files = .error (.system report)) :
      Answered b child files request
        (.failure
          { code := .internal
            message :=
              if report.isNotFound then "Backend binary not found: " ++ b.binary.text
              else "Backend binary could not be started: " ++ report.message
            actionHint := some "Set [gateway] binary in conductor.toml" })
  | described {input : List UInt8} {left : Files} {v : Value} {e : Failure}
      (started : b.Started child files request input left) (failed : child.exitCode ≠ some 0)
      (read : Json.read ((outputText child.stderr).map .char) = .ok v) (describes : v.Describes e) :
      Answered b child files request (.failure e)
  | undescribed {input : List UInt8} {left : Files}
      (started : b.Started child files request input left) (failed : child.exitCode ≠ some 0)
      (other : ∀ v e, Json.read ((outputText child.stderr).map .char) = .ok v → ¬ v.Describes e) :
      Answered b child files request
        (.failure
          { code := .internal
            message :=
              "Backend process failed with exit code " ++ toString (child.exitCode.getD (-1))
            details :=
              if outputText child.stderr = [] then none
              else some (String.ofList ((outputText child.stderr).take 2000)) })
  | silent {input : List UInt8} {left : Files} (started : b.Started child files request input left)
      (exited : child.exitCode = some 0)
      (blank : ∀ c ∈ Text.Utf8.decodeLossy child.stdout, Text.isBlank c = true) :
      Answered b child files request (.success .null)
  | decoded {input : List UInt8} {left : Files} {v : Value}
      (started : b.Started child files request input left) (exited : child.exitCode = some 0)
      (read : Json.read ((outputText child.stdout).map .char) = .ok v) :
      Answered b child files request (Outcome.ofValue v)
  | undecodable {input : List UInt8} {left : Files} {complaint : Json.Complaint}
      {rest : List CodePoint} (started : b.Started child files request input left)
      (exited : child.exitCode = some 0)
      (visible : ∃ c ∈ Text.Utf8.decodeLossy child.stdout, Text.isBlank c = false)
      (malformed : Json.read ((outputText child.stdout).map .char) =
        .error (.malformed complaint rest)) :
      Answered b child files request
        (.failure
          { code := .internal
            message := "Backend returned undecodable output for " ++ request.command
            details :=
              some (.plain ((Json.Fault.malformed complaint rest).message
              ((outputText child.stdout).map .char))) })

/-- The request comes to an outcome, and to the right one. -/
def Answers (b : Backend) (child : Child) (files : Files) (request : Request) : Prop :=
  ∃ outcome, (b.invoke child files request).outcome = .ok outcome ∧
    b.Answered child files request outcome

/-- The output that is looked at has a whole number with too many digits. -/
inductive Chokes (b : Backend) (child : Child) (files : Files) (request : Request) : Fault → Prop
  | stderr {input : List UInt8} {left : Files} {count : Nat}
      (started : b.Started child files request input left) (failed : child.exitCode ≠ some 0)
      (long : Json.read ((outputText child.stderr).map .char) = .error (.tooManyDigits count)) :
      Chokes b child files request (.tooManyDigits count)
  | stdout {input : List UInt8} {left : Files} {count : Nat}
      (started : b.Started child files request input left) (exited : child.exitCode = some 0)
      (long : Json.read ((outputText child.stdout).map .char) = .error (.tooManyDigits count)) :
      Chokes b child files request (.tooManyDigits count)

/-- A child that has been started and is not overdue is answered for by its exit code. -/
theorem outcome_of_started {input : List UInt8} {left : Files} (faced : b.Faced child files request)
    (started : b.Started child files request input left) :
    (b.invoke child files request).outcome =
      if child.exitCode.getD unknownExit = 0 then
        answer request.command (outputText child.stdout)
      else
        (exitFailure (child.exitCode.getD unknownExit) (outputText child.stderr)).map .failure := by
  obtain ⟨seconds, bound, late⟩ := exists_bound faced.bounded child
  have exchanged := exchanged_exchange b child files seconds request
  rw [invoke, bound]
  dsimp only
  generalize b.exchange child files seconds request = x at exchanged ⊢
  cases exchanged with
  | unknown unknown => cases started.known.symm.trans unknown
  | refused _ refused => cases started.encoded.symm.trans refused
  | unstarted _ _ failed => cases started.started.symm.trans failed
  | overdue _ some overdue => exact absurd (late.2 ⟨_, some, overdue⟩) faced.inTime
  | exited => rfl

/-- A child that succeeded is answered for by its output. -/
theorem answered_answer {input : List UInt8} {left : Files}
    (started : b.Started child files request input left) (exited : child.exitCode = some 0)
    (free : ∀ fault, ¬ b.Chokes child files request fault) :
    ∃ outcome, answer request.command (outputText child.stdout) = .ok outcome ∧
      b.Answered child files request outcome := by
  cases stdout : outputText child.stdout with
  | nil => exact ⟨_, rfl, .silent started exited (Text.stripBy_eq_nil_iff.1 stdout)⟩
  | cons c rest =>
      match read : Json.read ((c :: rest).map .char) with
      | .ok v =>
          exact ⟨_, by simp only [answer, read], .decoded started exited (stdout ▸ read)⟩
      | .error (.tooManyDigits count) =>
          exact absurd (.stdout started exited (stdout ▸ read)) (free _)
      | .error (.malformed complaint place) =>
          have visible : ∃ c ∈ Text.Utf8.decodeLossy child.stdout, Text.isBlank c = false := by
            by_contra none
            simp only [not_exists, not_and, Bool.not_eq_false] at none
            exact absurd (stdout.symm.trans (Text.stripBy_eq_nil_iff.2 none)) nofun
          have answered := Answered.undecodable started exited visible (stdout ▸ read)
          rw [stdout] at answered
          exact ⟨_, by simp only [answer, read, Failure.internal], answered⟩

/-- A child that failed is answered for by what it says about it. -/
theorem answered_exitFailure {input : List UInt8} {left : Files}
    (started : b.Started child files request input left) (failed : child.exitCode ≠ some 0)
    (free : ∀ fault, ¬ b.Chokes child files request fault) :
    ∃ e, exitFailure (child.exitCode.getD unknownExit) (outputText child.stderr) = .ok e ∧
      b.Answered child files request (.failure e) := by
  have undescribed
      (other : ∀ v e, Json.read ((outputText child.stderr).map .char) = .ok v → ¬ v.Describes e) :=
    Answered.undescribed started failed other
  simp only [← List.isEmpty_iff] at undescribed
  unfold exitFailure
  match read : Json.read ((outputText child.stderr).map .char) with
  | .ok v =>
      cases described : Failure.ofValue? v with
      | some e =>
          exact ⟨e, by simp [described],
            .described started failed read (Failure.ofValue?_eq_some_iff.1 described)⟩
      | none =>
          refine ⟨_, rfl, ?_⟩
          rw [described]
          refine undescribed fun w e found describes => ?_
          obtain rfl := Except.ok.inj (read.symm.trans found)
          rw [Failure.ofValue?_eq_some_iff.2 describes] at described
          cases described
  | .error (.malformed ..) =>
      exact ⟨_, rfl, undescribed fun v e found => absurd (read.symm.trans found) nofun⟩
  | .error (.tooManyDigits count) => exact absurd (.stderr started failed read) (free _)

theorem answers_of_free (faced : b.Faced child files request)
    (free : ∀ fault, ¬ b.Chokes child files request fault) :
    b.Answers child files request := by
  obtain ⟨seconds, bound, late⟩ := exists_bound faced.bounded child
  have exchanged := exchanged_exchange b child files seconds request
  rw [Answers, invoke, bound]
  dsimp only
  generalize b.exchange child files seconds request = x at exchanged ⊢
  cases exchanged with
  | unknown unknown => exact ⟨_, rfl, .unknown unknown⟩
  | refused known refused =>
      obtain ⟨input, encoded⟩ := faced.encoded known
      cases encoded.symm.trans refused
  | unstarted known _ failed =>
      obtain ⟨report, rfl⟩ := faced.refused _ failed
      exact ⟨_, rfl, .unstarted known failed⟩
  | overdue _ some overdue => exact absurd (late.2 ⟨_, some, overdue⟩) faced.inTime
  | exited started =>
      dsimp only
      by_cases zero : child.exitCode.getD unknownExit = 0
      · rw [if_pos zero]
        exact answered_answer started (exitCode_eq_zero zero) free
      · have failed : child.exitCode ≠ some 0 := fun exited => zero (by rw [exited]; rfl)
        obtain ⟨e, described, answered⟩ := answered_exitFailure started failed free
        exact ⟨.failure e, by rw [if_neg zero, described]; rfl, answered⟩

theorem outcome_of_chokes {fault : Fault} (faced : b.Faced child files request)
    (chokes : b.Chokes child files request fault) :
    (b.invoke child files request).outcome = .error fault := by
  cases chokes with
  | stderr started failed long =>
      have other : child.exitCode.getD unknownExit ≠ 0 := fun zero => failed (exitCode_eq_zero zero)
      rw [outcome_of_started faced started, if_neg other, exitFailure, long]
      rfl
  | stdout started exited long =>
      rw [outcome_of_started faced started, if_pos (by rw [exited]; rfl), answer, long]
      intro blank
      rw [blank] at long
      cases long

theorem not_answers_of_chokes {fault : Fault} (faced : b.Faced child files request)
    (chokes : b.Chokes child files request fault) : ¬ b.Answers child files request := by
  rintro ⟨outcome, answered, -⟩
  rw [outcome_of_chokes faced chokes] at answered
  cases answered

/-- Without a bound, a child that is there and a request that is encoded are faced. -/
theorem faced_unbounded {input : List UInt8} {left : Files}
    (encoded : request.encode = .ok input)
    (started : child.start (argv {} request.command) files = .ok left) :
    Faced {} child files request where
  encoded _ := ⟨input, encoded⟩
  refused _ failed := absurd (started.symm.trans failed) nofun
  bounded := .inl rfl
  inTime overdue := overdue.1

/-- **What a request comes to.**  A request that is faced is answered just if the output that is
looked at has no whole number with too many digits; where it has one, that is the fault. -/
theorem answers_iff (faced : b.Faced child files request) :
    (b.Answers child files request ↔ ∀ fault, ¬ b.Chokes child files request fault) ∧
      ∀ fault, b.Chokes child files request fault →
        (b.invoke child files request).outcome = .error fault :=
  ⟨⟨fun answers _ chokes => not_answers_of_chokes faced chokes answers, answers_of_free faced⟩,
    fun _ => outcome_of_chokes faced⟩

/-- A child that fails and says nothing is answered for. -/
theorem answers_of_silent_failure :
    let child : Child := { exitCode := some 3 }
    let request : Request := ⟨"session_list", .null⟩
    Faced {} child { directory := [] } request ∧ Answers {} child { directory := [] } request := by
  intro child request
  have faced : Faced {} child { directory := [] } request := faced_unbounded rfl rfl
  refine ⟨faced, (answers_iff faced).1.2 ?_⟩
  rintro _ (⟨_, _, long⟩ | ⟨_, exited, _⟩)
  · cases long
  · cases exited

/-- A request is not answered by a numeral with too many digits. -/
theorem chokes_of_numeral {input : List UInt8} {left : Files} {d : Char} {digits : List Char}
    (started : b.Started child files request input left) (exited : child.exitCode = some 0)
    (wrote : child.stdout = Text.Utf8.encode (d :: digits)) (notZero : d ≠ '0')
    (areDigits : ∀ c ∈ d :: digits, c.isDigit = true)
    (long : Json.digitLimit < (d :: digits).length) :
    b.Chokes child files request (.tooManyDigits (d :: digits).length) := by
  have shown : outputText child.stdout = d :: digits := by
    rw [outputText, wrote, Text.Utf8.decodeLossy_encode]
    exact Text.stripBy_of_visible fun c member => Json.isBlank_of_isDigit (areDigits c member)
  refine .stdout started exited ?_
  rw [shown]
  exact Json.read_of_long notZero areDigits long

/-- A number of four thousand three hundred and one digits is no answer, and no failure either. -/
theorem not_answers_long_numeral :
    let child : Child := { stdout := Text.Utf8.encode ('1' :: List.replicate 4300 '1') }
    let request : Request := ⟨"session_list", .null⟩
    (invoke {} child { directory := [] } request).outcome = .error (.tooManyDigits 4301) ∧
      ¬ Answers {} child { directory := [] } request := by
  intro child request
  have faced : Faced {} child { directory := [] } request := faced_unbounded rfl rfl
  have length : ('1' :: List.replicate 4300 '1').length = 4301 := by
    rw [List.length_cons, List.length_replicate]
  have areDigits : ∀ c ∈ '1' :: List.replicate 4300 '1', c.isDigit = true := by
    refine List.forall_mem_cons.2 ⟨by decide, fun c member => ?_⟩
    rw [List.eq_of_mem_replicate member]
    decide
  have chokes : Chokes {} child { directory := [] } request (.tooManyDigits 4301) := by
    rw [← length]
    exact chokes_of_numeral ⟨rfl, rfl, rfl⟩ rfl rfl (by decide) areDigits
      (by rw [length]; decide)
  exact ⟨outcome_of_chokes faced chokes, not_answers_of_chokes faced chokes⟩

end Backend

end CaptureDesk
