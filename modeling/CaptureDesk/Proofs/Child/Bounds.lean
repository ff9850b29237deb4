import CaptureDesk.Backend
import CaptureDesk.Helper
import CaptureDesk.Proofs.Text.Surrogates
import Mathlib.Tactic.Common

/-!
# One child, and never left running

A request to the backend, and a run of a helper, start at most one child.  A child that is overdue
has been killed and waited for when the answer is given; any other has ended by itself, and the
answer is the one that would have been given without a bound.

All that can happen is said once, for the backend in `Backend.Exchanged` and for a helper in
`Helper.Ran`; the rest is read off from these.  What a setting means as a bound is said by
`Value.IsPositive` and `Value.seconds?`, and `bound?` agrees with them on every setting that is null
or a number that a double holds.
-/

namespace CaptureDesk

/-! ## Bounds -/

/-- A setting is a positive number; truth values count as one and zero. -/
def Value.IsPositive : Value → Prop
  | .bool b => b = true
  | .int n => 0 < n
  | .float x => 0 < x
  | _ => False

/-- The double nearest to a number; truth values count as one and zero. -/
def Value.seconds? : Value → Option Float
  | .bool b => Decimal.ofInt? (if b then 1 else 0)
  | .int n => Decimal.ofInt? n
  | .float x => some x
  | _ => none

/-- A setting is null, or a number that a double holds. -/
def Value.IsTimeout (timeout : Value) : Prop :=
  timeout = .null ∨ ∃ x, timeout.seconds? = some x

/-- A setting is null or a number. -/
def Value.IsNumeric : Value → Prop
  | .null | .bool _ | .int _ | .float _ => True
  | .str _ | .moment _ | .array _ | .object _ => False

/-- A setting is a positive whole number that no double is near to. -/
def Value.IsEndless (timeout : Value) : Prop :=
  ∃ n : Int, timeout = .int n ∧ 0 < n ∧ Decimal.ofInt? n = none

/-- The timeout is a positive number, and smaller than what the child needs. -/
def Child.Overdue (child : Child) (timeout : Value) : Prop :=
  timeout.IsPositive ∧ ∃ x, timeout.seconds? = some x ∧ x < child.delay

/-- A positive number that a double holds is a bound. -/
theorem bound?_of_positive {timeout : Value} {x : Float} (positive : timeout.IsPositive)
    (seconds : timeout.seconds? = some x) : bound? timeout = .ok (some x) := by
  cases timeout with
  | bool b =>
      cases b with
      | false => cases positive
      | true =>
          have near : Decimal.ofInt? 1 = some x := seconds
          simp [bound?, near]
  | int n =>
      have above : 0 < n := positive
      have near : Decimal.ofInt? n = some x := seconds
      simp [bound?, above, near]
  | float y =>
      have above : 0 < y := positive
      cases seconds
      simp [bound?, above]
  | null | str | moment | array | object => cases positive

/-- Null, and a number that is not positive, are no bound. -/
theorem bound?_of_not_positive {timeout : Value} (numeric : timeout.IsNumeric)
    (other : ¬ timeout.IsPositive) : bound? timeout = .ok none := by
  cases timeout with
  | bool b =>
      cases b with
      | false => rfl
      | true => exact absurd rfl other
  | int n =>
      unfold bound?
      exact if_neg other
  | float y =>
      unfold bound?
      exact congrArg Except.ok (if_neg other)
  | null => rfl
  | str | moment | array | object => cases numeric

/-- A positive number that no double is near to is no bound either, but a fault. -/
theorem bound?_of_endless {timeout : Value} (endless : timeout.IsEndless) :
    bound? timeout = .error .tooLarge := by
  rcases endless with ⟨n, rfl, positive, far⟩
  simp [bound?, positive, far]

theorem Value.IsTimeout.isNumeric {timeout : Value} (fits : timeout.IsTimeout) :
    timeout.IsNumeric := by
  rcases fits with rfl | ⟨x, seconds⟩
  · trivial
  · cases timeout with
    | null | bool | int | float => trivial
    | str | moment | array | object => cases seconds

/-- A positive number is one that a double holds, unless it is endless. -/
theorem isTimeout_of_isPositive {timeout : Value} (positive : timeout.IsPositive)
    (ends : ¬ timeout.IsEndless) : timeout.IsTimeout := by
  cases timeout with
  | bool b =>
      cases b with
      | false => cases positive
      | true => exact Or.inr ⟨1, by decide⟩
  | int n =>
      cases near : Decimal.ofInt? n with
      | none => exact absurd ⟨n, rfl, positive, near⟩ ends
      | some x => exact Or.inr ⟨x, near⟩
  | float x => exact Or.inr ⟨x, rfl⟩
  | null | str | moment | array | object => cases positive

/-- What a timeout grants: a child outlives it just if it is overdue. -/
theorem exists_bound {timeout : Value} (fits : timeout.IsTimeout) (child : Child) :
    ∃ seconds, bound? timeout = .ok seconds ∧
      (child.Overdue timeout ↔ ∃ x, seconds = some x ∧ x < child.delay) := by
  by_cases positive : timeout.IsPositive
  · rcases fits with rfl | ⟨x, seconds⟩
    · cases positive
    · refine ⟨some x, bound?_of_positive positive seconds, ?_⟩
      simp [Child.Overdue, positive, seconds]
  · exact ⟨none, bound?_of_not_positive fits.isNumeric positive,
      by simp [Child.Overdue, positive]⟩

/-- So it is with every number that is not endless. -/
theorem exists_bound_of_isNumeric {timeout : Value} (numeric : timeout.IsNumeric)
    (ends : ¬ timeout.IsEndless) (child : Child) :
    ∃ seconds, bound? timeout = .ok seconds ∧
      (child.Overdue timeout ↔ ∃ x, seconds = some x ∧ x < child.delay) := by
  by_cases positive : timeout.IsPositive
  · exact exists_bound (isTimeout_of_isPositive positive ends) child
  · exact ⟨none, bound?_of_not_positive numeric positive, by simp [Child.Overdue, positive]⟩

/-- A child that is overdue is left at the bound; any other is waited for as without a bound. -/
theorem Child.await_cases (child : Child) (seconds : Option Float) :
    (∃ x, seconds = some x ∧ x < child.delay ∧
      child.await seconds = .overdue (child.exitsEarly && child.exitCode.isSome)) ∨
    ((¬ ∃ x, seconds = some x ∧ x < child.delay) ∧
      child.await seconds = .exited child.exitCode child.stdout child.stderr) := by
  cases seconds with
  | none => exact Or.inr ⟨by simp, rfl⟩
  | some x =>
      by_cases late : x < child.delay
      · exact Or.inl ⟨x, rfl, late, if_pos late⟩
      · exact Or.inr ⟨by simp [late], if_neg late⟩

/-- The exit code that stands for one that is not known is not zero. -/
theorem exitCode_eq_zero {code : Option Int} (zero : code.getD unknownExit = 0) :
    code = some 0 := by
  cases code with
  | none => cases zero
  | some n => exact congrArg some zero

/-! ## Requests to the backend -/

namespace Request

/-- Wrapping a request adds nothing that could be refused. -/
theorem refusal?_payload (r : Request) : Json.refusal? r.payload = Json.refusal? r.body := by
  unfold payload
  split
  · rfl
  · exact Option.or_none

theorem holdsSurrogate_payload (r : Request) :
    r.payload.holdsSurrogate = r.body.holdsSurrogate := by
  unfold payload
  split
  · rfl
  · simp [Value.holdsSurrogate, Value.fieldsHoldSurrogate, Str.isRough]

/-- **What is not encoded**: a request a part of which has no JSON form, or in which a surrogate
stands. -/
theorem exists_encode_error_iff (r : Request) : (∃ fault, r.encode = .error fault) ↔
    (∃ refusal, Json.refusal? r.body = some refusal) ∨ r.body.holdsSurrogate = true := by
  rw [← r.refusal?_payload, ← r.holdsSurrogate_payload, encode, Json.write?]
  cases Json.refusal? r.payload with
  | some refusal => simp
  | none =>
      have refused := Str.exists_encode_error_iff (.ofPoints (Json.compact r.payload))
      rw [Json.isRough_compact] at refused
      rw [← refused]
      simp only
      cases Str.encode (.ofPoints (Json.compact r.payload)) <;> simp [Except.mapError]

end Request

namespace Backend

variable {b : Backend} {child : Child} {files : Files} {request : Request}

/-- The backend knows the command, the request is encoded as `input`, and the child is started,
which leaves the files `left`. -/
structure Started (b : Backend) (child : Child) (files : Files) (request : Request)
    (input : List UInt8) (left : Files) : Prop where
  known : request.isKnown = true
  encoded : request.encode = .ok input
  started : child.start (b.argv request.command) files = .ok left

/-- All that an exchange can come to. -/
inductive Exchanged (b : Backend) (child : Child) (files : Files) (seconds : Option Float)
    (request : Request) : Exchange → Prop
  | unknown : request.isKnown = false →
      Exchanged b child files seconds request { outcome := .ok request.unsupported, files }
  | refused {fault : Fault} :
      request.isKnown = true → request.encode = .error fault →
      Exchanged b child files seconds request { outcome := .error fault, files }
  | unstarted {input : List UInt8} {fault : Fault} :
      request.isKnown = true → request.encode = .ok input →
      child.start (b.argv request.command) files = .error fault →
      Exchanged b child files seconds request
        { outcome := b.unstarted fault
          reports := [.invokeStarted request.command]
          spawns := [{ argv := b.argv request.command, directory := b.directory }]
          files }
  | overdue {input : List UInt8} {left : Files} {x : Float} :
      b.Started child files request input left → seconds = some x → x < child.delay →
      Exchanged b child files seconds request
        { outcome := .ok (.failure (timeoutFailure request.command x))
          reports :=
            [.invokeStarted request.command, .invokeKilled request.command,
              .invokeTimedOut request.command b.timeout]
          spawns :=
            [{ argv := b.argv request.command
               directory := b.directory
               stdin := some input
               killed := !(child.exitsEarly && child.exitCode.isSome)
               waited := true }]
          files := left }
  | exited {input : List UInt8} {left : Files} :
      b.Started child files request input left → (¬ ∃ x, seconds = some x ∧ x < child.delay) →
      Exchanged b child files seconds request
        { outcome :=
            if child.exitCode.getD unknownExit = 0 then
              answer request.command (outputText child.stdout)
            else
              (exitFailure (child.exitCode.getD unknownExit) (outputText child.stderr)).map .failure
          reports :=
            [.invokeStarted request.command,
              .invokeExited request.command (child.exitCode.getD unknownExit)
                (String.ofList ((outputText child.stderr).take 400))]
          spawns :=
            [{ argv := b.argv request.command
               directory := b.directory
               stdin := some input }]
          files := left }

theorem exchanged_exchange (b : Backend) (child : Child) (files : Files) (seconds : Option Float)
    (request : Request) :
    Exchanged b child files seconds request (b.exchange child files seconds request) := by
  unfold exchange
  cases known : request.isKnown with
  | false => exact .unknown known
  | true =>
      simp only [Bool.not_true, Bool.false_eq_true, if_false]
      cases encoded : request.encode with
      | error fault => exact .refused known encoded
      | ok input =>
          simp only
          cases started : child.start (b.argv request.command) files with
          | error fault => exact .unstarted known encoded started
          | ok left =>
              simp only
              rcases child.await_cases seconds with ⟨x, some, late, ended⟩ | ⟨inTime, ended⟩
              · rw [ended, some]
                exact .overdue ⟨known, encoded, started⟩ rfl late
              · rw [ended]
                exact .exited ⟨known, encoded, started⟩ inTime

/-- A child that has not been started, or is not overdue, is treated as without a timeout. -/
theorem Exchanged.unbounded {seconds : Option Float} {x : Exchange}
    (exchanged : Exchanged b child files seconds request x)
    (inTime : ∀ input left, b.Started child files request input left →
      ¬ ∃ y, seconds = some y ∧ y < child.delay) :
    { b with timeout := .null }.invoke child files request = x := by
  show exchange { b with timeout := .null } child files none request = x
  unfold exchange
  cases exchanged with
  | unknown unknown => simp [unknown]
  | refused known refused => simp [known, refused]
  | unstarted known encoded failed =>
      have failed' : child.start (argv { b with timeout := .null } request.command) files =
        .error _ := failed
      simp only [known, encoded, failed']
      rfl
  | overdue started some late => exact absurd ⟨_, some, late⟩ (inTime _ _ started)
  | exited started _ =>
      have started' : child.start (argv { b with timeout := .null } request.command) files =
        .ok _ := started.started
      simp only [started.known, started.encoded, started']
      rfl

/-- What a request has come to: at most one child, which is never left running. -/
structure OneChild (b : Backend) (child : Child) (files : Files) (request : Request)
    (x : Exchange) : Prop where
  atMostOne : x.spawns.length ≤ 1
  noneIff : x.spawns = [] ↔ request.isKnown = false ∨
    (∃ refusal, Json.refusal? request.body = some refusal) ∨ request.body.holdsSurrogate = true
  refused : request.isKnown = true → ∀ fault, request.encode = .error fault →
    x.outcome = .error fault
  overdue : child.Overdue b.timeout → ∀ input left, b.Started child files request input left →
    (∃ error, x.outcome = .ok (.failure error) ∧ error.code = .io ∧ error.recoverable = true) ∧
    (∃ spawn, x.spawns = [spawn] ∧ spawn.waited = true ∧
      (spawn.killed = true ↔ ¬ (child.exitsEarly = true ∧ child.exitCode.isSome = true))) ∧
    x.reports =
      [.invokeStarted request.command, .invokeKilled request.command,
        .invokeTimedOut request.command b.timeout]
  otherwise : (child.Overdue b.timeout → ∀ input left, ¬ b.Started child files request input left) →
    x = { b with timeout := .null }.invoke child files request ∧
      (∀ spawn ∈ x.spawns, spawn.killed = false) ∧
      ∀ command seconds, .invokeTimedOut command seconds ∉ x.reports
  success : ∀ v, x.outcome = .ok (.success v) →
    (∃ input left, b.Started child files request input left) ∧ ¬ child.Overdue b.timeout ∧
      child.exitCode = some 0

/-- Only a child whose exit code is known to be zero brings a success. -/
theorem exitCode_of_success {code : Option Int} {command : Str} {stdout stderr : List Char}
    {v : Value}
    (success : (if code.getD unknownExit = 0 then answer command stdout
      else (exitFailure (code.getD unknownExit) stderr).map .failure) = .ok (.success v)) :
    code = some 0 := by
  split at success
  · exact exitCode_eq_zero ‹_›
  · cases failed : exitFailure (code.getD unknownExit) stderr with
    | error fault =>
        rw [failed] at success
        cases success
    | ok error =>
        rw [failed] at success
        cases success

theorem unstarted_ne_success (b : Backend) (fault : Fault) (v : Value) :
    b.unstarted fault ≠ .ok (.success v) := by
  cases fault <;> simp [unstarted]

/-- A request for a known command that is encoded is neither unknown nor refused. -/
theorem not_refused {input : List UInt8} (known : request.isKnown = true)
    (encoded : request.encode = .ok input) :
    ¬ (request.isKnown = false ∨
      (∃ refusal, Json.refusal? request.body = some refusal) ∨
        request.body.holdsSurrogate = true) := by
  rw [← request.exists_encode_error_iff]
  rintro (unknown | ⟨fault, refused⟩)
  · rw [known] at unknown
    cases unknown
  · rw [encoded] at refused
    cases refused

theorem Exchanged.oneChild {seconds : Option Float} {x : Exchange}
    (exchanged : Exchanged b child files seconds request x)
    (granted : child.Overdue b.timeout ↔ ∃ y, seconds = some y ∧ y < child.delay) :
    b.OneChild child files request x := by
  have unbounded :
      (child.Overdue b.timeout → ∀ input left, ¬ b.Started child files request input left) →
      x = { b with timeout := .null }.invoke child files request := by
    intro inTime
    refine (exchanged.unbounded ?_).symm
    intro input left started late
    exact inTime (granted.mpr late) input left started
  cases exchanged with
  | unknown unknown =>
      have notKnown : request.isKnown ≠ true := ne_true_of_eq_false unknown
      refine ⟨Nat.zero_le 1, iff_of_true rfl (.inl unknown), ?_, ?_, ?_, nofun⟩
      · exact fun known => absurd known notKnown
      · exact fun _ _ _ started => absurd started.known notKnown
      · exact fun inTime => ⟨unbounded inTime, nofun, nofun⟩
  | refused known refused =>
      have unencodable := request.exists_encode_error_iff.1 ⟨_, refused⟩
      refine ⟨Nat.zero_le 1, iff_of_true rfl (.inr unencodable), ?_, ?_, ?_, nofun⟩
      · intro _ fault refused'
        exact congrArg Except.error (Except.error.inj (refused.symm.trans refused'))
      · intro _ input left started
        exact absurd (.inr unencodable) (not_refused started.known started.encoded)
      · exact fun inTime => ⟨unbounded inTime, nofun, nofun⟩
  | unstarted known encoded failed =>
      refine ⟨Nat.le_refl 1, iff_of_false nofun (not_refused known encoded), ?_, ?_, ?_, ?_⟩
      · exact fun _ _ refused => nomatch encoded.symm.trans refused
      · intro _ input left started
        rw [started.started] at failed
        cases failed
      · exact fun inTime => ⟨unbounded inTime, by simp, by simp⟩
      · intro v success
        exact absurd success (b.unstarted_ne_success _ v)
  | overdue started some late =>
      -- The child was started and is overdue, so `otherwise` has nothing to say.
      have overdue := granted.mpr ⟨_, some, late⟩
      refine ⟨Nat.le_refl 1, iff_of_false nofun (not_refused started.known started.encoded),
        ?_, ?_, ?_, nofun⟩
      · exact fun _ _ refused => nomatch started.encoded.symm.trans refused
      · intro _ input left _
        refine ⟨⟨_, rfl, rfl, rfl⟩, ⟨_, rfl, rfl, ?_⟩, rfl⟩
        cases child.exitsEarly <;> simp
      · intro inTime
        exact absurd started (inTime overdue _ _)
  | exited started inTime =>
      have notOverdue := fun overdue => inTime (granted.mp overdue)
      refine ⟨Nat.le_refl 1, iff_of_false nofun (not_refused started.known started.encoded),
        ?_, ?_, ?_, ?_⟩
      · exact fun _ _ refused => nomatch started.encoded.symm.trans refused
      · exact fun overdue => absurd overdue notOverdue
      · exact fun inTime => ⟨unbounded inTime, by simp, by simp⟩
      · intro v success
        exact ⟨⟨_, _, started⟩, notOverdue, exitCode_of_success success⟩

/-- A request starts at most one child and leaves none running. -/
theorem oneChild_invoke (fits : b.timeout.IsTimeout) (child : Child) (files : Files)
    (request : Request) : b.OneChild child files request (b.invoke child files request) := by
  obtain ⟨seconds, bound, granted⟩ := exists_bound fits child
  rw [invoke, bound]
  exact (exchanged_exchange b child files seconds request).oneChild granted

end Backend

/-! ## Runs of a helper -/

namespace Helper

variable {h : Helper} {child : Child} {files : Files} {argument : Str}
  {stdin : Option (List UInt8)}

/-- The helper's child is started, which leaves the files `left`. -/
def Started (h : Helper) (child : Child) (files : Files) (argument : Str) (left : Files) : Prop :=
  child.start [h.binary, .str argument] files = .ok left

/-- All that a run can come to when the bound is `seconds`. -/
inductive Ran (h : Helper) (child : Child) (files : Files) (argument : Str)
    (stdin : Option (List UInt8)) (seconds : Option Float) : HelperRun (List UInt8) → Prop
  | unstarted {fault : Fault} :
      child.start [h.binary, .str argument] files = .error fault →
      Ran h child files argument stdin seconds
        { result := .error (h.startFault fault)
          reports := [h.opening argument]
          spawns := [{ argv := [h.binary, .str argument] }]
          files }
  | overdue {left : Files} {x : Float} :
      h.Started child files argument left → seconds = some x → x < child.delay →
      Ran h child files argument stdin seconds
        { result :=
            .error (h.fault (h.kind.name ++ " helper timed out after " ++ secondsText x))
          reports := [h.opening argument, .helperTimedOut h.kind.name h.timeout]
          spawns :=
            [{ argv := [h.binary, .str argument], stdin, killed := true, waited := true }]
          files := left }
  | exited {left : Files} {stderr : List Char} :
      h.Started child files argument left → (¬ ∃ x, seconds = some x ∧ x < child.delay) →
      stderr = Text.stripChars (Text.Utf8.decodeLossy child.stderr) →
      Ran h child files argument stdin seconds
        { result :=
            if child.exitCode.getD unknownExit = 0 then .ok child.stdout
            else
              .error (h.fault
                (h.kind.name ++ " helper failed with exit code " ++
                  toString (child.exitCode.getD unknownExit) ++ ": " ++ String.ofList stderr)
                (some (child.exitCode.getD unknownExit)))
          reports :=
            [h.opening argument,
              .helperExited h.kind.name (child.exitCode.getD unknownExit)
                (String.ofList (stderr.take 400))]
          spawns := [{ argv := [h.binary, .str argument], stdin }]
          files := left }

theorem ran_run {seconds : Option Float} (bound : bound? h.timeout = .ok seconds) (child : Child)
    (files : Files) (argument : Str) (stdin : Option (List UInt8)) :
    Ran h child files argument stdin seconds (h.run child files argument stdin) := by
  unfold run
  cases started : child.start [h.binary, .str argument] files with
  | error fault => simpa only [started] using Ran.unstarted started
  | ok left =>
      simp only [started, bound]
      rcases child.await_cases seconds with ⟨x, some, late, ended⟩ | ⟨inTime, ended⟩
      · rw [ended, some]
        exact .overdue started rfl late
      · rw [ended]
        exact .exited started inTime rfl

/-- A child that has not been started, or is not overdue, is treated as without a bound. -/
theorem Ran.unbounded {seconds : Option Float} {r : HelperRun (List UInt8)}
    (ran : Ran h child files argument stdin seconds r)
    (inTime : ∀ left, h.Started child files argument left →
      ¬ ∃ x, seconds = some x ∧ x < child.delay) :
    { h with timeout := .null }.run child files argument stdin = r := by
  unfold run
  cases ran with
  | unstarted failed =>
      simp only [failed]
      rfl
  | overdue started some late => exact absurd ⟨_, some, late⟩ (inTime _ started)
  | exited started _ stderr =>
      unfold Started at started
      subst stderr
      simp only [started]
      rfl

/-- What a run has come to: one attempt to start a child, which is never left running. -/
structure OneChild (h : Helper) (child : Child) (files : Files) (argument : Str)
    (stdin : Option (List UInt8)) (r : HelperRun (List UInt8)) : Prop where
  once : r.spawns.length = 1
  overdue : child.Overdue h.timeout → ∀ left, h.Started child files argument left →
    (∃ fault, r.result = .error (.helper fault) ∧ fault.code = .io ∧ fault.recoverable = true) ∧
    (∃ spawn, r.spawns = [spawn] ∧ spawn.killed = true ∧ spawn.waited = true) ∧
    r.reports = [h.opening argument, .helperTimedOut h.kind.name h.timeout]
  otherwise : (child.Overdue h.timeout → ∀ left, ¬ h.Started child files argument left) →
    r = { h with timeout := .null }.run child files argument stdin ∧
      (∀ spawn ∈ r.spawns, spawn.killed = false) ∧
      ∀ helper seconds, .helperTimedOut helper seconds ∉ r.reports
  success : ∀ octets, r.result = .ok octets →
    (∃ left, h.Started child files argument left) ∧ ¬ child.Overdue h.timeout ∧
      child.exitCode = some 0

/-- Only a child whose exit code is known to be zero brings a result. -/
theorem exitCode_of_ok {code : Option Int} {stdout octets : List UInt8} {fault : Fault}
    (success : (if code.getD unknownExit = 0 then Except.ok stdout else .error fault) =
      .ok octets) :
    code = some 0 := by
  split at success
  · exact exitCode_eq_zero ‹_›
  · cases success

theorem Ran.oneChild {seconds : Option Float} {r : HelperRun (List UInt8)}
    (ran : Ran h child files argument stdin seconds r)
    (granted : child.Overdue h.timeout ↔ ∃ x, seconds = some x ∧ x < child.delay) :
    h.OneChild child files argument stdin r := by
  have unbounded : (child.Overdue h.timeout → ∀ left, ¬ h.Started child files argument left) →
      r = { h with timeout := .null }.run child files argument stdin := by
    intro inTime
    refine (ran.unbounded ?_).symm
    intro left started late
    exact inTime (granted.mpr late) left started
  cases ran with
  | unstarted failed =>
      refine ⟨rfl, ?_, ?_, nofun⟩
      · intro _ left started
        unfold Started at started
        rw [started] at failed
        cases failed
      · exact fun inTime => ⟨unbounded inTime, by simp, by simp [opening]⟩
  | overdue started some late =>
      have overdue := granted.mpr ⟨_, some, late⟩
      refine ⟨rfl, ?_, ?_, nofun⟩
      · exact fun _ _ _ => ⟨⟨_, rfl, rfl, rfl⟩, ⟨_, rfl, rfl, rfl⟩, rfl⟩
      · intro inTime
        exact absurd started (inTime overdue _)
  | exited started inTime =>
      have notOverdue := fun overdue => inTime (granted.mp overdue)
      refine ⟨rfl, ?_, ?_, ?_⟩
      · exact fun overdue => absurd overdue notOverdue
      · exact fun inTime => ⟨unbounded inTime, by simp, by simp [opening]⟩
      · intro octets success
        exact ⟨⟨_, started⟩, notOverdue, exitCode_of_ok success⟩

/-- A run makes one attempt to start a child and does not leave it running. -/
theorem oneChild_run (fits : h.timeout.IsTimeout) (child : Child) (files : Files)
    (argument : Str) (stdin : Option (List UInt8)) :
    h.OneChild child files argument stdin (h.run child files argument stdin) := by
  obtain ⟨seconds, bound, granted⟩ := exists_bound fits child
  exact (ran_run bound child files argument stdin).oneChild granted

end Helper

/-! ## Both -/

/-- Whatever a child does, a request to the backend and a run of a helper start one at most, and
leave none running, if their timeouts are null or numbers that a double holds. -/
theorem oneChild_of_isTimeout {b : Backend} {h : Helper} (backend : b.timeout.IsTimeout)
    (helper : h.timeout.IsTimeout) (child : Child) (files : Files) (request : Request)
    (argument : Str) (stdin : Option (List UInt8)) :
    b.OneChild child files request (b.invoke child files request) ∧
      h.OneChild child files argument stdin (h.run child files argument stdin) :=
  ⟨b.oneChild_invoke backend child files request, h.oneChild_run helper child files argument stdin⟩

/-- A child that needs half a minute is overdue after a second and a half. -/
theorem oneChild_of_slow :
    (Value.float 1.5).IsTimeout ∧ Child.Overdue { delay := 30 } (.float 1.5) ∧
      Backend.OneChild { timeout := .float 1.5 } { delay := 30 } { directory := [] }
        ⟨"session_list", .null⟩
        (Backend.invoke { timeout := .float 1.5 } { delay := 30 } { directory := [] }
          ⟨"session_list", .null⟩) ∧
      Helper.OneChild { Helper.capturing with timeout := .float 1.5 } { delay := 30 }
        { directory := [] } "frame.png" none
        (Helper.run { Helper.capturing with timeout := .float 1.5 } { delay := 30 }
          { directory := [] } "frame.png" none) :=
  have fits : (Value.float 1.5).IsTimeout := Or.inr ⟨1.5, rfl⟩
  ⟨fits, ⟨(by decide : (0 : Float) < 1.5), 1.5, rfl, (by decide : (1.5 : Float) < 30)⟩,
    oneChild_of_isTimeout (b := { timeout := .float 1.5 })
      (h := { Helper.capturing with timeout := .float 1.5 }) fits fits { delay := 30 }
      { directory := [] } ⟨"session_list", .null⟩ "frame.png" none⟩

/-- A command that the backend knows starts no child when its request holds a date, which has no
JSON form. -/
theorem unspawned_of_date :
    let request : Request :=
      ⟨"tutorial_export_pack", .object [("output_dir", .moment (.date ⟨1979, 5, 27⟩))]⟩
    ¬ ((Backend.invoke {} {} { directory := [] } request).spawns = [] ↔
      request.isKnown = false) := by
  decide

end CaptureDesk
