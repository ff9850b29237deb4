import CaptureDesk.Feed
import Mathlib.Tactic.Common

/-!
# Runs of a monitor

In a run, envelopes and lines reach a monitor from all channels, and in between the flow notes the
handles of the jobs that it has scheduled.  Where an input belongs and whether it is accepted there
can be told from the input alone (`Input.address?`, `Input.accepted?`), so a run can be read off its
inputs.

* `Monitor.receive_of_address`, `Monitor.receive_of_stray`: all that one input can do.
* `Monitor.receive_ok_true_iff`: the answer is a yes just for what `Input.accepted?` accepts.
* `Monitor.tally_run`: the account of a channel is what the *letters* to this channel have made of
  it, whatever else came between them.
-/

namespace CaptureDesk

/-- Something that reaches a monitor: an envelope on the channel of a name, a line, or the handle of
a job. -/
inductive Input where
  | envelope (name : Str) (raw : Value)
  | line (text : Str)
  | handle (job : Str)
  deriving DecidableEq, Repr

/-- The channel that an input is for, and what arrives there. -/
def Input.address? : Input → Option (Channel × Value)
  | .envelope name raw => (Channel.ofName? name).map (·, raw)
  | .line text =>
      match Text.stripBy CodePoint.isBlank text.points with
      | [] => none
      | text =>
          match Json.read text with
          | .error _ => none
          | .ok record =>
              match record.field "channel" with
              | .str name => (Channel.ofName? name).map (·, record.field "envelope")
              | _ => none
  | .handle _ => none

/-- The envelope that a value stands for on a channel, if it is read without a fault. -/
def Envelope.read? (channel : Channel) (raw : Value) : Option Envelope :=
  match Envelope.read channel raw with
  | .ok envelope => envelope
  | .error _ => none

/-- The envelope of an input, with its channel, if it is accepted. -/
def Input.accepted? (x : Input) : Option (Channel × Envelope) :=
  x.address?.bind fun a => (Envelope.read? a.1 a.2).map (a.1, ·)

theorem Envelope.read_of_read? {channel : Channel} {raw : Value} {envelope : Envelope}
    (found : Envelope.read? channel raw = some envelope) :
    Envelope.read channel raw = .ok (some envelope) := by
  unfold Envelope.read? at found
  split at found
  · rename_i read
    rw [read, found]
  · cases found

/-- An accepted input is for the channel of its envelope. -/
theorem Input.address_of_accepted {x : Input} {channel : Channel} {envelope : Envelope}
    (accepted : x.accepted? = some (channel, envelope)) :
    ∃ raw, x.address? = some (channel, raw) ∧ Envelope.read? channel raw = some envelope := by
  obtain ⟨⟨target, raw⟩, address, read⟩ := Option.bind_eq_some_iff.mp accepted
  obtain ⟨found, read, same⟩ := Option.map_eq_some_iff.mp read
  cases same
  exact ⟨raw, address, read⟩

/-- The job that an input is the handle of. -/
def Input.handle? : Input → Option Str
  | .handle job => some job
  | _ => none

namespace Monitor

/-- Notes the handle of a job. -/
def noteHandle (m : Monitor) (job : Str) : Monitor :=
  { m with board := m.board.apply (.recordJobHandle job) }

/-- Takes an input in. -/
def receive (m : Monitor) : Input → Arrival
  | .envelope name raw => m.ingest name raw
  | .line text => m.ingestLine text
  | .handle job => { monitor := m.noteHandle job, result := .ok false }

/-- Takes inputs in, one after another.  An input that runs into a fault does not end the run. -/
def run (m : Monitor) (inputs : List Input) : Monitor :=
  inputs.foldl (fun m x => (m.receive x).monitor) m

theorem run_append (m : Monitor) (first second : List Input) :
    m.run (first ++ second) = (m.run first).run second :=
  List.foldl_append

theorem run_concat (m : Monitor) (inputs : List Input) (x : Input) :
    m.run (inputs ++ [x]) = ((m.run inputs).receive x).monitor :=
  run_append m inputs [x]

/-- Takes in what arrives on a channel. -/
def takeIn (m : Monitor) (channel : Channel) (raw : Value) : Arrival :=
  match Envelope.read channel raw with
  | .ok (some envelope) => m.accept channel envelope
  | .ok none => m.reject channel
  | .error fault => { monitor := m, result := .error fault }

theorem ingest_eq (m : Monitor) (name : Str) (raw : Value) :
    m.ingest name raw =
      match Channel.ofName? name with
      | some channel => m.takeIn channel raw
      | none => { monitor := m, result := .ok false } := by
  unfold ingest takeIn
  cases Channel.ofName? name <;> rfl

theorem ingest_of_named {m : Monitor} {name : Str} {channel : Channel} {raw raw' : Value}
    (named : (Channel.ofName? name).map (·, raw) = some (channel, raw')) :
    m.ingest name raw = m.takeIn channel raw' := by
  rw [ingest_eq]
  cases found : Channel.ofName? name with
  | none =>
      rw [found] at named
      cases named
  | some target =>
      rw [found] at named
      cases named
      rfl

/-- An input for a channel is taken in there. -/
theorem receive_of_address {m : Monitor} {x : Input} {channel : Channel} {raw : Value}
    (address : x.address? = some (channel, raw)) : m.receive x = m.takeIn channel raw := by
  cases x with
  | handle job => cases address
  | envelope name raw => exact ingest_of_named address
  | line text =>
      show m.ingestLine text = m.takeIn channel raw
      unfold ingestLine
      simp only [Input.address?] at address
      cases stripped : Text.stripBy CodePoint.isBlank text.points with
      | nil =>
          rw [stripped] at address
          cases address
      | cons c rest =>
          rw [stripped] at address
          cases read : Json.read (c :: rest) with
          | error fault =>
              simp only [read] at address
              cases address
          | ok record =>
              cases field : record.field "channel" with
              | str name =>
                  simp only [read, field] at address ⊢
                  exact ingest_of_named address
              | null | bool | int | float | moment | array | object =>
                  simp [read, field] at address

/-- What an input does that is for no channel. -/
structure Strays (m : Monitor) (x : Input) (a : Arrival) : Prop where
  result : a.result ≠ .ok true
  tally : ∀ c, a.monitor.feed.tally c = m.feed.tally c
  board : a.monitor.board =
    match x.handle? with
    | some job => m.board.apply (.recordJobHandle job)
    | none => m.board

theorem ingest_of_unnamed {m : Monitor} {name : Str} {raw : Value}
    (unnamed : (Channel.ofName? name).map (·, raw) = none) :
    m.ingest name raw = { monitor := m, result := .ok false } := by
  rw [ingest_eq]
  cases found : Channel.ofName? name with
  | none => rfl
  | some channel =>
      rw [found] at unnamed
      cases unnamed

/-- An input that is for no channel is not accepted, and changes no channel's account. -/
theorem receive_of_stray {m : Monitor} {x : Input} (nowhere : x.address? = none) :
    Strays m x (m.receive x) := by
  have same : ∀ result : Except Fault Bool, result ≠ .ok true → x.handle? = none →
      Strays m x { monitor := m, result } := by
    intro result notAccepted noHandle
    refine ⟨notAccepted, fun _ => rfl, ?_⟩
    rw [noHandle]
  have counted : x.handle? = none → Strays m x m.stray := by
    intro noHandle
    refine ⟨by simp [stray], fun c => by cases c <;> rfl, ?_⟩
    rw [noHandle]
    rfl
  cases x with
  | handle job => exact ⟨by simp [receive], fun _ => rfl, rfl⟩
  | envelope name raw =>
      unfold receive
      simp only [ingest_of_unnamed nowhere]
      exact same _ (by simp) rfl
  | line text =>
      show Strays m (.line text) (m.ingestLine text)
      unfold ingestLine
      simp only [Input.address?] at nowhere
      cases stripped : Text.stripBy CodePoint.isBlank text.points with
      | nil => exact same _ (by simp) rfl
      | cons c rest =>
          rw [stripped] at nowhere
          cases read : Json.read (c :: rest) with
          | error fault =>
              simp only [read]
              cases fault with
              | malformed => exact counted rfl
              | tooManyDigits count => exact same _ (by simp) rfl
          | ok record =>
              cases field : record.field "channel" with
              | str name =>
                  simp only [read, field] at nowhere ⊢
                  rw [ingest_of_unnamed nowhere]
                  exact same _ (by simp) rfl
              | null | bool | int | float | moment | array | object =>
                  simp only [read, field]
                  exact counted rfl

/-! ## What is accepted -/

/-- An input whose envelope is accepted is folded in. -/
theorem receive_of_accepted {m : Monitor} {x : Input} {channel : Channel} {envelope : Envelope}
    (accepted : x.accepted? = some (channel, envelope)) :
    m.receive x = m.accept channel envelope := by
  obtain ⟨raw, address, read⟩ := Input.address_of_accepted accepted
  rw [receive_of_address address]
  unfold takeIn
  rw [Envelope.read_of_read? read]

/-- An input whose envelope is not accepted leaves the board as it is, unless it is a handle. -/
theorem receive_of_not_accepted {m : Monitor} {x : Input} (not : x.accepted? = none) :
    (m.receive x).result ≠ .ok true ∧
      (m.receive x).monitor.board =
        match x.handle? with
        | some job => m.board.apply (.recordJobHandle job)
        | none => m.board := by
  cases address : x.address? with
  | none =>
      have strays := receive_of_stray (m := m) address
      exact ⟨strays.result, strays.board⟩
  | some a =>
      have noHandle : x.handle? = none := by
        cases x with
        | handle job => cases address
        | envelope | line => rfl
      unfold Input.accepted? Envelope.read? at not
      rw [address] at not
      rw [receive_of_address address, noHandle]
      unfold takeIn
      cases read : Envelope.read a.1 a.2 with
      | error fault => exact ⟨by simp, rfl⟩
      | ok envelope =>
          cases envelope with
          | none => exact ⟨by simp [reject], rfl⟩
          | some envelope => simp [read] at not

/-- An input is answered with a yes just when its envelope is accepted. -/
theorem receive_ok_true_iff (m : Monitor) (x : Input) :
    (m.receive x).result = .ok true ↔ ∃ a, x.accepted? = some a := by
  cases accepted : x.accepted? with
  | none => simp [(receive_of_not_accepted (m := m) accepted).1]
  | some a => simp [receive_of_accepted accepted, accept]

end Monitor

/-! ## The letters to one channel -/

/-- What arrives on a channel in the course of some inputs. -/
def letters (channel : Channel) (inputs : List Input) : List Value :=
  inputs.filterMap fun x =>
    x.address?.bind fun a => if a.1 = channel then some a.2 else none

/-- The envelopes that are accepted on a channel in the course of some inputs. -/
def envelopes (channel : Channel) (inputs : List Input) : List Envelope :=
  inputs.filterMap fun x =>
    x.accepted?.bind fun a => if a.1 = channel then some a.2 else none

/-- Accounts for a letter to the channel. -/
def Tally.note (channel : Channel) (t : Tally) (raw : Value) : Tally :=
  match Envelope.read channel raw with
  | .ok (some envelope) => t.advance envelope.seq
  | .ok none => t.drop
  | .error _ => t

/-- The envelopes of a channel are those that its letters are read as. -/
theorem envelopes_eq_letters (channel : Channel) (inputs : List Input) :
    envelopes channel inputs = (letters channel inputs).filterMap (Envelope.read? channel) := by
  unfold envelopes letters
  rw [List.filterMap_filterMap]
  congr 1
  funext x
  unfold Input.accepted?
  cases x.address? with
  | none => rfl
  | some a =>
      obtain ⟨target, raw⟩ := a
      by_cases mine : target = channel
      · subst mine
        cases read : Envelope.read? target raw <;> simp [read]
      · cases read : Envelope.read? target raw <;> simp [read, mine]

/-- One more input that is accepted is one more envelope of its channel. -/
theorem envelopes_concat_accepted {inputs : List Input} {x : Input} {channel : Channel}
    {envelope : Envelope} (accepted : x.accepted? = some (channel, envelope)) (d : Channel) :
    envelopes d (inputs ++ [x]) =
      if channel = d then envelopes d inputs ++ [envelope] else envelopes d inputs := by
  unfold envelopes
  rw [List.filterMap_append]
  by_cases mine : channel = d
  · simp [accepted, mine]
  · simp [accepted, mine]

/-- One more input that is not accepted is no envelope of any channel. -/
theorem envelopes_concat_other {inputs : List Input} {x : Input} (not : x.accepted? = none)
    (d : Channel) : envelopes d (inputs ++ [x]) = envelopes d inputs := by
  unfold envelopes
  rw [List.filterMap_append]
  simp [not]

namespace Monitor

/-- Taking something in on a channel accounts for it there, and nowhere else. -/
theorem tally_takeIn (m : Monitor) (c d : Channel) (raw : Value) :
    (m.takeIn c raw).monitor.feed.tally d =
      if c = d then (m.feed.tally d).note c raw else m.feed.tally d := by
  unfold takeIn Tally.note
  cases Envelope.read c raw with
  | error fault => simp
  | ok envelope =>
      cases envelope with
      | none => exact Feed.tally_update ..
      | some envelope => exact Feed.tally_update ..

/-- **The account of a channel depends on the letters to it alone.** -/
theorem tally_run (m : Monitor) (inputs : List Input) (c : Channel) :
    (m.run inputs).feed.tally c = (letters c inputs).foldl (Tally.note c) (m.feed.tally c) := by
  induction inputs generalizing m with
  | nil => rfl
  | cons x inputs ih =>
      have first : (m.run (x :: inputs)) = (m.receive x).monitor.run inputs := rfl
      rw [first, ih]
      cases address : x.address? with
      | none =>
          rw [(receive_of_stray address).tally]
          simp [letters, address]
      | some a =>
          obtain ⟨channel, raw⟩ := a
          rw [receive_of_address address, tally_takeIn]
          by_cases mine : channel = c
          · subst mine
            simp [letters, address]
          · simp [letters, address, mine]

end Monitor

end CaptureDesk
