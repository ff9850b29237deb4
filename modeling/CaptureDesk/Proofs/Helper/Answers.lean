import CaptureDesk.Proofs.Child.Bounds
import CaptureDesk.Proofs.Recognition.Outputs

/-!
# What a helper comes to

A capture or a recognition gives its result or fails with a fault of the helper, unless one of three
things happens (`Helper.Escapes`): the operating system refuses to start the program for another
reason than that it is not there, the seconds that are granted are more than a double holds, or
what the program has left cannot be used for a reason that is not looked at.  A result is only given
after the program has been started, was done in time, and has exited with zero (`Helper.Finished`).
-/

namespace CaptureDesk

/-- A result is given, or the fault is one of a helper. -/
def HelperRun.Answered {α : Type} (r : HelperRun α) : Prop :=
  (∃ a, r.result = .ok a) ∨ ∃ fault, r.result = .error (.helper fault)

/-- A fault is neither one of a helper, nor a report that something is not there, which a helper
puts in its own words. -/
structure Fault.Foreign (fault : Fault) : Prop where
  notOurs : ∀ f, fault ≠ .helper f
  notMissing : ∀ report, fault = .system report → report.isNotFound = false

theorem Fault.Foreign.system {report : SystemFault} (there : report.isNotFound = false) :
    (Fault.system report).Foreign where
  notOurs := by simp
  notMissing := by
    rintro _ ⟨⟩
    exact there

/-- Reading a file never brings a fault of a helper. -/
theorem Files.read_ne_helper {files : Files} {path : Path} {fault : Fault}
    (refused : files.read path = .error fault) (f : HelperFault) : fault ≠ .helper f := by
  rintro rfl
  unfold read at refused
  cases found : files.locate path with
  | error other =>
      rw [found] at refused
      cases refused
      unfold locate locateAs at found
      split at found
      · rename_i asked
        cases found
        unfold unaskable? at asked
        split at asked
        · cases asked
        · split at asked <;> cases asked
      · split at found
        · cases found
        · cases followed : files.follow path.text (files.start path) path.names <;>
            rw [followed] at found <;> cases found
  | ok place =>
      simp only [found, bind, Except.bind] at refused
      split at refused <;> cases refused

namespace Helper

variable {h : Helper} {child : Child} {files left : Files} {argument : Str} {path : Path}
  {fault : Fault}

/-- The child has been started, which leaves the files `left`; it was done in time, and its exit
code is known to be zero. -/
structure Finished (h : Helper) (child : Child) (files : Files) (argument : Str) (left : Files) :
    Prop where
  started : h.Started child files argument left
  inTime : ¬ child.Overdue h.timeout
  exited : child.exitCode = some 0

/-- The faults that a run lets through.  `spoils left fault`: what the child has left cannot be
used, and that is a fault of another kind. -/
inductive Escapes (h : Helper) (child : Child) (files : Files) (argument : Str)
    (spoils : Files → Fault → Prop) : Fault → Prop
  | refused {fault : Fault} (failed : child.start [h.binary, .str argument] files = .error fault)
      (foreign : fault.Foreign) : Escapes h child files argument spoils fault
  | endless {left : Files} (started : h.Started child files argument left)
      (endless : h.timeout.IsEndless) : Escapes h child files argument spoils .tooLarge
  | spoilt {left : Files} {fault : Fault} (ends : ¬ h.timeout.IsEndless)
      (finished : h.Finished child files argument left) (spoilt : spoils left fault) :
      Escapes h child files argument spoils fault

/-- What a run comes to: it is answered just if nothing escapes it, and what escapes it is its
fault.  A result is only given by a child that has finished, and is what it has made. -/
structure Settles {α : Type} (h : Helper) (child : Child) (files : Files) (argument : Str)
    (spoils : Files → Fault → Prop) (makes : Files → α → Prop) (r : HelperRun α) : Prop where
  answered_iff : r.Answered ↔ ∀ fault, ¬ h.Escapes child files argument spoils fault
  escaped : ∀ fault, h.Escapes child files argument spoils fault → r.result = .error fault
  given : ∀ a, r.result = .ok a → ∃ left, h.Finished child files argument left ∧ makes left a

/-! ## Runs -/

/-- A fault of a start is let through if it is foreign, and replaced by one of the helper if not. -/
theorem startFault_cases (h : Helper) (fault : Fault) :
    (fault.Foreign ∧ h.startFault fault = fault) ∨ ∃ f, h.startFault fault = .helper f := by
  cases fault with
  | helper f => exact Or.inr ⟨f, rfl⟩
  | system report =>
      cases there : report.isNotFound with
      | true => exact Or.inr ⟨_, by rw [startFault, there]; rfl⟩
      | false => exact Or.inl ⟨.system there, by rw [startFault, there]; rfl⟩
  | _ => exact Or.inl ⟨⟨by simp, by simp⟩, rfl⟩

theorem startFault_of_foreign (foreign : fault.Foreign) : h.startFault fault = fault := by
  rcases h.startFault_cases fault with ⟨_, same⟩ | ⟨f, ours⟩
  · exact same
  · cases fault with
    | helper f => exact absurd rfl (foreign.notOurs f)
    | system report => rw [startFault, foreign.notMissing report rfl]; rfl
    | _ => rfl

/-- A child that is not started comes to the fault of the start. -/
theorem result_of_failed (stdin : Option (List UInt8))
    (failed : child.start [h.binary, .str argument] files = .error fault) :
    (h.run child files argument stdin).result = .error (h.startFault fault) := by
  unfold run
  simp only [failed]

/-- A child that is granted endless seconds is started, and then nothing can be made of them. -/
theorem result_of_endless (stdin : Option (List UInt8))
    (started : h.Started child files argument left) (endless : h.timeout.IsEndless) :
    (h.run child files argument stdin).result = .error .tooLarge := by
  unfold Started at started
  unfold run
  simp only [started, bound?_of_endless endless]

/-- A child that finishes gives its output, and leaves the files as it has made them. -/
theorem result_of_finished (stdin : Option (List UInt8)) (numeric : h.timeout.IsNumeric)
    (ends : ¬ h.timeout.IsEndless) (finished : h.Finished child files argument left) :
    (h.run child files argument stdin).result = .ok child.stdout ∧
      (h.run child files argument stdin).files = left := by
  rcases exists_bound_of_isNumeric numeric ends child with ⟨seconds, bound, late⟩
  have ran := ran_run bound child files argument stdin
  generalize h.run child files argument stdin = r at ran ⊢
  cases ran with
  | unstarted failed => cases finished.started.symm.trans failed
  | overdue _ some overdue => exact absurd (late.2 ⟨_, some, overdue⟩) finished.inTime
  | exited started =>
      cases finished.started.symm.trans started
      exact ⟨by rw [finished.exited]; rfl, rfl⟩

/-- All that a run can come to: its child has finished, it has failed with a fault of the helper, or
a fault has escaped it. -/
theorem run_cases (numeric : h.timeout.IsNumeric) (child : Child) (files : Files)
    (argument : Str) (stdin : Option (List UInt8)) (spoils : Files → Fault → Prop) :
    (¬ h.timeout.IsEndless ∧ ∃ left, h.Finished child files argument left) ∨
      (∃ f, (h.run child files argument stdin).result = .error (.helper f)) ∨
        ∃ fault, h.Escapes child files argument spoils fault := by
  cases started : child.start [h.binary, .str argument] files with
  | error fault =>
      have failed := result_of_failed stdin started
      rcases h.startFault_cases fault with ⟨foreign, _⟩ | ⟨f, ours⟩
      · exact Or.inr (Or.inr ⟨fault, .refused started foreign⟩)
      · exact Or.inr (Or.inl ⟨f, by rw [failed, ours]⟩)
  | ok left =>
      by_cases endless : h.timeout.IsEndless
      · exact Or.inr (Or.inr ⟨_, .endless started endless⟩)
      · rcases exists_bound_of_isNumeric numeric endless child with ⟨seconds, bound, late⟩
        have ran := ran_run bound child files argument stdin
        generalize h.run child files argument stdin = r at ran ⊢
        cases ran with
        | unstarted failed => cases started.symm.trans failed
        | overdue => exact Or.inr (Or.inl ⟨_, rfl⟩)
        | exited began inTime =>
            by_cases zero : child.exitCode.getD unknownExit = 0
            · exact Or.inl ⟨endless, left, started, fun overdue => inTime (late.1 overdue),
                exitCode_eq_zero zero⟩
            · exact Or.inr (Or.inl ⟨_, if_neg zero⟩)

/-! ## What is made of the output -/

/-- What is made of the output of a child that has finished, judged by what it makes and by what
spoils it. -/
inductive Judged {α : Type} (makes : α → Prop) (spoils : Fault → Prop) : Except Fault α → Prop
  | made {a : α} (good : makes a) (clean : ∀ fault, ¬ spoils fault) : Judged makes spoils (.ok a)
  | failed {f : HelperFault} (clean : ∀ fault, ¬ spoils fault) :
      Judged makes spoils (.error (.helper f))
  | spoilt {fault : Fault} (foreign : ∀ f, fault ≠ .helper f) (spoilt : spoils fault)
      (only : ∀ other, spoils other → other = fault) : Judged makes spoils (.error fault)

/-- What is made of the output settles what the run comes to. -/
theorem settles_andThen {α : Type} (numeric : h.timeout.IsNumeric) (child : Child) (files : Files)
    (argument : Str) (stdin : Option (List UInt8)) {spoils : Files → Fault → Prop}
    {makes : Files → α → Prop} {next : Files → List UInt8 → Except Fault α}
    (judged : ∀ left, Judged (makes left) (spoils left) (next left child.stdout)) :
    h.Settles child files argument spoils makes
      ((h.run child files argument stdin).andThen next) := by
  have result_eq : ((h.run child files argument stdin).andThen next).result =
      (h.run child files argument stdin).result.bind
        (next (h.run child files argument stdin).files) := rfl
  have escaped : ∀ fault, h.Escapes child files argument spoils fault →
      ((h.run child files argument stdin).andThen next).result = .error fault ∧
        ∀ f, fault ≠ .helper f := by
    intro fault escapes
    rw [result_eq]
    cases escapes with
    | refused failed foreign =>
        rw [result_of_failed stdin failed, startFault_of_foreign foreign]
        exact ⟨rfl, foreign.notOurs⟩
    | endless started endless =>
        rw [result_of_endless stdin started endless]
        exact ⟨rfl, by simp⟩
    | @spoilt left _ ends finished spoils =>
        rcases result_of_finished stdin numeric ends finished with ⟨output, files⟩
        rw [output, files]
        have judged := judged left
        show next left child.stdout = _ ∧ _
        generalize next left child.stdout = made at judged ⊢
        cases judged with
        | made _ clean => exact absurd spoils (clean _)
        | failed clean => exact absurd spoils (clean _)
        | spoilt foreign _ only =>
            obtain rfl := only _ spoils
            exact ⟨rfl, foreign⟩
  refine ⟨⟨?_, ?_⟩, fun fault escapes => (escaped fault escapes).1, ?_⟩
  · intro answered fault escapes
    rcases escaped fault escapes with ⟨failed, foreign⟩
    rcases answered with ⟨a, given⟩ | ⟨f, ours⟩
    · cases failed.symm.trans given
    · exact foreign f (Except.error.inj (failed.symm.trans ours))
  · intro free
    rcases run_cases numeric child files argument stdin spoils with
      ⟨ends, left, finished⟩ | ⟨f, ours⟩ | ⟨fault, escapes⟩
    · rcases result_of_finished stdin numeric ends finished with ⟨output, files⟩
      rw [HelperRun.Answered, result_eq, output, files]
      show (∃ a, next left child.stdout = _) ∨ ∃ f, next left child.stdout = _
      have judged := judged left
      generalize next left child.stdout = made at judged ⊢
      cases judged with
      | made => exact Or.inl ⟨_, rfl⟩
      | failed => exact Or.inr ⟨_, rfl⟩
      | spoilt _ spoilt _ => exact absurd (.spoilt ends finished spoilt) (free _)
    · exact Or.inr ⟨f, by rw [result_eq, ours]; rfl⟩
    · exact absurd escapes (free fault)
  · intro a given
    rcases run_cases numeric child files argument stdin spoils with
      ⟨ends, left, finished⟩ | ⟨f, ours⟩ | ⟨fault, escapes⟩
    · rcases result_of_finished stdin numeric ends finished with ⟨output, files⟩
      rw [result_eq, output, files] at given
      change next left child.stdout = .ok a at given
      have judged := judged left
      rw [given] at judged
      cases judged with
      | made good => exact ⟨left, finished, good⟩
    · rw [result_eq, ours] at given
      cases given
    · cases (escaped fault escapes).1.symm.trans given

/-- The file at a path cannot be read, for another reason than that it is not there. -/
def Unreadable (path : Path) (left : Files) (fault : Fault) : Prop :=
  left.read path = .error fault ∧ fault.Foreign

/-- An image is what was read at the path, and is not empty. -/
def Captured (path : Path) (left : Files) (frame : Frame) : Prop :=
  frame.path = path ∧ left.read path = .ok frame.octets ∧ frame.octets ≠ []

/-- The image that a capture has left. -/
theorem judged_frame (h : Helper) (path : Path) (left : Files) :
    Judged (Captured path left) (Unreadable path left) (h.frame path left) := by
  unfold frame
  cases read : left.read path with
  | ok octets =>
      have clean : ∀ fault, ¬ Unreadable path left fault := by
        rintro fault ⟨refused, _⟩
        cases read.symm.trans refused
      cases octets with
      | nil => exact .failed clean
      | cons octet octets => exact .made ⟨rfl, read, nofun⟩ clean
  | error fault =>
      have only : ∀ other, Unreadable path left other → other = fault := by
        rintro other ⟨refused, _⟩
        exact Except.error.inj (refused.symm.trans read)
      have spoilt (foreign : fault.Foreign) : Judged (Captured path left) (Unreadable path left)
          (.error fault) :=
        .spoilt foreign.notOurs ⟨read, foreign⟩ only
      cases fault with
      | helper f => exact absurd rfl (Files.read_ne_helper read f)
      | system report =>
          cases there : report.isNotFound with
          | true =>
              simp only [there, if_true]
              refine .failed fun other unreadable => ?_
              obtain rfl := only other unreadable
              cases (unreadable.2.notMissing report rfl).symm.trans there
          | false =>
              simp only [there]
              exact spoilt (.system there)
      | _ => exact spoilt ⟨by simp, by simp⟩

open Recognition (Output)
open Recognition.Output (Chokes found_of_chokes reported_of_free)

/-- The blocks in the output of a recognition. -/
theorem judged_blocks (stdout : List UInt8) :
    Judged (fun blocks => Recognition.ofOctets stdout = .ok blocks)
      ((Output.octets stdout).Chokes ·) (Recognition.ofOctets stdout) := by
  by_cases chokes : ∃ fault, (Output.octets stdout).Chokes fault
  · rcases chokes with ⟨fault, chokes⟩
    have ended : Recognition.ofOctets stdout = .error fault := found_of_chokes chokes
    rw [ended]
    refine .spoilt ?_ chokes fun other others => ?_
    · rintro f rfl
      cases chokes
    · exact Except.error.inj ((found_of_chokes others).symm.trans ended)
  · have clean : ∀ fault, ¬ (Output.octets stdout).Chokes fault := fun fault chokes' =>
      chokes ⟨fault, chokes'⟩
    rcases reported_of_free clean with ⟨blocks, found⟩ | ⟨f, refused, _⟩
    · have found : Recognition.ofOctets stdout = .ok blocks := found
      rw [found]
      exact .made rfl clean
    · have refused : Recognition.ofOctets stdout = .error (.helper f) := refused
      rw [refused]
      exact .failed clean

/-- **What a helper comes to.**  Whatever the program does, a capture and both kinds of recognition
give a result or fail with a fault of the helper just if nothing escapes them, when the timeout is
null or a number. -/
theorem settles_of_isNumeric (numeric : h.timeout.IsNumeric) (child : Child) (files : Files)
    (path : Path) (image : List UInt8) :
    h.Settles child files path.text (Unreadable path) (Captured path)
        (h.capture child files path) ∧
      h.Settles child files imageOnStdin (fun _ => (Output.octets child.stdout).Chokes)
        (fun _ blocks => Recognition.ofOctets child.stdout = .ok blocks)
        (h.recognise child files image) ∧
      h.Settles child files path.text (fun _ => (Output.octets child.stdout).Chokes)
        (fun _ blocks => Recognition.ofOctets child.stdout = .ok blocks)
        (h.recogniseFile child files path) :=
  ⟨settles_andThen numeric child files path.text none (judged_frame h path),
    settles_andThen numeric child files imageOnStdin (some image) fun _ => judged_blocks _,
    settles_andThen numeric child files path.text none fun _ => judged_blocks _⟩

/-- A helper that may run for a minute and a half, and whose child leaves a directory in place of
the image. -/
theorem settles_directory :
    let h : Helper := { capturing with timeout := .float 90 }
    let files : Files := { directory := ["", "home", "frames"] }
    let path : Path := ⟨"/", ["home"]⟩
    h.timeout.IsNumeric ∧ h.Escapes {} files path.text (Unreadable path)
        (.system (.isDirectory "/home")) ∧
      (h.capture {} files path).result = .error (.system (.isDirectory "/home")) := by
  intro h files path
  have read : files.read path = .error (.system (.isDirectory "/home")) := by
    have asked : Files.unaskable? path.text = none := by decide
    rw [Files.read, Files.locate, Files.locateAs, asked]
    rfl
  have escapes : h.Escapes {} files path.text (Unreadable path)
      (.system (.isDirectory "/home")) := by
    refine .spoilt ?_ ⟨rfl, ?_, rfl⟩ ⟨read, .system (by decide)⟩
    · rintro ⟨n, other, _⟩
      cases other
    · rintro ⟨_, x, seconds, late⟩
      cases seconds
      exact absurd late (by decide)
  exact ⟨trivial, escapes,
    (settles_of_isNumeric (h := h) trivial {} files path []).1.escaped _ escapes⟩

/-- A program that may not be started is no fault of the helper. -/
theorem not_answered_permission_denied :
    let refusal : Fault :=
      .system (.numbered (.int 13) (.str "Permission denied") [.str "conductor-capture"])
    let r := capturing.capture { refusal := some refusal } { directory := [""] } ⟨"", ["frame.png"]⟩
    r.result = .error refusal ∧ ¬ r.Answered := by
  intro refusal r
  refine ⟨rfl, ?_⟩
  rintro (⟨_, given⟩ | ⟨_, ours⟩)
  · cases given
  · cases ours

end Helper

end CaptureDesk
