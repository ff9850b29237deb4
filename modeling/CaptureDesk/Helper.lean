import CaptureDesk.Child
import CaptureDesk.Log
import CaptureDesk.Recognition

/-!
# Helpers

Two helper programs do what the backend does not: one captures the screen into an image file, the
other recognises the text in an image.  A helper that is not done within the bound is killed and
waited for.
-/

namespace CaptureDesk

/-- The helper programs. -/
inductive HelperKind where
  | capture
  | recognition
  deriving DecidableEq, Repr

/-- The name of a helper. -/
def HelperKind.name : HelperKind → String
  | .capture => "capture"
  | .recognition => "recognition"

/-- How a helper is reached. -/
structure Helper where
  kind : HelperKind
  binary : Value
  /-- The seconds that a run may take. -/
  timeout : Value := .null
  deriving DecidableEq, Repr

/-- What a run of a helper came to, with what happened on the way to it. -/
structure HelperRun (α : Type) where
  result : Except Fault α
  reports : List Report := []
  spawns : List Spawn := []
  files : Files

namespace HelperRun

variable {α β : Type}

/-- Goes on with the result of a run and the files that it left. -/
def andThen (r : HelperRun α) (next : Files → α → Except Fault β) : HelperRun β :=
  { r with result := r.result.bind (next r.files) }

end HelperRun

/-- An image that was captured. -/
structure Frame where
  path : Path
  octets : List UInt8
  deriving DecidableEq, Repr

namespace Helper

/-- The capture helper in its usual place. -/
def capturing : Helper := { kind := .capture, binary := .str "conductor-capture" }

/-- The recognition helper in its usual place. -/
def recognising : Helper := { kind := .recognition, binary := .str "conductor-recognize" }

/-- The report that opens a run with an argument. -/
def opening (h : Helper) (argument : Str) : Report :=
  .helperStarted h.kind.name [h.binary, .str argument]

/-- A fault of this helper. -/
def fault (h : Helper) (message : Str) (exitCode : Option Int := none) : Fault :=
  .helper { message, helper := h.kind.name, exitCode }

/-- The program of this helper is not there. -/
def missing (h : Helper) : Fault :=
  .helper
    { message := h.kind.name ++ " helper binary not found: " ++ h.binary.text
      code := .unsupported
      helper := h.kind.name
      recoverable := false }

/-- The fault of a start that ended in one.  Only a missing program is a fault of the helper. -/
def startFault (h : Helper) : Fault → Fault
  | .system report => if report.isNotFound then h.missing else .system report
  | fault => fault

/-- Runs a helper with one argument, and gives its output when it exits with zero. -/
def run (h : Helper) (child : Child) (files : Files) (argument : Str)
    (stdin : Option (List UInt8)) : HelperRun (List UInt8) :=
  let name := h.kind.name
  let argv := [h.binary, .str argument]
  let started := h.opening argument
  match child.start argv files with
  | .error fault =>
      { result := .error (h.startFault fault), reports := [started], spawns := [{ argv }], files }
  | .ok files =>
      match bound? h.timeout with
      | .error fault =>
          { result := .error fault, reports := [started], spawns := [{ argv }], files }
      | .ok seconds =>
          match child.await seconds with
          | .overdue _ =>
              { result :=
                  .error (h.fault
                    (name ++ " helper timed out after " ++ secondsText (seconds.getD 0)))
                reports := [started, .helperTimedOut name h.timeout]
                spawns := [{ argv, stdin, killed := true, waited := true }]
                files }
          | .exited code stdout stderr =>
              let code := code.getD unknownExit
              let stderr := Text.stripChars (Text.Utf8.decodeLossy stderr)
              { result :=
                  if code = 0 then .ok stdout
                  else
                    .error (h.fault
                      (name ++ " helper failed with exit code " ++ toString code ++ ": " ++
                        String.ofList stderr)
                      (some code))
                reports := [started, .helperExited name code (String.ofList (stderr.take 400))]
                spawns := [{ argv, stdin }]
                files }

/-- The image that a capture has left at a path. -/
def frame (h : Helper) (path : Path) (files : Files) : Except Fault Frame :=
  match files.read path with
  | .ok [] => .error (h.fault ("capture helper wrote an empty image at " ++ path.text))
  | .ok octets => .ok { path, octets }
  | .error (.system report) =>
      if report.isNotFound then
        .error (h.fault
          ("capture helper exited cleanly but wrote no image at " ++ path.text))
      else .error (.system report)
  | .error fault => .error fault

/-- Captures the screen into a file. -/
def capture (h : Helper) (child : Child) (files : Files) (path : Path) : HelperRun Frame :=
  (h.run child files path.text none).andThen fun files _ => h.frame path files

/-- The argument that has the recognition helper read the image from its standard input. -/
def imageOnStdin : String := "--stdin-image"

/-- Recognises the text in an image that is passed on as octets. -/
def recognise (h : Helper) (child : Child) (files : Files) (image : List UInt8) :
    HelperRun (List TextBlock) :=
  (h.run child files imageOnStdin (some image)).andThen fun _ => Recognition.ofOctets

/-- Recognises the text in an image file. -/
def recogniseFile (h : Helper) (child : Child) (files : Files) (path : Path) :
    HelperRun (List TextBlock) :=
  (h.run child files path.text none).andThen fun _ => Recognition.ofOctets

end Helper

end CaptureDesk
