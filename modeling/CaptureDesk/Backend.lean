import CaptureDesk.Child
import CaptureDesk.Procedure
import CaptureDesk.Text.Blank

/-!
# The backend

Each request starts one child process, `binary invoke command`, writes the request to its standard
input as JSON, and reads the answer from its standard output.  A child that is not done within the
bound is killed, unless it has ended already, and waited for.  Nothing is tried twice.
-/

namespace CaptureDesk

/-- The octets that a request is sent as: its JSON text in UTF-8. -/
def Request.encode (r : Request) : Except Fault (List UInt8) :=
  match Json.write? r.payload with
  | .error refusal => .error (.unwritable refusal)
  | .ok text => text.encode.mapError .unencodable

/-- How the backend is reached. -/
structure Backend where
  binary : Value := .str "conductor-backend"
  directory : Option Str := none
  /-- The seconds that a request may take. -/
  timeout : Value := .null
  deriving DecidableEq, Repr

/-- The answer to a request, with what happened on the way to it. -/
structure Exchange where
  outcome : Except Fault Outcome
  reports : List Report := []
  spawns : List Spawn := []
  files : Files

namespace Backend

/-- The words that start the child for a command. -/
def argv (b : Backend) (command : Str) : List Value :=
  [b.binary, .str "invoke", .str command]

/-- The child could not be started. -/
def startFailure (b : Backend) (fault : SystemFault) : Failure :=
  { code := .internal
    message :=
      if fault.isNotFound then "Backend binary not found: " ++ b.binary.text
      else "Backend binary could not be started: " ++ fault.message
    actionHint := some "Set [gateway] binary in conductor.toml" }

/-- The outcome of a start that ended in a fault.  What the operating system reports is a failure;
any other fault stays one. -/
def unstarted (b : Backend) : Fault → Except Fault Outcome
  | .system report => .ok (.failure (b.startFailure report))
  | fault => .error fault

/-- The request took too long. -/
def timeoutFailure (command : Str) (seconds : Float) : Failure :=
  { code := .io
    message := command ++ " timed out after " ++ secondsText seconds
    recoverable := true
    actionHint := some "Check that the backend is responsive and retry" }

/-- What a child that failed says about it: a structured error, or the beginning of its text. -/
def exitFailure (code : Int) (stderr : List Char) : Except Fault Failure :=
  let plain :=
    Failure.internal ("Backend process failed with exit code " ++ toString code)
      (if stderr.isEmpty then none else some (.plain (String.ofList (stderr.take 2000))))
  match Json.read (stderr.map .char) with
  | .ok v => .ok ((Failure.ofValue? v).getD plain)
  | .error (.malformed ..) => .ok plain
  | .error (.tooManyDigits count) => .error (.tooManyDigits count)

/-- The outcome that a child that succeeded has written. -/
def answer (command : Str) (stdout : List Char) : Except Fault Outcome :=
  match stdout with
  | [] => .ok (.success .null)
  | stdout =>
      let text := stdout.map CodePoint.char
      match Json.read text with
      | .ok v => .ok (Outcome.ofValue v)
      | .error (.tooManyDigits count) => .error (.tooManyDigits count)
      | .error fault =>
          .ok <| .failure <| Failure.internal
            ("Backend returned undecodable output for " ++ command)
            (some (.plain (fault.message text)))

/-- The text of octets that a child wrote, without the white space at its ends. -/
def outputText (octets : List UInt8) : List Char :=
  Text.stripChars (Text.Utf8.decodeLossy octets)

/-- Sends a request to a child and waits for it, for the given seconds if any are given.  What is to
be sent is made ready before the child is started. -/
def exchange (b : Backend) (child : Child) (files : Files) (seconds : Option Float)
    (request : Request) : Exchange :=
  if !request.isKnown then { outcome := .ok request.unsupported, files }
  else
    match request.encode with
    | .error fault => { outcome := .error fault, files }
    | .ok input =>
        let command := request.command
        let argv := b.argv command
        let started := Report.invokeStarted command
        match child.start argv files with
        | .error fault =>
            { outcome := b.unstarted fault
              reports := [started]
              spawns := [{ argv, directory := b.directory }]
              files }
        | .ok files =>
            let spawn : Spawn := { argv, directory := b.directory, stdin := some input }
            match child.await seconds with
            | .overdue codeKnown =>
                { outcome := .ok (.failure (timeoutFailure command (seconds.getD 0)))
                  reports := [started, .invokeKilled command, .invokeTimedOut command b.timeout]
                  spawns := [{ spawn with killed := !codeKnown, waited := true }]
                  files }
            | .exited code stdout stderr =>
                let code := code.getD unknownExit
                let stderr := outputText stderr
                { outcome :=
                    if code = 0 then answer command (outputText stdout)
                    else (exitFailure code stderr).map .failure
                  reports :=
                    [started, .invokeExited command code (String.ofList (stderr.take 400))]
                  spawns := [spawn]
                  files }

/-- Sends a request to a child within the bound of the backend. -/
def invoke (b : Backend) (child : Child) (files : Files) (request : Request) : Exchange :=
  match bound? b.timeout with
  | .error fault => { outcome := .error fault, files }
  | .ok seconds => b.exchange child files seconds request

end Backend

end CaptureDesk
