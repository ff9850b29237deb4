import CaptureDesk.Fault

/-!
# Incidents

What interrupts a transport before it has an answer.  An incident has a kind and carries values; it
becomes an internal failure whose message is its text.
-/

namespace CaptureDesk

/-- What interrupted a transport: its kind, and the values that it carries. -/
structure Incident where
  kind : String
  args : List Value
  deriving DecidableEq, Repr

namespace Incident

/-- The names of the kind of all reports of the operating system; the first is its own. -/
def generalKinds : List String :=
  ["OSError", "IOError", "EnvironmentError"]

/-- The kind of the reports that something has to wait. -/
def waitingKind : String := "BlockingIOError"

/-- The kinds of the other reports of the operating system. -/
def systemKinds : List String :=
  ["FileNotFoundError", "FileExistsError", "PermissionError", "TimeoutError", "InterruptedError",
    "IsADirectoryError", "NotADirectoryError", "ProcessLookupError", "ChildProcessError",
    "ConnectionError", "BrokenPipeError", "ConnectionAbortedError", "ConnectionRefusedError",
    "ConnectionResetError"]

/-- The kind of an incident, by its own name. -/
def name (i : Incident) : String :=
  if i.kind ∈ generalKinds then "OSError" else i.kind

/-- The report that an incident is, if it is one of the operating system. -/
def report? (i : Incident) : Except SystemFault.Flaw (Option SystemFault) :=
  if i.kind ∈ generalKinds then (SystemFault.ofValues? i.args).map some
  else if i.kind = waitingKind then (SystemFault.ofValues i.args).waiting.map some
  else if i.kind ∈ systemKinds then .ok (some (SystemFault.ofValues i.args))
  else .ok none

/-- The text of an incident.  A missing key is named in quoted form. -/
def message (i : Incident) : Except SystemFault.Flaw Str :=
  match i.kind, i.args with
  | "KeyError", [key] => .ok (.plain (String.ofList key.quoted))
  | _, args => i.report?.map fun report => (report.getD (.plain args)).message

/-- An incident as a failure: its text, or its kind when it has none. -/
def failure (i : Incident) : Except Fault Failure :=
  match i.message with
  | .error flaw => .error (.unreportable flaw)
  | .ok "" => .ok (Failure.internal i.name)
  | .ok text => .ok (Failure.internal text)

end Incident

end CaptureDesk
