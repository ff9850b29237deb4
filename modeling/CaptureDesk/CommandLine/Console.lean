import CaptureDesk.CommandLine.Invocation
import CaptureDesk.Instant
import CaptureDesk.Settings.Document
import CaptureDesk.Text.ControlSequence
import CaptureDesk.Workplace

/-!
# The console

What a command works with: the surroundings, which it cannot change, and the console, which holds
what it has printed and the workplace of its children.  A command ends early when the words it was
given cannot be used, when it fails with a message for the user, or when it runs into a fault; what
it has printed before stays printed.
-/

namespace CaptureDesk.CommandLine

/-- What a command finds around it. -/
structure Surroundings (σ : Type) where
  supply : Supply σ
  /-- When the command runs. -/
  now : Instant
  /-- The backend that the environment names. -/
  binary : Option Str := none
  stdin : List UInt8 := []

/-- Why a command ends before its end. -/
inductive Stop where
  /-- The words that it was given cannot be used. -/
  | misused
  /-- It cannot do its work, for a reason that the user is told. -/
  | failed (message : Str)
  /-- Something is wrong that it does not expect. -/
  | broken (fault : Fault)
  /-- There is nobody any more who reads what it has to say. -/
  | unheard
  deriving DecidableEq

/-- What has been printed, and the workplace. -/
structure Console (σ : Type) where
  stdout : String := ""
  stderr : String := ""
  workplace : Workplace σ

/-- A part of a command. -/
abbrev Run (σ : Type) := ExceptT Stop (StateM (Console σ))

namespace Run

variable {σ α : Type}

/-- Goes on with what there is, or ends with the fault. -/
def ofExcept : Except Fault α → Run σ α
  | .ok a => pure a
  | .error fault => throw (.broken fault)

/-- A line as it is printed.  What is printed is not for a terminal. -/
def lineText (text : Str) : Str :=
  .ofPoints (Text.ControlSequence.drop text.points) ++ "\n"

/-- Prints a line.  Of a line that is not encoded nothing is printed. -/
def print (text : Str) : Run σ Unit :=
  match lineText text with
  | .plain line => modify fun c => { c with stdout := c.stdout ++ line }
  | .rough before first after =>
      throw (.broken (.unencodable (Str.refused before.length first after)))

/-- Prints a line on the standard error, where surrogates are shown by their numbers. -/
def complain (text : Str) : Run σ Unit :=
  modify fun c => { c with stderr := c.stderr ++ (lineText text).shown }

/-- Prints a value over several lines. -/
def printValue (v : Value) : Run σ Unit := do
  print (← ofExcept ((Json.writeIndented? v).mapError .unwritable))

/-- The files as they are now. -/
def files : Run σ Files := do
  pure (← get).workplace.files

/-- Leaves the files in another state. -/
def leave (files : Files) : Run σ Unit :=
  modify fun c => { c with workplace := { c.workplace with files } }

/-- The line for a report: the report, and when it was made. -/
def reportLine (now : Instant) (r : Report) : Except Fault Str :=
  let name : Str × Value := ("event", .str r.name)
  let time : Str × Value := ("at", .str (.plain (String.ofList now.text)))
  (Json.write? (.object (name :: r.particulars ++ [time]))).mapError .unwritable

/-- Prints reports, if they are wanted. -/
def showReports (s : Surroundings σ) (verbose : Bool) (reports : List Report) : Run σ Unit :=
  if verbose then
    reports.forM fun r => do complain (← ofExcept (reportLine s.now r))
  else pure ()

/-- The settings in a file.  A document that is not accepted is told to the user. -/
def settings (path : Path) (binary : Option Str) : Run σ Settings := do
  match Settings.load (← files) path binary with
  | .ok settings => pure settings
  | .error (.settings fault) => throw (.failed fault.message)
  | .error fault => throw (.broken fault)

/-- The path of the settings file: absolute, and without steps back. -/
def settingsPath (config : Str) : Run σ Path := do
  pure (Path.ofPlace (← ofExcept ((← files).resolve (Path.ofText config))))

/-- The settings for a command, with the backend that the environment names. -/
def load (s : Surroundings σ) (setup : Setup) : Run σ Settings := do
  settings (← settingsPath setup.config) s.binary

/-- Works at a desk whose requests go to the backend, and prints what was announced and reported
there. -/
def atDesk (s : Surroundings σ) (setup : Setup) (settings : Settings) (board : Board)
    (work : Link (Workplace σ) → Desk (Workplace σ) → Except Fault α × Desk (Workplace σ)) :
    Run σ α := do
  let workplace := (← get).workplace
  let backend : Backend :=
    { binary := settings.value .gatewayBinary
      directory := some (Place.text workplace.files.directory)
      timeout := settings.value .gatewayTimeout }
  let (result, desk) := work (backend.link s.supply) { board, link := workplace }
  modify fun c => { c with workplace := desk.link }
  desk.announced.forM fun stage => print ("[" ++ stage.name ++ "]")
  showReports s setup.verbose desk.reports
  ofExcept result

/-- Runs a helper.  The opening report comes before the start, so that the helper is not started
when it cannot be printed.  A fault of the helper is told to the user. -/
def help (s : Surroundings σ) (setup : Setup) (h : Helper) (argument : Str)
    (run : Child → Files → HelperRun α) : Run σ α := do
  showReports s setup.verbose [h.opening argument]
  let (r, workplace) := (← get).workplace.help s.supply [h.binary, .str argument] run
  modify fun c => { c with workplace }
  showReports s setup.verbose (r.reports.drop 1)
  match r.result with
  | .ok a => pure a
  | .error (.helper fault) => throw (.failed fault.failure.printed)
  | .error fault => throw (.broken fault)

end Run

end CaptureDesk.CommandLine
