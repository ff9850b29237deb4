import CaptureDesk.CommandLine.Console
import CaptureDesk.Feed
import CaptureDesk.Production
import CaptureDesk.Revision
import CaptureDesk.Text.Lines

/-!
# Carrying a command line out

`run` takes the words of a command line, the surroundings and the workplace to an ending: the exit
code, what was printed, and the workplace as it was left.
-/

namespace CaptureDesk.CommandLine

variable {σ : Type}

/-- A text that an option gives, unless it is empty. -/
def given? (option : Option Str) : Option Str :=
  option.filter (· ≠ "")

/-- Writes settings to a file.  What a failure leaves of the file is left. -/
def store (settings : Settings) (path : Path) : Run σ Unit := do
  match settings.save (← Run.files) path with
  | .ok written => Run.leave written
  | .error (fault, left) =>
      Run.leave left
      throw (.broken fault)

/-- Writes the settings file, with what was in it and perhaps another backend.  The environment has
no say in it. -/
def initialise (binary : Option Str) (config : Str) : Run σ Unit := do
  let path ← Run.settingsPath config
  let settings := (← Run.settings path none).withBackend binary
  store settings path
  Run.print ("Initialized Conductor in " ++ Place.text (← Run.files).directory)
  Run.print ("Config: " ++ path.text)
  Run.print ("Gateway: " ++ (settings.value .gatewayBinary).text)

/-- The label of a session that was given none. -/
def usualLabel (now : Instant) (settings : Settings) : Except Fault Str :=
  let start := settings.value .labelPrefix
  if Settings.holdsOverlong start then .error (.unwritable .digits)
  else .ok (start.text ++ "-" ++ .plain (String.ofList now.digits))

/-- Carries the production flow out. -/
def produce (s : Surroundings σ) (label outputDir : Option Str) (setup : Setup) :
    Run σ Unit := do
  let settings ← Run.load s setup
  let label ← match given? label with
    | some label => pure label
    | none => Run.ofExcept (usualLabel s.now settings)
  let outputDir := ((given? outputDir).map Value.str).getD (settings.value .outputDir)
  let flow := Production.flow { label, outputDir }
  match ← Run.atDesk s setup settings {} fun link desk => flow.run link desk with
  | .error error => throw (.failed error.printed)
  | .ok delivery =>
      Run.print ("Session: " ++ delivery.session)
      Run.print ("Export: " ++ delivery.outputPath)
      Run.print ("Bundle hash: " ++ delivery.bundleHash)
      Run.print "Verified: yes"

/-- The operation of an edit, which has to be an object. -/
def editOperation (op : Str) : Run σ Value := do
  match Json.read op.points with
  | .ok (.object fields) => pure (.object fields)
  | .ok _ => throw (.failed "OP_JSON must be a JSON object")
  | .error (.tooManyDigits count) => throw (.broken (.tooManyDigits count))
  | .error fault => throw (.failed ("OP_JSON is not valid JSON: " ++ fault.message op.points))

/-- Makes an edit and prints what the backend says about it. -/
def revise (s : Surroundings σ) (session : Str) (base : Int) (op : Str) (setup : Setup) :
    Run σ Unit := do
  let op ← editOperation op
  let settings ← Run.load s setup
  let board := Board.apply {} (.setActiveSession (some session))
  let revision := Revision.perform true { session, base, op }
  match ← Run.atDesk s setup settings board fun link desk => revision.run link desk with
  | .failure error => throw (.failed error.printed)
  | .success value => Run.printValue value

/-- Prints the screen of a route. -/
def present (s : Surroundings σ) (route : Route) (session : Option Str) (setup : Setup) :
    Run σ Unit := do
  let settings ← Run.load s setup
  let board := match given? session with
    | some session => Board.apply {} (.setActiveSession (some session))
    | none => {}
  let screen ← Run.atDesk s setup settings board fun link desk => desk.loadRoute link route.name
  Run.printValue (.object [("route", .str route.name), ("view", screen.toValue)])

/-- The octets of the source of events, which has to be the standard input or a file. -/
def sourceOctets (s : Surroundings σ) (source : Str) : Run σ (List UInt8) := do
  if source = Invocation.standardInput then pure s.stdin
  else
    let files ← Run.files
    if (← Run.ofExcept (files.lookAt source)) ≠ .file then throw .misused
    Run.ofExcept (files.read (Path.ofText source))

/-- The accounts of a feed, that for stray lines only if there were any. -/
def telemetry (f : Feed) : Value :=
  let stray : List (Str × Value) :=
    if f.unknown.malformedCount = 0 then [] else [("unknown", f.unknown.toValue)]
  .object (Channel.all.map (fun c => (.plain c.name, (f.tally c).toValue)) ++ stray)

/-- Folds pushed events in, a line each, and prints what they come to.  Lines before octets that are
no text are still taken in. -/
def foldIn (s : Surroundings σ) (source : Str) : Run σ Unit := do
  let (text, fault?) := Text.Utf8.decodeBlocks (← sourceOctets s source)
  let lines := if fault?.isSome then Text.endedLines text else Text.lines (Text.unifyLines text)
  let lines := lines.map fun line => Str.plain (String.ofList line)
  let (accepted, monitor) ← Run.ofExcept (Monitor.ingestLines {} 0 lines)
  if let some fault := fault? then throw (.broken (.undecodable fault))
  Run.printValue <| .object
    [("accepted", .int accepted), ("telemetry", telemetry monitor.feed),
      ("state", monitor.board.toValue)]

/-- Captures the screen into a file. -/
def captureTo (s : Surroundings σ) (output : Str) (setup : Setup) : Run σ Unit := do
  if (← Run.ofExcept ((← Run.files).lookAt output)) = .directory then throw .misused
  let settings ← Run.load s setup
  let path := Path.ofText output
  let helper : Helper :=
    { kind := .capture
      binary := settings.value .captureBinary
      timeout := settings.value .helperTimeout }
  let frame ← Run.help s setup helper path.text fun child files => helper.capture child files path
  Run.print ("Captured " ++ toString frame.octets.length ++ " bytes to " ++ frame.path.text)

/-- Recognises the text in an image file and prints it. -/
def recogniseIn (s : Surroundings σ) (image : Str) (setup : Setup) : Run σ Unit := do
  if (← Run.ofExcept ((← Run.files).lookAt image)) ≠ .file then throw .misused
  let settings ← Run.load s setup
  let octets ← Run.ofExcept ((← Run.files).read (Path.ofText image))
  let helper : Helper :=
    { kind := .recognition
      binary := settings.value .recognitionBinary
      timeout := settings.value .helperTimeout }
  let blocks ← Run.help s setup helper Helper.imageOnStdin fun child files =>
    helper.recognise child files octets
  Run.printValue (.array (blocks.map TextBlock.toValue))

/-- Carries an invocation out. -/
def Invocation.perform (s : Surroundings σ) : Invocation → Run σ Unit
  | .init binary config => initialise binary config
  | .run label outputDir setup => produce s label outputDir setup
  | .edit session base op setup => revise s session base op setup
  | .view route session setup => present s route session setup
  | .ingest source => foldIn s source
  | .capture output setup => captureTo s output setup
  | .recognise image setup => recogniseIn s image setup

/-- How a command line ends. -/
structure Ending (σ : Type) where
  stop : Option Stop
  console : Console σ

namespace Ending

/-- The exit code: zero for a command that came to its end, two for one that was misused, and one
for all others. -/
def exitCode (e : Ending σ) : Nat :=
  match e.stop with
  | none => 0
  | some .misused => 2
  | some (.failed _) | some (.broken _) | some .unheard => 1

/-- What is printed on the standard error: a failure comes last. -/
def stderr (e : Ending σ) : String :=
  match e.stop with
  | some (.failed message) => e.console.stderr ++ (Run.lineText ("Error: " ++ message)).shown
  | _ => e.console.stderr

end Ending

/-- Why a command line ends, by why its command does.  A pipe that nobody reads is no fault to
speak of. -/
def Stop.settled : Stop → Stop
  | .broken (.system report) =>
      if report.isBrokenPipe then .unheard else .broken (.system report)
  | stop => stop

/-- Carries the words of a command line out. -/
def run (s : Surroundings σ) (workplace : Workplace σ) (words : List Str) : Ending σ :=
  let console : Console σ := { workplace }
  match Invocation.ofWords? words with
  | none => { stop := some .misused, console }
  | some invocation =>
      match (invocation.perform s).run console with
      | (.ok (), console) => { stop := none, console }
      | (.error stop, console) => { stop := some stop.settled, console }

end CaptureDesk.CommandLine
