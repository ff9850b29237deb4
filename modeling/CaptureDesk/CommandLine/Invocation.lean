import CaptureDesk.CommandLine.Arguments
import CaptureDesk.Screen
import CaptureDesk.Text.Integer

/-!
# What a command line asks for

The commands with what they are given.  A command line that does not have the form of one of them
stands for nothing.
-/

namespace CaptureDesk.CommandLine

/-- What most commands are given: the settings file, and whether reports are printed. -/
structure Setup where
  config : Str := "conductor.toml"
  verbose : Bool := false
  deriving DecidableEq, Repr

/-- A command with what it is given. -/
inductive Invocation where
  /-- Write the settings file. -/
  | init (binary : Option Str) (config : Str)
  /-- Carry the production flow out. -/
  | run (label outputDir : Option Str) (setup : Setup)
  /-- Make an edit, which is given as JSON. -/
  | edit (session : Str) (base : Int) (op : Str) (setup : Setup)
  /-- Print the screen of a route. -/
  | view (route : Route) (session : Option Str) (setup : Setup)
  /-- Fold in a file of pushed events. -/
  | ingest (source : Str)
  /-- Capture the screen. -/
  | capture (output : Str) (setup : Setup)
  /-- Recognise the text in an image. -/
  | recognise (image : Str) (setup : Setup)
  deriving DecidableEq, Repr

namespace Invocation

/-- The source that stands for the standard input. -/
def standardInput : Str := "-"

/-- The option for the settings file. -/
def configOption : OptionForm := .valued "--config"

/-- The option for reports. -/
def verboseOption : OptionForm := .plain "--verbose"

/-- The setup that arguments give. -/
def setup (a : Arguments) : Setup :=
  let usual : Setup := {}
  { config := (a.value? configOption.name).getD usual.config, verbose := a.has verboseOption.name }

/-- The names of the options of a command. -/
def options : Str → List OptionForm
  | "init" => [.valued "--gateway-binary", configOption]
  | "run" => [.valued "--label", .valued "--output-dir", verboseOption, configOption]
  | "view" => [.valued "--session", verboseOption, configOption]
  | "edit" | "capture" | "recognize" => [verboseOption, configOption]
  | _ => []

/-- The invocation of a command with its arguments. -/
def ofArguments? (name : Str) (a : Arguments) : Option Invocation :=
  let setup := setup a
  match name, a.words with
  | "init", [] => some (.init (a.value? "--gateway-binary") setup.config)
  | "run", [] => some (.run (a.value? "--label") (a.value? "--output-dir") setup)
  | "edit", [session, .plain base, op] =>
      (Text.Integer.read? base.toList).map fun base => .edit session base op setup
  | "view", [route] =>
      (Route.ofName? route).map fun route => .view route (a.value? "--session") setup
  | "ingest", [] => some (.ingest standardInput)
  | "ingest", [source] => some (.ingest source)
  | "capture", [output] => some (.capture output setup)
  | "recognize", [image] => some (.recognise image setup)
  | _, _ => none

/-- The invocation that the words of a command line stand for. -/
def ofWords? (words : List Str) : Option Invocation := do
  let (name, rest) ← Arguments.command? words
  let arguments ← Arguments.ofWords? (options name) rest
  ofArguments? name arguments

end Invocation

end CaptureDesk.CommandLine
