import CaptureDesk.Files
import CaptureDesk.Decimal.Fixed
import CaptureDesk.Fault

/-!
# Child processes

A child process is given by all that can be seen of it: whether it starts, what it writes, how it
ends and after how long.  Time is only compared: a child that is given fewer seconds than it needs
is overdue.
-/

namespace CaptureDesk

/-- A child process. -/
structure Child where
  /-- Why it does not start. -/
  refusal : Option Fault := none
  stdout : List UInt8 := []
  stderr : List UInt8 := []
  /-- Its exit code, if it becomes known. -/
  exitCode : Option Int := some 0
  /-- The seconds that it needs. -/
  delay : Float := 0
  /-- Whether its exit code is known before its output is. -/
  exitsEarly : Bool := false
  /-- What it writes, on its start, to the file named by its first argument. -/
  writes : Option (List UInt8) := none
  deriving DecidableEq, Repr

/-- An attempt to start a child, and what became of the child. -/
structure Spawn where
  argv : List Value
  directory : Option Str := none
  stdin : Option (List UInt8) := none
  killed : Bool := false
  waited : Bool := false
  deriving DecidableEq, Repr

/-- How a child ends. -/
inductive Ending where
  | exited (code : Option Int) (stdout stderr : List UInt8)
  /-- The seconds were over first; `codeKnown` tells whether the exit code was known by then. -/
  | overdue (codeKnown : Bool)
  deriving DecidableEq, Repr

namespace Child

/-- Starts a child, which may write a file. -/
def start (c : Child) (argv : List Value) (files : Files) : Except Fault Files :=
  match c.refusal, c.writes, argv.drop 1 with
  | some fault, _, _ => .error fault
  | none, some octets, .str name :: _ => files.write (Path.ofText name) octets
  | none, _, _ => .ok files

/-- Waits for a child that has been started, at most for the given seconds if any are given. -/
def await (c : Child) (seconds : Option Float) : Ending :=
  match seconds with
  | some bound =>
      if bound < c.delay then .overdue (c.exitsEarly && c.exitCode.isSome)
      else .exited c.exitCode c.stdout c.stderr
  | none => .exited c.exitCode c.stdout c.stderr

end Child

/-- The exit code that stands for one that is not known. -/
def unknownExit : Int := -1

/-! ## Bounds -/

/-- The seconds that a setting grants.  Only a positive number is a bound. -/
def bound? (setting : Value) : Except Fault (Option Float) :=
  let whole (n : Int) : Except Fault (Option Float) :=
    if 0 < n then
      match Decimal.ofInt? n with
      | some x => .ok (some x)
      | none => .error .tooLarge
    else .ok none
  match setting with
  | .null => .ok none
  | .bool b => whole (if b then 1 else 0)
  | .int n => whole n
  | .float x => .ok (if 0 < x then some x else none)
  | other => .error (.unordered other.kind)

/-- Seconds in a message: one decimal. -/
def secondsText (seconds : Float) : String :=
  String.ofList (Decimal.fixedText 1 seconds) ++ "s"

end CaptureDesk
