import CaptureDesk.Fault

/-!
# Files

Paths as they are written, and a tree of files in which they are followed.  A path keeps its `..`
steps, because a step back is only possible from a directory that is there; `Files.resolve` removes
them by name alone.

The operating system refuses a path before it follows it when it is too long.  It cannot be given at
all a path that holds the NUL character, or a surrogate that stands for no octet.

A place in the tree is the list of the names on the way to it.  The names of an absolute place
begin with the empty one, so that joining them with slashes gives its text.  Directories are not
entries of the tree: a place is a directory when there is something below it, or when the working
directory is reached through it.
-/

namespace CaptureDesk

/-- A path: how it begins, and its names. -/
structure Path where
  root : String
  names : List Str
  deriving DecidableEq, Repr

namespace Path

/-- A path from its text.  Empty names and single dots are dropped; two leading slashes differ from
one, and three do not. -/
def ofText (text : Str) : Path :=
  let slashes := (text.points.takeWhile (· == .char '/')).length
  { root := if slashes = 0 then "" else if slashes = 2 then "//" else "/"
    names := (text.split '/').filter fun name => name != "" && name != "." }

/-- The text of a path. -/
def text (p : Path) : Str :=
  if p.root = "" ∧ p.names = [] then "." else p.root ++ Str.intercalate "/" p.names

/-- Whether a path begins at the root. -/
def isAbsolute (p : Path) : Bool := p.root != ""

end Path

/-- The names on the way to a place in the tree. -/
abbrev Place := List Str

namespace Place

/-- The place at the root. -/
def root : Place := [""]

/-- The text of a place. -/
def text (place : Place) : Str :=
  if place = root then "/" else Str.intercalate "/" place

/-- The place one step back.  Above the root there is the root. -/
def parent (place : Place) : Place :=
  if place = root then root else place.dropLast

/-- The place that a name leads to. -/
def step (place : Place) (name : Str) : Place :=
  if name = ".." then place.parent else place ++ [name]

end Place

/-- What stands at a place. -/
inductive Entry where
  | file (octets : List UInt8)
  /-- A device that swallows what is written to it and has nothing to read. -/
  | sink
  deriving DecidableEq, Repr

/-- A tree of files, and the working directory in it. -/
structure Files where
  directory : Place
  entries : List (Place × Entry) := []
  deriving DecidableEq, Repr

namespace Files

/-- The entry at a place. -/
def entry? (f : Files) (place : Place) : Option Entry :=
  (f.entries.find? (·.1 == place)).map (·.2)

/-- Whether a place is a directory. -/
def isDirectory (f : Files) (place : Place) : Bool :=
  place == .root || place.isPrefixOf f.directory ||
    f.entries.any fun e => place.isPrefixOf e.1 && e.1 != place

/-- The directory in which a path begins. -/
def start (f : Files) (p : Path) : Place :=
  if p.isAbsolute then .root else f.directory

/-- The place of a path when its `..` steps are removed by name alone. -/
def placeByName (f : Files) (p : Path) : Place :=
  p.names.foldl Place.step (f.start p)

/-- Why the operating system cannot be asked about a text. -/
def unaskable? (text : Str) : Option Fault :=
  match text.unnameable? with
  | some fault => some (.unencodable fault)
  | none => if text.points.contains '\x00' then some .brokenPath else none

/-- Steps from a place by names alone, if the operating system can be asked about each place that is
stepped to. -/
def walk : Place → List Str → Except Fault Place
  | place, [] => .ok place
  | place, name :: rest =>
      let next := place.step name
      match if name = ".." then none else unaskable? next.text with
      | some fault => .error fault
      | none => walk next rest

/-- The place of a path by name alone, if the operating system can be asked about each step. -/
def resolve (f : Files) (p : Path) : Except Fault Place :=
  walk (f.start p) p.names

/-- The greatest number of octets of a name. -/
def nameLimit : Nat := 255

/-- The greatest number of octets of a path. -/
def pathLimit : Nat := 4095

/-- Follows names from a place.  Every name but the last has to lead to a directory. -/
def follow (f : Files) (shown : Str) : Place → List Str → Except SystemFault Place
  | place, [] => .ok place
  | place, name :: rest =>
      if nameLimit < name.nameSize then .error (.tooLong shown)
      else
        let next := place.step name
        if rest = [] ∨ f.isDirectory next then f.follow shown next rest
        else if (f.entry? next).isSome then .error (.notDirectory shown)
        else .error (.notFound shown)

/-- The place that a path leads to when it is written as a text. -/
def locateAs (f : Files) (written : Str) (p : Path) : Except Fault Place :=
  match unaskable? written with
  | some fault => .error fault
  | none =>
      if pathLimit < written.nameSize then .error (.system (.tooLong written))
      else (f.follow written (f.start p) p.names).mapError .system

/-- The place that a path leads to. -/
def locate (f : Files) (p : Path) : Except Fault Place :=
  f.locateAs p.text p

/-- The octets of the file that a path leads to. -/
def read (f : Files) (p : Path) : Except Fault (List UInt8) := do
  let place ← f.locate p
  match f.entry? place with
  | some (.file octets) => pure octets
  | some .sink => pure []
  | none =>
      throw (.system (if f.isDirectory place then .isDirectory p.text else .notFound p.text))

/-- Puts octets at a place. -/
def put (f : Files) (place : Place) (octets : List UInt8) : Files :=
  match f.entry? place with
  | some .sink => f
  | some (.file _) =>
      { f with
        entries := f.entries.map fun e => if e.1 == place then (place, .file octets) else e }
  | none => { f with entries := f.entries ++ [(place, .file octets)] }

/-- Writes octets to the file that a path leads to. -/
def write (f : Files) (p : Path) (octets : List UInt8) : Except Fault Files := do
  let place ← f.locate p
  if f.isDirectory place then throw (.system (.isDirectory p.text))
  pure (f.put place octets)

/-- What a path leads to: nothing, a directory, or a file. -/
inductive Kind where
  | nothing
  | directory
  | file
  deriving DecidableEq, Repr

/-- What stands at a place. -/
def kind (f : Files) (place : Place) : Kind :=
  if (f.entry? place).isSome then .file
  else if f.isDirectory place then .directory
  else .nothing

/-- Looks where a text leads to as it is written.  No text leads nowhere, and a file is not reached
by a text that ends in a slash or in a single dot.  A way that is refused leads to nothing. -/
def lookAt (f : Files) (text : Str) : Except Fault Kind :=
  let last := ((text.split '/').getLast?).getD ""
  match (f.locateAs text (Path.ofText text)).map f.kind with
  | .ok .file => .ok (if last = "" ∨ last = "." then .nothing else .file)
  | .ok kind => .ok (if text = "" then .nothing else kind)
  | .error (.system _) => .ok .nothing
  | .error fault => .error fault

/-- Whether a path leads to something.  A way that is not there counts as nothing, and so does a
path that the operating system cannot be asked about.  Anything else that it reports stays a
fault. -/
def exists? (f : Files) (p : Path) : Except Fault Bool :=
  match (f.locate p).map f.kind with
  | .ok kind => .ok (kind != .nothing)
  | .error (.system report) =>
      if report.number? == some 2 || report.number? == some 20 then .ok false
      else .error (.system report)
  | .error _ => .ok false

end Files

/-- The path that leads to a place. -/
def Path.ofPlace (place : Place) : Path :=
  match place with
  | "" :: names => ⟨"/", names⟩
  | names => ⟨"", names⟩

end CaptureDesk
