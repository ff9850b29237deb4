import CaptureDesk.CommandLine.Execution
import Std.Time.DateTime.Timestamp

/-!
# The program

Gathers the files that the words of the command line can lead to, carries the command line out, and
writes back the files that it has changed.  No child process is started from here: each start is
refused.
-/

open CaptureDesk

namespace CaptureDesk.Program

/-- The entry that makes a directory known. -/
def directoryMark : Str := "."

/-- The places on the way to a place. -/
def waysTo (place : Place) : List Place :=
  (List.range place.length).map fun n => place.take (n + 1)

/-- What stands at a place of the disk, as an entry of the tree. -/
def survey (place : Place) : IO (Option (Place × Entry)) := do
  let here ← IO.currentDir
  let there := here / (Place.text place).shown
  if ← there.isDir then return some (place ++ [directoryMark], .sink)
  if ← there.pathExists then
    let octets ← IO.FS.readBinFile there
    return some (place, .file octets.toList)
  return none

/-- The texts in a word that may be paths: the word, and what follows an equals sign in it. -/
def pathsIn (word : Str) : List Str :=
  word :: (CommandLine.Arguments.cutValue word).2.toList

/-- The files that the words of a command line can lead to. -/
def gather (words : List Str) : IO Files := do
  let here ← IO.currentDir
  let start : Files := { directory := Str.split '/' here.toString }
  let usual : CommandLine.Setup := {}
  let mut files := start
  for text in usual.config :: words.flatMap pathsIn do
    for place in waysTo (start.placeByName (Path.ofText text)) do
      if (files.entry? place).isNone then
        if let some entry ← (try survey place catch _ => pure none) then
          files := { files with entries := files.entries ++ [entry] }
  return files

/-- Writes back the files that are not as they were. -/
def writeBack (before after : Files) : IO Unit := do
  for (place, entry) in after.entries do
    if let .file octets := entry then
      if before.entry? place != some entry then
        IO.FS.writeBinFile (Place.text place).shown (ByteArray.mk octets.toArray)

/-- The octets of the standard input. -/
partial def readAll (stream : IO.FS.Stream) (octets : ByteArray) : IO ByteArray := do
  let next ← stream.read 65536
  if next.isEmpty then return octets
  readAll stream (octets ++ next)

/-- Whether the words of a command line ask for the standard input. -/
def readsStdin (words : List Str) : Bool :=
  match CommandLine.Invocation.ofWords? words with
  | some (.ingest source) => source == CommandLine.Invocation.standardInput
  | _ => false

/-- The supply of a program that starts no children. -/
def refusing : Supply Unit := fun _ _ =>
  ({ refusal := some (.system (.numbered (.int 38) (.str "Function not implemented") [])) }, ())

end CaptureDesk.Program

open CaptureDesk.Program in
/-- Carries the words of the command line out. -/
def main (arguments : List String) : IO UInt32 := do
  let words := arguments.map Str.plain
  let files ← gather words
  let stdin ← if readsStdin words then readAll (← IO.getStdin) .empty else pure .empty
  let seconds := (← Std.Time.Timestamp.now).toSecondsSinceUnixEpoch.val
  let surroundings : CommandLine.Surroundings Unit :=
    { supply := refusing
      now := Instant.ofSeconds seconds.toNat
      binary := (← IO.getEnv "CONDUCTOR_GATEWAY_BINARY").map .plain
      stdin := stdin.toList }
  let ending := CommandLine.run surroundings { supply := (), files } words
  writeBack files ending.console.workplace.files
  (← IO.getStdout).putStr ending.console.stdout
  (← IO.getStderr).putStr ending.stderr
  match ending.stop with
  | some (.broken fault) => IO.eprintln fault.message.shown
  | some .misused => IO.eprintln "Usage: COMMAND [OPTIONS] [ARGUMENTS]"
  | _ => pure ()
  return UInt32.ofNat ending.exitCode
