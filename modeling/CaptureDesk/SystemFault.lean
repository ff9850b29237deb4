import CaptureDesk.Value.Text

/-!
# Reports of the operating system

When the operating system refuses something it reports a number, the words for it, and perhaps the
files that were concerned.  A report is made of a list of values, and what it shows depends on how
many there are.  Where the refusal only means that something has to wait, a number in the place of
the file counts what was done before; it is taken as a machine word and not shown.
-/

namespace CaptureDesk

/-- What the operating system reports. -/
inductive SystemFault where
  /-- A number, the words for it, and the files that were concerned: none, one or two. -/
  | numbered (number words : Value) (files : List Value)
  /-- Values in no such form. -/
  | plain (values : List Value)
  /-- Values in no such form, when it is known beside them that a file was not there. -/
  | missing (values : List Value)
  deriving DecidableEq, Repr

namespace SystemFault

/-! ## Texts -/

/-- The text of values that have no form of their own. -/
def plainText : List Value → Str
  | [] => ""
  | [only] => only.text
  | values => Value.tupleText values

/-- The text of a report. -/
def message : SystemFault → Str
  | numbered number words files =>
      let shown := " -> ".intercalate (files.map fun file => String.ofList file.quoted)
      "[Errno " ++ number.text ++ "] " ++ words.text ++ if files.isEmpty then "" else ": " ++ shown
  | plain values | missing values => plainText values

/-! ## Numbers -/

/-- The number of a report.  A truth value counts as one or zero. -/
def number? : SystemFault → Option Int
  | numbered (.int n) _ _ => some n
  | numbered (.bool b) _ _ => some (if b then 1 else 0)
  | _ => none

/-- Whether a file was not there. -/
def isNotFound : SystemFault → Bool
  | missing _ => true
  | report => report.number? == some 2

/-- Whether something was written to a pipe that nobody reads any more. -/
def isBrokenPipe : SystemFault → Bool
  | numbered (.int n) _ _ => n == 32
  | numbered (.float x) _ _ => x == 32
  | _ => false

/-- The numbers of the reports that something has to wait. -/
def waitingNumbers : List Int := [11, 114, 115]

/-! ## Reports of values -/

/-- The report that values make.  A second file is shown only beside a first one; the value between
them is not shown. -/
def ofValues : List Value → SystemFault
  | [number, words] | [number, words, .null] | [number, words, .null, _]
  | [number, words, .null, _, _] => numbered number words []
  | [number, words, file] | [number, words, file, _] | [number, words, file, _, .null] =>
      numbered number words [file]
  | [number, words, file, _, target] => numbered number words [file, target]
  | values => plain values

/-- Why values make no report. -/
inductive Flaw where
  /-- A count of what was done that is no whole number. -/
  | fractionalCount
  /-- A count of what was done that no machine word holds. -/
  | hugeCount
  deriving DecidableEq, Repr

/-- The words for a flaw. -/
def Flaw.message : Flaw → String
  | fractionalCount => "'float' object cannot be interpreted as an integer"
  | hugeCount => "cannot fit 'int' into an index-sized integer"

/-- A report that something has to wait.  A number in the place of the file is the count of what
was done before. -/
def waiting : SystemFault → Except Flaw SystemFault
  | numbered number words (.int n :: _) =>
      if -0x8000000000000000 ≤ n ∧ n < 0x8000000000000000 then .ok (numbered number words [])
      else .error .hugeCount
  | numbered number words (.bool _ :: _) => .ok (numbered number words [])
  | numbered _ _ (.float _ :: _) => .error .fractionalCount
  | report => .ok report

/-- The report that values make when its number decides whether something has to wait. -/
def ofValues? (values : List Value) : Except Flaw SystemFault :=
  let report := ofValues values
  if report.number?.any waitingNumbers.contains then report.waiting else .ok report

/-! ## Reports about files -/

/-- A report about a file. -/
def onFile (number : Int) (words : String) (path : Str) : SystemFault :=
  numbered (.int number) (.str words) [.str path]

/-- No such file. -/
def notFound (path : Str) : SystemFault := onFile 2 "No such file or directory" path

/-- Something on the way to a file is no directory. -/
def notDirectory (path : Str) : SystemFault := onFile 20 "Not a directory" path

/-- A directory in the place of a file. -/
def isDirectory (path : Str) : SystemFault := onFile 21 "Is a directory" path

/-- A path, or a name in it, has too many octets. -/
def tooLong (path : Str) : SystemFault := onFile 36 "File name too long" path

end SystemFault

end CaptureDesk
