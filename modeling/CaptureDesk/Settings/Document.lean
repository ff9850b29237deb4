import CaptureDesk.Decimal.Fixed
import CaptureDesk.Files
import CaptureDesk.Settings
import CaptureDesk.Text.Blank
import CaptureDesk.Text.Lines
import CaptureDesk.Toml.Document

/-!
# Settings files

Settings are read from a TOML document and written as one, with every setting of every section.
Truth values, numbers, strings and lists of them are written as such, numbers with a point with at
most three decimals; any other value is written as the string that messages show for it.  Strings
are quoted as in JSON.
-/

namespace CaptureDesk.Settings

/-- A number with a point: three decimals without the zeros at the end, but one digit at least. -/
def floatText (x : Float) : List Char :=
  let text := ((Decimal.fixedText 3 x).reverse.dropWhile (· == '0')).reverse
  if text.getLast? = some '.' then text ++ ['0'] else text

mutual

/-- A value in a settings file. -/
def valueText : Value → List CodePoint
  | .bool true => "true".toList.map .char
  | .bool false => "false".toList.map .char
  | .int n => (toString n).toList.map .char
  | .float x => (floatText x).map .char
  | .array [] => ['[', ']']
  | .array (v :: rest) => '[' :: (valueText v ++ itemsText rest)
  | v => Json.string v.text

/-- What follows the first item of a list. -/
def itemsText : List Value → List CodePoint
  | [] => [']']
  | v :: rest => ',' :: ' ' :: (valueText v ++ itemsText rest)

end

/-- A section in a settings file: its header, a line for each setting, and an empty line. -/
def sectionLines (s : Settings) (d : Division) : List (List CodePoint) :=
  let header := ('[' :: (d.name.toList ++ [']'])).map CodePoint.char
  let line (k : Setting) :=
    (k.key.toList ++ [' ', '=', ' ']).map CodePoint.char ++ valueText (s.value k)
  header :: d.settings.map line ++ [[]]

/-- Settings as a document. -/
def render (s : Settings) : List CodePoint :=
  let lines := Division.all.flatMap s.sectionLines
  Text.stripBy CodePoint.isBlank ([.char '\n'].intercalate lines) ++ [.char '\n']

mutual

/-- Whether a value holds a whole number of more digits than are converted. -/
def holdsOverlong : Value → Bool
  | .int n => Json.isOverlong n
  | .array items => anyOverlong items
  | .object fields => fieldsOverlong fields
  | _ => false

/-- Whether one of the items does. -/
def anyOverlong : List Value → Bool
  | [] => false
  | v :: rest => holdsOverlong v || anyOverlong rest

/-- Whether one of the fields does. -/
def fieldsOverlong : List (Str × Value) → Bool
  | [] => false
  | (_, v) :: rest => holdsOverlong v || fieldsOverlong rest

end

/-- Settings as a document, unless a number in them is too long to be written. -/
def write? (s : Settings) : Except Fault Str :=
  if Division.all.any fun d => d.settings.any fun k => holdsOverlong (s.value k) then
    .error (.unwritable .digits)
  else .ok (.ofPoints s.render)

/-- The settings in the text of a file that is called `name` in messages. -/
def ofText (name : Str) (text : List Char) : Except Fault Settings :=
  match Toml.read text with
  | .ok table => ofTable table
  | .error (.tooManyDigits count) => .error (.tooManyDigits count)
  | .error (.malformed complaint rest) =>
      .error (.settings (.unreadable name (complaint.at text rest)))

/-- The settings in the octets of a file that is called `name` in messages. -/
def ofOctets (name : Str) (octets : List UInt8) : Except Fault Settings :=
  match Text.Utf8.decode octets with
  | .ok text => ofText name (Text.unifyLines text)
  | .error fault => .error (.undecodable fault)

/-- Settings with another backend, if a name that is not blank is given. -/
def override (s : Settings) (binary : Option Str) : Settings :=
  match (binary.getD "").strip with
  | "" => s
  | name => s.set .gatewayBinary (.str name)

/-- Settings with another backend, if one is named. -/
def withBackend (s : Settings) (binary : Option Str) : Settings :=
  match binary with
  | none | some "" => s
  | some name => s.set .gatewayBinary (.str name)

/-- The settings in a file, or the defaults when there is none. -/
def load (files : Files) (path : Path) (binary : Option Str) : Except Fault Settings :=
  match files.exists? path with
  | .error fault => .error fault
  | .ok false => .ok (override {} binary)
  | .ok true =>
      match files.read path with
      | .error fault => .error fault
      | .ok octets => (ofOctets path.text octets).map (·.override binary)

/-- Writes settings to a file.  The file is emptied before its new text is encoded, so that a text
that is not encoded leaves it empty.  A fault comes with the files that are left. -/
def save (s : Settings) (files : Files) (path : Path) : Except (Fault × Files) Files :=
  match s.write? with
  | .error fault => .error (fault, files)
  | .ok text =>
      match text.encode with
      | .ok octets => (files.write path octets).mapError (·, files)
      | .error fault =>
          match files.write path [] with
          | .ok emptied => .error (.unencodable fault, emptied)
          | .error refused => .error (refused, files)

end CaptureDesk.Settings
