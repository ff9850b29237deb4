import CaptureDesk.Text.Printable
import CaptureDesk.Text.Digit
import CaptureDesk.Value

/-!
# Values in messages

A value that a message mentions is shown as a text: a string as it is, and anything else in quoted
form, where strings stand in quotes and lists and tables in brackets.

A whole number is shown with all its digits.  A value that was read from a JSON text has none with
more digits than are converted.  A settings file may give one, in hexadecimal form for example, and
is looked at first where a setting is written or begins a label (`Settings.holdsOverlong`).
-/

namespace CaptureDesk.Value

open Text (hexDigits isPrintable)

/-- A code point of a quoted string.  What is not printable is given by its number, in as few of
two, four or eight hexadecimal digits as hold it. -/
def quotedPoint (quote : Char) : CodePoint → List Char
  | .char c =>
      if c = quote ∨ c = '\\' then ['\\', c]
      else if c = '\n' then ['\\', 'n']
      else if c = '\r' then ['\\', 'r']
      else if c = '\t' then ['\\', 't']
      else if isPrintable c then [c]
      else if c.toNat < 0x100 then '\\' :: 'x' :: hexDigits 2 c.toNat
      else if c.toNat < 0x10000 then '\\' :: 'u' :: hexDigits 4 c.toNat
      else '\\' :: 'U' :: hexDigits 8 c.toNat
  | .surrogate n => '\\' :: 'u' :: hexDigits 4 (0xD800 + n)

/-- A string in single quotes, or in double ones when it holds a single quote and no double one. -/
def quotedString (s : Str) : List Char :=
  let points := s.points
  let quote := if points.contains '\'' && !points.contains '"' then '"' else '\''
  quote :: (points.flatMap (quotedPoint quote) ++ [quote])

mutual

/-- A value in quoted form. -/
def quoted : Value → List Char
  | .null => "None".toList
  | .bool true => "True".toList
  | .bool false => "False".toList
  | .int n => (toString n).toList
  | .float x => Decimal.shortestText "nan" "inf" x
  | .str s => quotedString s
  | .moment m => m.form.toList
  | .array [] => ['[', ']']
  | .array (v :: rest) => '[' :: (quoted v ++ quotedItems rest ++ [']'])
  | .object [] => ['\x7b', '\x7d']
  | .object ((key, v) :: rest) =>
      '\x7b' :: (quotedString key ++ ':' :: ' ' :: (quoted v ++ quotedFields rest ++ ['\x7d']))

/-- Further items of a list, each after a comma. -/
def quotedItems : List Value → List Char
  | [] => []
  | v :: rest => ',' :: ' ' :: (quoted v ++ quotedItems rest)

/-- Further fields of a table, each after a comma. -/
def quotedFields : List (Str × Value) → List Char
  | [] => []
  | (key, v) :: rest =>
      ',' :: ' ' :: (quotedString key ++ ':' :: ' ' :: (quoted v ++ quotedFields rest))

end

/-- The string for a value in a message. -/
def text : Value → Str
  | .str s => s
  | .moment m => String.ofList m.text
  | v => String.ofList v.quoted

/-- The strings for the items of an array; other values have none. -/
def itemTexts (v : Value) : List Str :=
  v.items.map text

/-- Values in quoted form between round brackets; a single one has a comma after it. -/
def tupleText : List Value → String
  | [only] => "(" ++ String.ofList only.quoted ++ ",)"
  | values => "(" ++ ", ".intercalate (values.map fun v => String.ofList v.quoted) ++ ")"

end CaptureDesk.Value
