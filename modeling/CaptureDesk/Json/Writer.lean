import CaptureDesk.Text.Digit
import CaptureDesk.Value

/-!
# Values as JSON text

The compact form puts `, ` between items and `: ` after a name; the indented form puts every item
and field on a line of its own.  Only the quote, the backslash and the control characters below
U+0020 are escaped.  Floating-point numbers that are not finite are written as `NaN`, `Infinity`
and `-Infinity`.

Surrogates are not escaped, so that what is written may be a rough string, which is not encoded.
A moment has no JSON form, and a whole number of more than `digitLimit` digits is not converted:
`refusal?` finds the first such value, and `write?` writes a value that holds none.
-/

namespace CaptureDesk.Json

open Text (hexDigits)

/-- The greatest number of digits of a whole number that is read or written. -/
def digitLimit : Nat := 4300

/-- A code point of a JSON string. -/
def escaped (c : CodePoint) : List CodePoint :=
  if c = '"' ∨ c = '\\' then ['\\', c]
  else if c = '\n' then ['\\', 'n']
  else if c = '\r' then ['\\', 'r']
  else if c = '\t' then ['\\', 't']
  else if c = '\x08' then ['\\', 'b']
  else if c = '\x0c' then ['\\', 'f']
  else if c.toNat < 0x20 then '\\' :: 'u' :: (hexDigits 4 c.toNat).map .char
  else [c]

/-- A string as JSON. -/
def string (s : Str) : List CodePoint :=
  '"' :: (s.points.flatMap escaped ++ [.char '"'])

/-- A value that is neither an array nor an object. -/
def scalar : Value → List CodePoint
  | .bool true => "true".toList.map .char
  | .bool false => "false".toList.map .char
  | .int n => (toString n).toList.map .char
  | .float x => (Decimal.shortestText "NaN" "Infinity" x).map .char
  | .str s => string s
  | .moment m => string (String.ofList m.text)
  | _ => "null".toList.map .char

mutual

/-- A value on one line. -/
def compact : Value → List CodePoint
  | .array [] => ['[', ']']
  | .array (v :: rest) => '[' :: (compact v ++ compactItems rest)
  | .object [] => ['\x7b', '\x7d']
  | .object ((key, v) :: rest) =>
      '\x7b' :: (string key ++ (':' : CodePoint) :: ' ' :: (compact v ++ compactFields rest))
  | v => scalar v

/-- What follows the first item of an array. -/
def compactItems : List Value → List CodePoint
  | [] => [']']
  | v :: rest => ',' :: ' ' :: (compact v ++ compactItems rest)

/-- What follows the first field of an object. -/
def compactFields : List (Str × Value) → List CodePoint
  | [] => ['\x7d']
  | (key, v) :: rest =>
      ',' :: ' ' :: (string key ++ (':' : CodePoint) :: ' ' :: (compact v ++ compactFields rest))

end

/-- A new line at a depth, two spaces for each level. -/
def newLine (depth : Nat) : List CodePoint :=
  '\n' :: List.replicate (2 * depth) ' '

mutual

/-- A value over several lines, at a depth. -/
def indented (depth : Nat) : Value → List CodePoint
  | .array [] => ['[', ']']
  | .array (v :: rest) =>
      '[' :: (newLine (depth + 1) ++ indented (depth + 1) v ++ indentedItems depth rest)
  | .object [] => ['\x7b', '\x7d']
  | .object ((key, v) :: rest) =>
      '\x7b' :: (newLine (depth + 1) ++ string key ++ (':' : CodePoint) :: ' ' ::
        (indented (depth + 1) v ++ indentedFields depth rest))
  | v => scalar v

/-- What follows the first item of an array. -/
def indentedItems (depth : Nat) : List Value → List CodePoint
  | [] => newLine depth ++ [.char ']']
  | v :: rest =>
      ',' :: (newLine (depth + 1) ++ indented (depth + 1) v ++ indentedItems depth rest)

/-- What follows the first field of an object. -/
def indentedFields (depth : Nat) : List (Str × Value) → List CodePoint
  | [] => newLine depth ++ [.char '\x7d']
  | (key, v) :: rest =>
      ',' :: (newLine (depth + 1) ++ string key ++ (':' : CodePoint) :: ' ' ::
        (indented (depth + 1) v ++ indentedFields depth rest))

end

/-- Why a value is not written. -/
inductive Refusal where
  /-- A whole number has more digits than are converted. -/
  | digits
  /-- A value of this kind has no JSON form. -/
  | kind (name : String)
  deriving DecidableEq, Repr

/-- The words for a refusal. -/
def Refusal.message : Refusal → String
  | .digits =>
      "Exceeds the limit (4300 digits) for integer string conversion; " ++
        "use sys.set_int_max_str_digits() to increase the limit"
  | .kind name => "Object of type " ++ name ++ " is not JSON serializable"

/-- Whether a whole number has more digits than are converted. -/
def isOverlong (n : Int) : Bool :=
  Nat.pow 10 digitLimit ≤ n.natAbs

mutual

/-- The first part of a value, in the order of writing, that is refused. -/
def refusal? : Value → Option Refusal
  | .int n => if isOverlong n then some .digits else none
  | .moment m => some (.kind m.kind)
  | .array items => refusalItems? items
  | .object fields => refusalFields? fields
  | _ => none

/-- The first refusal among items. -/
def refusalItems? : List Value → Option Refusal
  | [] => none
  | v :: rest => (refusal? v).or (refusalItems? rest)

/-- The first refusal among fields. -/
def refusalFields? : List (Str × Value) → Option Refusal
  | [] => none
  | (_, v) :: rest => (refusal? v).or (refusalFields? rest)

end

/-- A value on one line, unless a part of it is refused. -/
def write? (v : Value) : Except Refusal Str :=
  match refusal? v with
  | some r => .error r
  | none => .ok (.ofPoints (compact v))

/-- A value over several lines, unless a part of it is refused. -/
def writeIndented? (v : Value) : Except Refusal Str :=
  match refusal? v with
  | some r => .error r
  | none => .ok (.ofPoints (indented 0 v))

end CaptureDesk.Json
