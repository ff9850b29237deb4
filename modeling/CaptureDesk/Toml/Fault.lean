import CaptureDesk.Value.Text

/-!
# Faults of a TOML text

What can be wrong with a TOML text, and how the place at fault is put into words.  A reader keeps
the characters that were left at the place, as the JSON reader does.
-/

namespace CaptureDesk.Toml

/-- A dotted key, part by part. -/
abbrev Key := List String

/-- What can be wrong with a TOML text. -/
inductive Complaint where
  | statement
  | lineEnd
  | declaredTwice (key : Key)
  | overwritten
  | immutable (key : Key)
  | redefined (key : Key)
  | tableEnd
  | tableArrayEnd
  | equals
  | keyStart
  | arrayEnd
  | inlineEnd
  | inlineTwice (part : String)
  | unterminated
  | unclosed (delimiter : String)
  | control (c : Char)
  | illegal (c : Char)
  | escape
  | hex
  | scalar
  | moment
  | value
  deriving DecidableEq, Repr

/-- A key in a message. -/
def keyText (key : Key) : String := Value.tupleText (key.map fun part => .str (.plain part))

/-- A text in quotes in a message. -/
def quotedText (s : String) : String := String.ofList (Value.quotedString s)

/-- The words for a complaint. -/
def Complaint.message : Complaint → String
  | .statement => "Invalid statement"
  | .lineEnd => "Expected newline or end of document after a statement"
  | .declaredTwice key => "Cannot declare " ++ keyText key ++ " twice"
  | .overwritten => "Cannot overwrite a value"
  | .immutable key => "Cannot mutate immutable namespace " ++ keyText key
  | .redefined key => "Cannot redefine namespace " ++ keyText key
  | .tableEnd => "Expected ']' at the end of a table declaration"
  | .tableArrayEnd => "Expected ']]' at the end of an array declaration"
  | .equals => "Expected '=' after a key in a key/value pair"
  | .keyStart => "Invalid initial character for a key part"
  | .arrayEnd => "Unclosed array"
  | .inlineEnd => "Unclosed inline table"
  | .inlineTwice part => "Duplicate inline table key " ++ quotedText part
  | .unterminated => "Unterminated string"
  | .unclosed delimiter => "Expected " ++ quotedText delimiter
  | .control c => "Found invalid character " ++ quotedText (String.singleton c)
  | .illegal c => "Illegal character " ++ quotedText (String.singleton c)
  | .escape => "Unescaped '\\' in a string"
  | .hex => "Invalid hex value"
  | .scalar => "Escaped character is not a Unicode scalar value"
  | .moment => "Invalid date or datetime"
  | .value => "Invalid value"

/-- Why a text was not read. -/
inductive Fault where
  /-- The text is not TOML; `rest` begins at the place at fault. -/
  | malformed (complaint : Complaint) (rest : List Char)
  /-- A decimal whole number has more digits than are converted. -/
  | tooManyDigits (count : Nat)
  deriving DecidableEq, Repr

/-- A fault at a place. -/
def refuse {α : Type} (complaint : Complaint) (rest : List Char) : Except Fault α :=
  .error (.malformed complaint rest)

/-- The place of a fault in words, with line and column from one. -/
def place (text rest : List Char) : String :=
  if rest.isEmpty then "end of document"
  else
    let before := text.take (text.length - rest.length)
    let line := before.count '\n' + 1
    let column := (before.reverse.takeWhile (· != '\n')).length + 1
    "line " ++ toString line ++ ", column " ++ toString column

/-- The words for a complaint about a text. -/
def Complaint.at (complaint : Complaint) (text rest : List Char) : String :=
  complaint.message ++ " (at " ++ place text rest ++ ")"

end CaptureDesk.Toml
