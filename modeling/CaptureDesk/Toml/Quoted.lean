import CaptureDesk.Toml.Fault

/-!
# Keys, strings and comments of TOML

A basic string stands in double quotes and knows escapes; a literal one stands in single quotes and
does not.  Each has a form over several lines, in triple quotes.  The control characters are allowed
in none of them, nor in comments, except the tab and, over several lines, the line feed.
-/

namespace CaptureDesk.Toml

open Text (hexNumber?)

/-- A space or a tab. -/
def isSpace (c : Char) : Bool := c = ' ' || c = '\t'

/-- A space, a tab or a line feed. -/
def isGap (c : Char) : Bool := isSpace c || c = '\n'

/-- A control character that may not stand in a text; over several lines the line feed may. -/
def isControl (multiline : Bool) (c : Char) : Bool :=
  (c.toNat < 0x20 || c.toNat == 0x7F) && c != '\t' && !(multiline && c == '\n')

/-- The characters after any spaces and tabs. -/
def skipSpace (text : List Char) : List Char := text.dropWhile isSpace

/-- Refuses a text that holds a control character before its rest. -/
def withoutControl (multiline : Bool) (content text : List Char) : Except Fault Unit :=
  match content.find? (isControl multiline) with
  | none => .ok ()
  | some c => refuse (.control c) (text.dropWhile (!isControl multiline ·))

/-- The characters after a comment, if one is there. -/
def skipComment (text : List Char) : Except Fault (List Char) :=
  match text with
  | '#' :: rest => do
      withoutControl false (rest.takeWhile (· != '\n')) rest
      pure (rest.dropWhile (· != '\n'))
  | _ => pure text

/-- Splits a text before the first place where a delimiter stands. -/
def splitBefore? (delimiter : List Char) : List Char → Option (List Char × List Char)
  | [] => none
  | c :: rest =>
      if delimiter.isPrefixOf (c :: rest) then some ([], c :: rest)
      else (splitBefore? delimiter rest).map fun (content, rest) => (c :: content, rest)

/-- The rest of a literal string after its opening quotes. -/
def literalRest (multiline : Bool) (text : List Char) : Except Fault (List Char × List Char) := do
  let delimiter := if multiline then ['\'', '\'', '\''] else ['\'']
  match splitBefore? delimiter text with
  | none => refuse (.unclosed (String.ofList delimiter)) []
  | some (content, rest) =>
      withoutControl multiline content text
      pure (content, rest.drop delimiter.length)

/-- What a letter stands for after a backslash. -/
def unescaped? : Char → Option Char
  | 'b' => some '\x08'
  | 't' => some '\t'
  | 'n' => some '\n'
  | 'f' => some '\x0c'
  | 'r' => some '\r'
  | '"' => some '"'
  | '\\' => some '\\'
  | _ => none

/-- The character that hexadecimal digits stand for; `rest` follows the digits. -/
def hexChar (digits rest : List Char) : Except Fault Char :=
  match hexNumber? digits with
  | none => refuse .hex (digits ++ rest)
  | some n => if n.isValidChar then .ok (Char.ofNat n) else refuse .scalar rest

/-- Where the reader of a basic string stands: in the text, or in a gap after a backslash, before
or after the line feed that such a gap must have. -/
inductive Gap where
  | none
  | open
  | past
  deriving DecidableEq, Repr

/-- The rest of a basic string after its opening quotes, with the characters read so far, last
first. -/
def basicRest (multiline : Bool) (gap : Gap) (read : List Char) :
    List Char → Except Fault (List Char × List Char)
  | [] => refuse .unterminated []
  | c :: rest =>
      if gap = .open then
        if isSpace c then basicRest multiline .open read rest
        else if c = '\n' then basicRest multiline .past read rest
        else refuse .escape (c :: rest)
      else if gap = .past ∧ isGap c then basicRest multiline .past read rest
      else if c = '"' then
        if multiline then
          match rest with
          | '"' :: '"' :: rest => .ok (read.reverse, rest)
          | rest => basicRest multiline .none ('"' :: read) rest
        else .ok (read.reverse, rest)
      else if c = '\\' then
        match rest with
        | [] => refuse .escape []
        | 'u' :: rest =>
            match rest with
            | a :: b :: c :: d :: rest =>
                match hexChar [a, b, c, d] rest with
                | .error fault => .error fault
                | .ok char => basicRest multiline .none (char :: read) rest
            | rest => refuse .hex rest
        | 'U' :: rest =>
            match rest with
            | a :: b :: c :: d :: e :: f :: g :: h :: rest =>
                match hexChar [a, b, c, d, e, f, g, h] rest with
                | .error fault => .error fault
                | .ok char => basicRest multiline .none (char :: read) rest
            | rest => refuse .hex rest
        | letter :: rest =>
            if multiline ∧ letter = '\n' then basicRest multiline .past read rest
            else if multiline ∧ isSpace letter then basicRest multiline .open read rest
            else
              match unescaped? letter with
              | some char => basicRest multiline .none (char :: read) rest
              | none => refuse .escape rest
      else if isControl multiline c then refuse (.illegal c) (c :: rest)
      else basicRest multiline .none (c :: read) rest

/-- Up to two further quotes right after a string over several lines belong to it. -/
def furtherQuotes (quote : Char) (content : List Char) : List Char → List Char × List Char
  | a :: b :: rest =>
      if a = quote then
        if b = quote then (content ++ [quote, quote], rest) else (content ++ [quote], b :: rest)
      else (content, a :: b :: rest)
  | [a] => if a = quote then (content ++ [quote], []) else (content, [a])
  | [] => (content, [])

/-- The characters after the line feed that may follow opening triple quotes. -/
def skipFirstLine : List Char → List Char
  | '\n' :: rest => rest
  | text => text

/-- A string of any of the four forms; the text begins with its opening quotes. -/
def quoted (text : List Char) : Except Fault (String × List Char) := do
  match text with
  | '"' :: '"' :: '"' :: rest =>
      let (content, rest) ← basicRest true .none [] (skipFirstLine rest)
      let (content, rest) := furtherQuotes '"' content rest
      pure (String.ofList content, rest)
  | '\'' :: '\'' :: '\'' :: rest =>
      let (content, rest) ← literalRest true (skipFirstLine rest)
      let (content, rest) := furtherQuotes '\'' content rest
      pure (String.ofList content, rest)
  | '"' :: rest =>
      let (content, rest) ← basicRest false .none [] rest
      pure (String.ofList content, rest)
  | '\'' :: rest =>
      let (content, rest) ← literalRest false rest
      pure (String.ofList content, rest)
  | text => refuse .value text

/-- A character of a key that stands without quotes. -/
def isBareKey (c : Char) : Bool :=
  c.isAlphanum || c = '-' || c = '_'

/-- A part of a key: bare characters, or a string on one line. -/
def keyPart (text : List Char) : Except Fault (String × List Char) := do
  match text with
  | '"' :: rest =>
      let (content, rest) ← basicRest false .none [] rest
      pure (String.ofList content, rest)
  | '\'' :: rest =>
      let (content, rest) ← literalRest false rest
      pure (String.ofList content, rest)
  | text =>
      match text.takeWhile isBareKey with
      | [] => refuse .keyStart text
      | bare => pure (String.ofList bare, text.dropWhile isBareKey)

/-- A key: parts with dots between them, and spaces around the dots.  The fuel bounds the number of
parts. -/
def key : Nat → List Char → Except Fault (Key × List Char)
  | 0, text => refuse .keyStart text
  | fuel + 1, text => do
      let (part, rest) ← keyPart text
      match skipSpace rest with
      | '.' :: rest =>
          let (parts, rest) ← key fuel (skipSpace rest)
          pure (part :: parts, rest)
      | rest => pure ([part], rest)

end CaptureDesk.Toml
