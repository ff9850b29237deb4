import CaptureDesk.Json.Writer
import CaptureDesk.Text.DecodeFault

/-!
# Reading JSON text

The grammar is that of JSON, with `NaN`, `Infinity` and `-Infinity` added.  A name that is repeated
in an object keeps its first place and takes the last value.  A number with a point or an exponent
is a floating-point number, any other a whole one.

A reader takes the code points that are left and gives back a value with the code points after it.
A fault keeps the code points that were left at its place, from which the place is computed when the
fault is put into words.
-/

namespace CaptureDesk.Json

open Text (hexValue?)

/-- What can be wrong with a JSON text. -/
inductive Complaint where
  | value
  | name
  | colon
  | comma
  | extra
  | unterminated
  | control
  | escape
  | hexEscape
  | byteOrderMark
  deriving DecidableEq, Repr

/-- The words for a complaint. -/
def Complaint.message : Complaint → String
  | .value => "Expecting value"
  | .name => "Expecting property name enclosed in double quotes"
  | .colon => "Expecting ':' delimiter"
  | .comma => "Expecting ',' delimiter"
  | .extra => "Extra data"
  | .unterminated => "Unterminated string starting at"
  | .control => "Invalid control character at"
  | .escape => "Invalid \\escape"
  | .hexEscape => "Invalid \\uXXXX escape"
  | .byteOrderMark => "Unexpected UTF-8 BOM (decode using utf-8-sig)"

/-- Why a text was not read. -/
inductive Fault where
  /-- The text is not JSON; `rest` begins at the place at fault. -/
  | malformed (complaint : Complaint) (rest : List CodePoint)
  /-- A whole number has more digits than are converted. -/
  | tooManyDigits (count : Nat)
  deriving DecidableEq, Repr

/-- A value together with the code points after it. -/
abbrev Reading (α : Type) := Except Fault (α × List CodePoint)

/-- Whether a character is white space of the grammar. -/
def isSpace (c : CodePoint) : Bool :=
  c = ' ' || c = '\t' || c = '\n' || c = '\r'

/-- The characters after any white space. -/
def skip (text : List CodePoint) : List CodePoint :=
  text.dropWhile isSpace

/-- What a letter stands for after a backslash. -/
def unescaped? : CodePoint → Option CodePoint
  | '"' => some '"'
  | '\\' => some '\\'
  | '/' => some '/'
  | 'b' => some '\x08'
  | 'f' => some '\x0c'
  | 'n' => some '\n'
  | 'r' => some '\r'
  | 't' => some '\t'
  | _ => none

/-- The number that four hexadecimal digits stand for. -/
def hex4? : CodePoint → CodePoint → CodePoint → CodePoint → Option Nat
  | .char a, .char b, .char c, .char d => do
      let a ← hexValue? a
      let b ← hexValue? b
      let c ← hexValue? c
      let d ← hexValue? d
      pure (((16 * a + b) * 16 + c) * 16 + d)
  | _, _, _, _ => none

/-- Whether a number is the first half of a surrogate pair. -/
def isHigh (n : Nat) : Bool := 0xD800 ≤ n && n < 0xDC00

/-- Whether a number is the second half of a surrogate pair. -/
def isLow (n : Nat) : Bool := 0xDC00 ≤ n && n < 0xE000

/-- The character of a surrogate pair. -/
def pairChar (high low : Nat) : Char :=
  Char.ofNat (0x10000 + (high - 0xD800) * 0x400 + (low - 0xDC00))

/-- The rest of a string after its opening quote, where `opening` is the text from that quote on
and `read` the code points so far, last first.  An escape of four digits calls for a further
character after it, and so does the second escape of a surrogate pair.  A surrogate that is in no
pair stays one. -/
def stringRest (opening : List CodePoint) (read : List CodePoint) : List CodePoint → Reading Str
  | [] => .error (.malformed .unterminated opening)
  | '"' :: rest => .ok (.ofPoints read.reverse, rest)
  | '\\' :: 'u' :: a :: b :: c :: d :: '\\' :: 'u' :: e :: f :: g :: h :: next :: rest =>
      let second : List CodePoint := 'u' :: e :: f :: g :: h :: next :: rest
      match hex4? a b c d with
      | none =>
          .error (.malformed .hexEscape ('u' :: a :: b :: c :: d :: '\\' :: second))
      | some high =>
          if isHigh high then
            match hex4? e f g h with
            | none => .error (.malformed .hexEscape second)
            | some low =>
                if isLow low then
                  stringRest opening (pairChar high low :: read) (next :: rest)
                else
                  stringRest opening (.ofNat high :: read)
                    ('\\' :: 'u' :: e :: f :: g :: h :: next :: rest)
          else
            stringRest opening (.ofNat high :: read)
              ('\\' :: 'u' :: e :: f :: g :: h :: next :: rest)
  | '\\' :: 'u' :: a :: b :: c :: d :: next :: rest =>
      match hex4? a b c d with
      | none => .error (.malformed .hexEscape ('u' :: a :: b :: c :: d :: next :: rest))
      | some n => stringRest opening (.ofNat n :: read) (next :: rest)
  | '\\' :: 'u' :: rest => .error (.malformed .hexEscape ('u' :: rest))
  | '\\' :: letter :: rest =>
      match unescaped? letter with
      | some c => stringRest opening (c :: read) rest
      | none => .error (.malformed .escape ('\\' :: letter :: rest))
  | ['\\'] => .error (.malformed .unterminated opening)
  | c :: rest =>
      if c.toNat < 0x20 then .error (.malformed .control (c :: rest))
      else stringRest opening (c :: read) rest
termination_by structural text => text

/-- The number that decimal digits stand for. -/
def decimalNumber (digits : List Char) : Nat :=
  digits.foldl (fun n c => 10 * n + (c.toNat - 0x30)) 0

/-- The digits at the front of a text, and what follows them. -/
def digitRun : List CodePoint → List Char × List CodePoint
  | .char c :: rest =>
      if c.isDigit then
        let (digits, rest) := digitRun rest
        (c :: digits, rest)
      else ([], .char c :: rest)
  | text => ([], text)

/-- The digits after a point, if a point and a digit are there. -/
def fraction : List CodePoint → List Char × List CodePoint
  | '.' :: .char d :: rest =>
      if d.isDigit then
        let (digits, rest) := digitRun rest
        (d :: digits, rest)
      else ([], '.' :: .char d :: rest)
  | text => ([], text)

/-- The exponent, if one with a digit is there. -/
def exponent? (text : List CodePoint) : Option (Int × List CodePoint) :=
  match text with
  | mark :: rest =>
      if mark = 'e' ∨ mark = 'E' then
        let (negative, rest) := match rest with
          | '-' :: rest => (true, rest)
          | '+' :: rest => (false, rest)
          | rest => (false, rest)
        match digitRun rest with
        | ([], _) => none
        | (digits, rest) =>
            let n := (decimalNumber digits : Int)
            some (if negative then -n else n, rest)
      else none
  | [] => none

/-- The double nearest to a decimal that is given by its digits and an exponent. -/
def decimalFloat (negative : Bool) (whole places : List Char) (exponent : Int) : Float :=
  let x := Decimal.nearest (decimalNumber (whole ++ places)) (exponent - places.length)
  if negative then -x else x

/-- A number whose sign has been read and whose digits before the point are `whole`. -/
def numberRest (negative : Bool) (whole : List Char) (rest : List CodePoint) : Reading Value :=
  let (places, rest) := fraction rest
  match exponent? rest with
  | some (exponent, rest) => .ok (.float (decimalFloat negative whole places exponent), rest)
  | none =>
      if places.isEmpty then
        if digitLimit < whole.length then .error (.tooManyDigits whole.length)
        else
          let n := (decimalNumber whole : Int)
          .ok (.int (if negative then -n else n), rest)
      else .ok (.float (decimalFloat negative whole places 0), rest)

/-- A number.  No digit follows a leading zero. -/
def number (text : List CodePoint) : Reading Value :=
  let (negative, digits) := match text with
    | '-' :: rest => (true, rest)
    | rest => (false, rest)
  match digits with
  | '0' :: rest => numberRest negative ['0'] rest
  | digits =>
      match digitRun digits with
      | ([], _) => .error (.malformed .value text)
      | (whole, rest) => numberRest negative whole rest

mutual

/-- A value.  The fuel bounds the number of readers that call one another; twice the number of
characters is enough. -/
def value : Nat → List CodePoint → Reading Value
  | 0, text => .error (.malformed .value text)
  | fuel + 1, text =>
      match text with
      | '"' :: rest =>
          match stringRest text [] rest with
          | .error fault => .error fault
          | .ok (s, rest) => .ok (.str s, rest)
      | '\x7b' :: rest =>
          match skip rest with
          | '\x7d' :: rest => .ok (.object [], rest)
          | rest => members fuel [] rest
      | '[' :: rest =>
          match skip rest with
          | ']' :: rest => .ok (.array [], rest)
          | rest => elements fuel [] rest
      | 'n' :: 'u' :: 'l' :: 'l' :: rest => .ok (.null, rest)
      | 't' :: 'r' :: 'u' :: 'e' :: rest => .ok (.bool true, rest)
      | 'f' :: 'a' :: 'l' :: 's' :: 'e' :: rest => .ok (.bool false, rest)
      | 'N' :: 'a' :: 'N' :: rest => .ok (.float (0.0 / 0.0), rest)
      | 'I' :: 'n' :: 'f' :: 'i' :: 'n' :: 'i' :: 't' :: 'y' :: rest =>
          .ok (.float (1.0 / 0.0), rest)
      | '-' :: 'I' :: 'n' :: 'f' :: 'i' :: 'n' :: 'i' :: 't' :: 'y' :: rest =>
          .ok (.float (-1.0 / 0.0), rest)
      | text => number text

/-- The items of an array from one of them on, with those before it last first. -/
def elements : Nat → List Value → List CodePoint → Reading Value
  | 0, _, text => .error (.malformed .value text)
  | fuel + 1, before, text =>
      match value fuel text with
      | .error fault => .error fault
      | .ok (v, rest) =>
          match skip rest with
          | ']' :: rest => .ok (.array (v :: before).reverse, rest)
          | ',' :: rest => elements fuel (v :: before) (skip rest)
          | rest => .error (.malformed .comma rest)

/-- The fields of an object from one of them on, with the table of those before it. -/
def members : Nat → Table Value → List CodePoint → Reading Value
  | 0, _, text => .error (.malformed .name text)
  | fuel + 1, before, text =>
      match text with
      | '"' :: rest =>
          match stringRest text [] rest with
          | .error fault => .error fault
          | .ok (name, rest) =>
              match skip rest with
              | ':' :: rest =>
                  match value fuel (skip rest) with
                  | .error fault => .error fault
                  | .ok (v, rest) =>
                      match skip rest with
                      | '\x7d' :: rest => .ok (.object (before.put name v), rest)
                      | ',' :: rest => members fuel (before.put name v) (skip rest)
                      | rest => .error (.malformed .comma rest)
              | rest => .error (.malformed .colon rest)
      | text => .error (.malformed .name text)

end

/-- The value that a text stands for; only white space may surround it. -/
def decode (text : List CodePoint) : Except Fault Value :=
  match value (2 * text.length + 2) (skip text) with
  | .error fault => .error fault
  | .ok (v, rest) =>
      match skip rest with
      | [] => .ok v
      | rest => .error (.malformed .extra rest)

/-- The value that a text stands for, which may not begin with a byte order mark. -/
def read (text : List CodePoint) : Except Fault Value :=
  match text with
  | '\uFEFF' :: _ => .error (.malformed .byteOrderMark text)
  | _ => decode text

/-- The place of a fault in words: line and column from one, characters from zero.  Only U+000A
ends a line. -/
def place (text rest : List CodePoint) : String :=
  let offset := text.length - rest.length
  let before := text.take offset
  let line := before.count (.char '\n') + 1
  let column := (before.reverse.takeWhile (· != .char '\n')).length + 1
  "line " ++ toString line ++ " column " ++ toString column ++ " (char " ++ toString offset ++ ")"

/-- The words for a fault in a text. -/
def Fault.message (text : List CodePoint) : Fault → String
  | .malformed complaint rest => complaint.message ++ ": " ++ place text rest
  | .tooManyDigits count =>
      "Exceeds the limit (4300 digits) for integer string conversion: value has " ++
        toString count ++ " digits; use sys.set_int_max_str_digits() to increase the limit"

end CaptureDesk.Json
