import CaptureDesk.Json.Reader
import CaptureDesk.Toml.Quoted

/-!
# Numbers and moments of TOML

A moment is tried before a number, since its first digits would be one.  Digits may be grouped with
single underscores.  The numbers of a moment have a fixed width and range; a date that is not in the
calendar is refused.
-/

namespace CaptureDesk.Toml

open Json (decimalNumber digitLimit)

/-- A number of exactly two digits between bounds. -/
def twoDigits? (low high : Nat) : List Char → Option (Nat × List Char)
  | a :: b :: rest =>
      let n := decimalNumber [a, b]
      if a.isDigit && b.isDigit && low ≤ n && n ≤ high then some (n, rest) else none
  | _ => none

/-- The characters after a given one. -/
def after? (c : Char) : List Char → Option (List Char)
  | d :: rest => if c = d then some rest else none
  | [] => none

/-- A date, which need not be in the calendar. -/
def date? (text : List Char) : Option (Date × List Char) := do
  let digits := text.take 4
  guard (digits.length = 4 ∧ digits.all Char.isDigit)
  let rest ← after? '-' (text.drop 4)
  let (month, rest) ← twoDigits? 1 12 rest
  let rest ← after? '-' rest
  let (day, rest) ← twoDigits? 1 31 rest
  pure (⟨decimalNumber digits, month, day⟩, rest)

/-- The decimals of a second, of which six count. -/
def micros (text : List Char) : Nat × List Char :=
  match text with
  | '.' :: rest =>
      match rest.takeWhile Char.isDigit with
      | [] => (0, text)
      | digits =>
          let six := digits.take 6
          (decimalNumber six * Nat.pow 10 (6 - six.length), rest.dropWhile Char.isDigit)
  | _ => (0, text)

/-- A time of day. -/
def clock? (text : List Char) : Option (Clock × List Char) := do
  let (hour, rest) ← twoDigits? 0 23 text
  let rest ← after? ':' rest
  let (minute, rest) ← twoDigits? 0 59 rest
  let rest ← after? ':' rest
  let (second, rest) ← twoDigits? 0 59 rest
  let (micros, rest) := micros rest
  pure (⟨hour, minute, second, micros⟩, rest)

/-- An offset from UTC in minutes, if one is there. -/
def offset (text : List Char) : Option Int × List Char :=
  let hours? (sign : Int) (rest : List Char) : Option (Int × List Char) := do
    let (hour, rest) ← twoDigits? 0 23 rest
    let rest ← after? ':' rest
    let (minute, rest) ← twoDigits? 0 59 rest
    pure (sign * (60 * hour + minute), rest)
  let found := match text with
    | 'Z' :: rest | 'z' :: rest => some (0, rest)
    | '+' :: rest => hours? 1 rest
    | '-' :: rest => hours? (-1) rest
    | _ => none
  match found with
  | some (minutes, rest) => (some minutes, rest)
  | none => (none, text)

/-- The time of day that follows a date after a `T` or a space. -/
def clockAfter? : List Char → Option (Clock × List Char)
  | 'T' :: rest | 't' :: rest | ' ' :: rest => clock? rest
  | _ => none

/-- A moment, if one is there. -/
def moment? (text : List Char) : Option (Except Fault (Moment × List Char)) :=
  match date? text with
  | some (date, rest) =>
      some <|
        if !date.isValid then refuse .moment text
        else
          match clockAfter? rest with
          | none => .ok (.date date, rest)
          | some (clock, rest) =>
              let (minutes, rest) := offset rest
              .ok (.both date clock minutes, rest)
  | none => (clock? text).map fun (clock, rest) => .ok (.time clock, rest)

/-- Further digits, each with or without an underscore before it. -/
def groupedRest (isDigit : Char → Bool) : List Char → List Char × List Char
  | '_' :: d :: rest =>
      if isDigit d then
        let (digits, rest) := groupedRest isDigit rest
        (d :: digits, rest)
      else ([], '_' :: d :: rest)
  | d :: rest =>
      if isDigit d then
        let (digits, rest) := groupedRest isDigit rest
        (d :: digits, rest)
      else ([], d :: rest)
  | [] => ([], [])

/-- Digits that may be grouped; the first stands without an underscore. -/
def grouped? (isDigit : Char → Bool) : List Char → Option (List Char × List Char)
  | d :: rest =>
      if isDigit d then
        let (digits, rest) := groupedRest isDigit rest
        some (d :: digits, rest)
      else none
  | [] => none

/-- A whole number in base two, eight or sixteen, after its `0` and the letter of the base. -/
def basedNumber? (text : List Char) : Option (Int × List Char) :=
  let number? (base : Nat) (rest : List Char) : Option (Int × List Char) := do
    let value (c : Char) := (Text.hexValue? c).getD 16
    let (digits, rest) ← grouped? (value · < base) rest
    pure (digits.foldl (fun n c => base * n + value c) 0, rest)
  match text with
  | '0' :: 'x' :: rest => number? 16 rest
  | '0' :: 'o' :: rest => number? 8 rest
  | '0' :: 'b' :: rest => number? 2 rest
  | _ => none

/-- The sign at the front of a text: whether it is a minus. -/
def sign : List Char → Bool × List Char
  | '-' :: rest => (true, rest)
  | '+' :: rest => (false, rest)
  | text => (false, text)

/-- The digits before the point.  No digit follows a leading zero. -/
def whole? : List Char → Option (List Char × List Char)
  | '0' :: rest => some (['0'], rest)
  | text => grouped? Char.isDigit text

/-- The digits after a point, if a point and a digit are there. -/
def fraction? : List Char → Option (List Char × List Char)
  | '.' :: rest => grouped? Char.isDigit rest
  | _ => none

/-- An exponent, if one is there. -/
def exponent? : List Char → Option (Int × List Char)
  | 'e' :: rest | 'E' :: rest => do
      let (negative, rest) := sign rest
      let (digits, rest) ← grouped? Char.isDigit rest
      let n := (decimalNumber digits : Int)
      pure (if negative then -n else n, rest)
  | _ => none

/-- A decimal number, if one is there: whole unless it has a point or an exponent. -/
def decimal? (text : List Char) : Option (Except Fault (Value × List Char)) := do
  let (negative, rest) := sign text
  let (whole, rest) ← whole? rest
  let float (places : List Char) (exponent : Int) :=
    Value.float (Json.decimalFloat negative whole places exponent)
  match fraction? rest with
  | some (places, rest) =>
      match exponent? rest with
      | some (exponent, rest) => some (.ok (float places exponent, rest))
      | none => some (.ok (float places 0, rest))
  | none =>
      match exponent? rest with
      | some (exponent, rest) => some (.ok (float [] exponent, rest))
      | none =>
          if digitLimit < whole.length then some (.error (.tooManyDigits whole.length))
          else
            let n := (decimalNumber whole : Int)
            some (.ok (.int (if negative then -n else n), rest))

/-- One of the numbers that are written as words, if one is there. -/
def special? (text : List Char) : Option (Value × List Char) :=
  let (negative, rest) := sign text
  match rest with
  | 'i' :: 'n' :: 'f' :: rest => some (.float (if negative then -1.0 / 0.0 else 1.0 / 0.0), rest)
  | 'n' :: 'a' :: 'n' :: rest => some (.float (0.0 / 0.0), rest)
  | _ => none

/-- A value that is neither a string nor holds other values. -/
def scalar (text : List Char) : Except Fault (Value × List Char) :=
  match text with
  | 't' :: 'r' :: 'u' :: 'e' :: rest => .ok (.bool true, rest)
  | 'f' :: 'a' :: 'l' :: 's' :: 'e' :: rest => .ok (.bool false, rest)
  | _ =>
      match moment? text with
      | some (.ok (m, rest)) => .ok (.moment m, rest)
      | some (.error fault) => .error fault
      | none =>
          match basedNumber? text with
          | some (n, rest) => .ok (.int n, rest)
          | none =>
              match decimal? text with
              | some reading => reading
              | none =>
                  match special? text with
                  | some found => .ok found
                  | none => refuse .value text

end CaptureDesk.Toml
