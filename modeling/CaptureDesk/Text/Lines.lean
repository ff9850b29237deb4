/-!
# Line ends

A text file may end its lines with a line feed, a carriage return, or both in this order.  All three
are read as a line feed.
-/

namespace CaptureDesk.Text

/-- A text with every line end as a line feed. -/
def unifyLines : List Char → List Char
  | [] => []
  | '\r' :: '\n' :: rest => '\n' :: unifyLines rest
  | '\r' :: rest => '\n' :: unifyLines rest
  | c :: rest => c :: unifyLines rest

/-- The lines of a text, each with the line feed that ends it; the last may have none. -/
def lines : List Char → List (List Char)
  | [] => []
  | '\n' :: rest => ['\n'] :: lines rest
  | c :: rest =>
      match lines rest, rest with
      | line :: others, _ :: _ => (c :: line) :: others
      | others, _ => [c] :: others

/-- The lines that are known to have ended when a text breaks off.  A carriage return in the last
place does not end a line yet, because a line feed may follow it. -/
def endedLines (text : List Char) : List (List Char) :=
  let seen := if text.getLast? = some '\r' then text.dropLast else text
  (lines (unifyLines seen)).filter fun line => line.getLast? == some '\n'

end CaptureDesk.Text
