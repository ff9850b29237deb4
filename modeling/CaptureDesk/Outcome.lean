import CaptureDesk.Failure

/-!
# Outcomes

What a request to the backend comes to: a value or a failure.  On the transport an outcome is an
object whose field `ok` is a truth value; every other value is the value of a success.
-/

namespace CaptureDesk

/-- The answer to a request. -/
inductive Outcome where
  | success (value : Value)
  | failure (error : Failure)
  deriving DecidableEq, Repr

namespace Outcome

/-- Whether an outcome is a success. -/
def isOk : Outcome → Bool
  | success _ => true
  | failure _ => false

/-- The error of a failed outcome. -/
def error? : Outcome → Option Failure
  | success _ => none
  | failure e => some e

/-- The value of a success when it is an object, and the empty object otherwise. -/
def payload : Outcome → Value
  | success (.object fields) => .object fields
  | _ => .object []

/-- An outcome as it travels. -/
def toValue : Outcome → Value
  | success v => .object [("ok", .bool true), ("value", v)]
  | failure e => .object [("ok", .bool false), ("error", e.toValue)]

/-- The verdict of a transported outcome, if a value is one. -/
def verdict? (raw : Value) : Option Bool :=
  (raw.field "ok").bool?

/-- The outcome that a transported value stands for.  A failed one whose error cannot be read is an
internal failure that shows the beginning of what stood there. -/
def ofValue (raw : Value) : Outcome :=
  match verdict? raw with
  | none => success raw
  | some true => success (raw.field "value")
  | some false =>
      match Failure.ofValue? (raw.field "error") with
      | some e => failure e
      | none =>
          failure <| Failure.internal "Malformed failure envelope from backend"
            (some (String.ofList ((raw.field "error").quoted.take 400) : String))

end Outcome

end CaptureDesk
