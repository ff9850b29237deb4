import CaptureDesk.Fault
import CaptureDesk.Text.Blank
import CaptureDesk.Text.Wide

/-!
# Recognised text

The recognition helper writes a JSON array of blocks.  A block has a text that is not blank, a
confidence, and a box in coordinates from zero to one that does not reach past the image.  The
blocks are accepted all or none; of several bad ones the first is reported.
-/

namespace CaptureDesk

/-- A box in the coordinates of the image. -/
structure Box where
  x : Float
  y : Float
  w : Float
  h : Float
  deriving DecidableEq, Repr

/-- A text that was recognised. -/
structure TextBlock where
  text : Str
  confidence : Float
  box : Box
  deriving DecidableEq, Repr

/-- A block as an object. -/
def TextBlock.toValue (b : TextBlock) : Value :=
  .object
    [("text", .str b.text), ("confidence", .float b.confidence),
      ("bbox", .object
        [("x", .float b.box.x), ("y", .float b.box.y), ("w", .float b.box.w),
          ("h", .float b.box.h)])]

namespace Recognition

/-- The output of the helper does not have the shape that it should have. -/
def schemaFault (reason : String) : Fault :=
  .helper
    { message := "provider schema invalid: " ++ reason
      code := .providerSchemaInvalid
      helper := "recognition"
      recoverable := false }

/-- The number of a value that lies between zero and one.  A whole number that no floating-point
number is near to is a fault of its own. -/
def unit? (v : Value) : Except Fault (Option Float) :=
  let within (x : Float) : Option Float := if 0 ≤ x && x ≤ 1 then some x else none
  match v with
  | .int n =>
      match Decimal.ofInt? n with
      | some x => .ok (within x)
      | none => .error .tooLarge
  | .float x => .ok (within x)
  | _ => .ok none

/-- The number of a value that lies between zero and one, or the reason why there is none. -/
def unit (reason : String) (v : Value) : Except Fault Float := do
  match ← unit? v with
  | some x => pure x
  | none => throw (schemaFault reason)

/-- How far a box may reach: one, and the distance to the next number after it. -/
def edge : Float := Float.ofBits 0x3FF0000000000001

/-- Requires a condition, or gives the reason for which a block is refused. -/
def require (condition : Bool) (reason : String) : Except Fault Unit :=
  if condition then .ok () else .error (schemaFault reason)

/-- The block that a value stands for. -/
def block (v : Value) : Except Fault TextBlock := do
  require v.isObject "block must be an object"
  let text := ((v.field "text").str?).getD ""
  require (!text.isBlank) "text cannot be empty"
  let confidence ← unit "confidence out of range" (v.field "confidence")
  let coordinate (key : Str) := unit "bbox out of range" (v.field key)
  let x ← coordinate "x"
  let y ← coordinate "y"
  let w ← coordinate "w"
  let h ← coordinate "h"
  require (0 < w && 0 < h) "bbox must be positive"
  require (x + w ≤ edge && y + h ≤ edge) "bbox exceeds normalized bounds"
  pure { text, confidence, box := { x, y, w, h } }

/-- The blocks that a document holds, in its order. -/
def blocks (document : Value) : Except Fault (List TextBlock) :=
  match document with
  | .array items => items.mapM block
  | _ => .error (schemaFault "expected a JSON array of blocks")

/-- The words for a text that is not JSON. -/
def notJson (detail : String) : Fault :=
  schemaFault ("output is not JSON (" ++ detail ++ ")")

/-- The blocks that the reading of a text has given. -/
def ofReading (text : List CodePoint) : Except Json.Fault Value → Except Fault (List TextBlock)
  | .ok document => blocks document
  | .error (.tooManyDigits count) => .error (.tooManyDigits count)
  | .error fault => .error (notJson (fault.message text))

/-- The blocks in a text. -/
def ofText (text : Str) : Except Fault (List TextBlock) :=
  ofReading text.points (Json.read text.points)

/-- The blocks in octets of unknown encoding. -/
def ofOctets (octets : List UInt8) : Except Fault (List TextBlock) :=
  match Text.decodeDetected octets with
  | .ok text => ofReading text (Json.decode text)
  | .error fault => .error (notJson fault.message)

end Recognition

end CaptureDesk
