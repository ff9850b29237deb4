import CaptureDesk.Text.Digit

/-!
# Octets that are no text

What a decoder reports when octets do not form a text: the encoding, the span of the octets at
fault, and what is wrong with them.
-/

namespace CaptureDesk.Text

instance decEqExcept {ε α : Type} [DecidableEq ε] [DecidableEq α] : DecidableEq (Except ε α)
  | .error a, .error b => decidable_of_iff (a = b) (by rw [Except.error.injEq])
  | .ok a, .ok b => decidable_of_iff (a = b) (by rw [Except.ok.injEq])
  | .error _, .ok _ | .ok _, .error _ => isFalse nofun

/-- The ways in which octets fail to form a text. -/
inductive DecodeReason where
  /-- No character begins with this octet. -/
  | start
  /-- The octets before the end of the span are not followed by the octet they call for. -/
  | continuation
  /-- The octets end inside a character. -/
  | endOfData
  /-- The octets end inside a unit of sixteen or thirty-two bits. -/
  | truncated
  /-- A unit of thirty-two bits is no code point. -/
  | range
  deriving DecidableEq, Repr

/-- The words for a reason. -/
def DecodeReason.message : DecodeReason → String
  | .start => "invalid start byte"
  | .continuation => "invalid continuation byte"
  | .endOfData => "unexpected end of data"
  | .truncated => "truncated data"
  | .range => "code point not in range(0x110000)"

/-- A span of octets, `size` of them from `start` on and led by `first`, that is no text. -/
structure DecodeFault where
  encoding : String
  first : UInt8
  start : Nat
  size : Nat
  reason : DecodeReason
  deriving DecidableEq, Repr

/-- A single octet is named by its value, a longer span by its first and last place. -/
def DecodeFault.message (f : DecodeFault) : String :=
  let place :=
    if f.size ≤ 1 then
      "byte 0x" ++ String.ofList (hexDigits 2 f.first.toNat) ++ " in position " ++ toString f.start
    else
      "bytes in position " ++ toString f.start ++ "-" ++ toString (f.start + f.size - 1)
  "'" ++ f.encoding ++ "' codec can't decode " ++ place ++ ": " ++ f.reason.message

end CaptureDesk.Text
