import CaptureDesk.Str

/-!
# Texts of unknown encoding

A text that arrives as octets without a label is UTF-8, UTF-16 or UTF-32.  A byte order mark
decides; without one, the places of the zero octets among the first four do, since such a text
begins with an ASCII character.  A surrogate that stands alone is let through.
-/

namespace CaptureDesk.Text

/-- The order of the octets in a unit. -/
inductive Endian where
  | little
  | big
  deriving DecidableEq, Repr

/-- The encodings that can be told apart. -/
inductive Encoding where
  | utf8
  | utf16 (order : Endian)
  | utf32 (order : Endian)
  deriving DecidableEq, Repr

/-- The name of an encoding. -/
def Encoding.name : Encoding → String
  | .utf8 => "utf-8"
  | .utf16 .little => "utf-16-le"
  | .utf16 .big => "utf-16-be"
  | .utf32 .little => "utf-32-le"
  | .utf32 .big => "utf-32-be"

/-- The byte order marks.  One of them begins with another, and stands before it. -/
def orderMarks : List (List UInt8 × Encoding) :=
  [([0x00, 0x00, 0xFE, 0xFF], .utf32 .big), ([0xFF, 0xFE, 0x00, 0x00], .utf32 .little),
    ([0xFE, 0xFF], .utf16 .big), ([0xFF, 0xFE], .utf16 .little), ([0xEF, 0xBB, 0xBF], .utf8)]

/-- The encoding of octets without a byte order mark. -/
def detectByZeros : List UInt8 → Encoding
  | a :: b :: c :: d :: _ =>
      if a = 0 then if b = 0 then .utf32 .big else .utf16 .big
      else if b = 0 then if c = 0 ∧ d = 0 then .utf32 .little else .utf16 .little
      else .utf8
  | [a, b] => if a = 0 then .utf16 .big else if b = 0 then .utf16 .little else .utf8
  | _ => .utf8

/-- The encoding of octets, and the length of their byte order mark. -/
def detect (octets : List UInt8) : Encoding × Nat :=
  match orderMarks.find? (·.1.isPrefixOf octets) with
  | some (mark, encoding) => (encoding, mark.length)
  | none => (detectByZeros octets, 0)

/-- The number that octets stand for in an order. -/
def Endian.number : Endian → List UInt8 → Nat
  | .big, octets => octets.foldl (fun n b => 256 * n + b.toNat) 0
  | .little, octets => octets.foldr (fun b n => 256 * n + b.toNat) 0

/-- The units of sixteen bits in octets that stand at a place. -/
def units16 (order : Endian) (units : List Nat) (place : Nat) :
    List UInt8 → Except DecodeFault (List Nat)
  | [] => .ok units.reverse
  | a :: b :: rest => units16 order (order.number [a, b] :: units) (place + 2) rest
  | [a] => .error ⟨(Encoding.utf16 order).name, a, place, 1, .truncated⟩

/-- The code points of units of sixteen bits: a pair of surrogates is one character. -/
def points16 (points : List CodePoint) : List Nat → List CodePoint
  | [] => points.reverse
  | high :: low :: rest =>
      if 0xD800 ≤ high ∧ high < 0xDC00 ∧ 0xDC00 ≤ low ∧ low < 0xE000 then
        points16 (Char.ofNat (0x10000 + (high - 0xD800) * 0x400 + (low - 0xDC00)) :: points) rest
      else points16 (.ofNat high :: points) (low :: rest)
  | [unit] => (.ofNat unit :: points).reverse

/-- The code points of units of thirty-two bits that stand at a place. -/
def points32 (order : Endian) (points : List CodePoint) (place : Nat) :
    List UInt8 → Except DecodeFault (List CodePoint)
  | [] => .ok points.reverse
  | a :: b :: c :: d :: rest =>
      let code := order.number [a, b, c, d]
      if code < 0x110000 then points32 order (.ofNat code :: points) (place + 4) rest
      else .error ⟨(Encoding.utf32 order).name, a, place, 4, .range⟩
  | a :: rest => .error ⟨(Encoding.utf32 order).name, a, place, 1 + rest.length, .truncated⟩

namespace Utf8

/-- The surrogate that three octets at the front would stand for. -/
def surrogate? : List UInt8 → Option Surrogate
  | 0xED :: b :: c :: _ =>
      if 0xA0 ≤ b ∧ b ≤ 0xBF ∧ 0x80 ≤ c ∧ c ≤ 0xBF then
        some (Fin.ofNat _ ((b.toNat - 0xA0) * 0x40 + (c.toNat - 0x80)))
      else none
  | _ => none

/-- Gives the octets that would stand for surrogates the form of U+FFFD, which is as long. -/
def passSurrogates : List UInt8 → List UInt8
  | a :: b :: c :: rest =>
      if (surrogate? (a :: b :: c :: rest)).isSome then
        0xEF :: 0xBF :: 0xBD :: passSurrogates rest
      else a :: passSurrogates (b :: c :: rest)
  | octets => octets

/-- Puts the surrogates that some octets stand for back into the characters that these were read
as. -/
def reinstate : List UInt8 → List Char → List CodePoint
  | _, [] => []
  | octets, c :: rest =>
      ((surrogate? octets).map CodePoint.surrogate).getD c ::
        reinstate (octets.drop c.utf8Size) rest

/-- The code points of octets among which surrogates may stand. -/
def decodePassing (octets : List UInt8) : Except DecodeFault (List CodePoint) :=
  (decode (passSurrogates octets)).map (reinstate octets)

end Utf8

/-- The code points that octets of unknown encoding stand for, without their byte order mark.  The
place of a fault counts the mark, except in UTF-8. -/
def decodeDetected (octets : List UInt8) : Except DecodeFault (List CodePoint) :=
  match detect octets with
  | (.utf8, mark) => Utf8.decodePassing (octets.drop mark)
  | (.utf16 order, mark) => do
      let units ← units16 order [] mark (octets.drop mark)
      pure (points16 [] units)
  | (.utf32 order, mark) => points32 order [] mark (octets.drop mark)

end CaptureDesk.Text
