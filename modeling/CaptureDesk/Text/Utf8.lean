import CaptureDesk.Text.DecodeFault

/-!
# UTF-8

Octets are cut into *pieces*: characters, and the maximal ill-formed subparts between them.  A
subpart is a lead octet with as many of the octets it calls for as are there.  The three decoders
are views of the pieces: `decode` refuses the first ill-formed one, `decodeLossy` shows each of
them as U+FFFD, and `decodeBlocks` decodes a stream block by block.

The cutting is a machine with one step per octet, so that it is a plain recursion on the octets.
-/

namespace CaptureDesk.Text.Utf8

/-- A character under way: how many octets it still needs, the bounds of the next one, the bits
read so far, and the octets they came from, last first. -/
structure Open where
  missing : Nat
  low : UInt8
  high : UInt8
  bits : Nat
  seen : List UInt8
  deriving DecidableEq, Repr

/-- A character, or octets that belong to none. -/
inductive Piece where
  | char (c : Char)
  | broken (octets : List UInt8) (reason : DecodeReason)
  deriving DecidableEq, Repr

/-- What an octet does where a character may begin. -/
inductive Begin where
  | char (c : Char)
  | more (state : Open)
  | none
  deriving DecidableEq, Repr

/-- The lead octets, with the bounds they set for the octet after them.  The bounds rule out
overlong forms, surrogates and numbers past U+10FFFF. -/
def begin (b : UInt8) : Begin :=
  if b < 0x80 then .char (Char.ofNat b.toNat)
  else if b < 0xC2 then .none
  else if b < 0xE0 then .more ⟨1, 0x80, 0xBF, b.toNat - 0xC0, [b]⟩
  else if b = 0xE0 then .more ⟨2, 0xA0, 0xBF, 0, [b]⟩
  else if b = 0xED then .more ⟨2, 0x80, 0x9F, 13, [b]⟩
  else if b < 0xF0 then .more ⟨2, 0x80, 0xBF, b.toNat - 0xE0, [b]⟩
  else if b = 0xF0 then .more ⟨3, 0x90, 0xBF, 0, [b]⟩
  else if b < 0xF4 then .more ⟨3, 0x80, 0xBF, b.toNat - 0xF0, [b]⟩
  else if b = 0xF4 then .more ⟨3, 0x80, 0x8F, 4, [b]⟩
  else .none

/-- The pieces of octets, and the character that is under way at their end. -/
def cut (pieces : List Piece) : Option Open → List UInt8 → List Piece × Option Open
  | state, [] => (pieces.reverse, state)
  | some s, b :: rest =>
      if s.low ≤ b ∧ b ≤ s.high then
        let bits := 64 * s.bits + (b.toNat - 0x80)
        if s.missing = 1 then cut (.char (Char.ofNat bits) :: pieces) none rest
        else cut pieces (some ⟨s.missing - 1, 0x80, 0xBF, bits, b :: s.seen⟩) rest
      else
        let pieces := .broken s.seen.reverse .continuation :: pieces
        match begin b with
        | .char c => cut (.char c :: pieces) none rest
        | .more s => cut pieces (some s) rest
        | .none => cut (.broken [b] .start :: pieces) none rest
  | none, b :: rest =>
      match begin b with
      | .char c => cut (.char c :: pieces) none rest
      | .more s => cut pieces (some s) rest
      | .none => cut (.broken [b] .start :: pieces) none rest

/-- All pieces of octets that end here. -/
def pieces (octets : List UInt8) : List Piece :=
  match cut [] none octets with
  | (found, none) => found
  | (found, some s) => found ++ [.broken s.seen.reverse .endOfData]

/-- The characters of pieces that stand at a place, or the first ill-formed one among them. -/
def assemble (chars : List Char) (place : Nat) : List Piece → Except DecodeFault (List Char)
  | [] => .ok chars.reverse
  | .char c :: rest => assemble (c :: chars) (place + c.utf8Size) rest
  | .broken octets reason :: _ =>
      .error ⟨"utf-8", octets.headD 0, place, octets.length, reason⟩

/-- The text that octets encode. -/
def decode (octets : List UInt8) : Except DecodeFault (List Char) :=
  assemble [] 0 (pieces octets)

/-- The character that a piece is shown as when nothing is refused. -/
def Piece.lossy : Piece → Char
  | .char c => c
  | .broken _ _ => '\uFFFD'

/-- The text that octets encode, with one U+FFFD for each maximal ill-formed subpart. -/
def decodeLossy (octets : List UInt8) : List Char :=
  (pieces octets).map Piece.lossy

/-- The octets of a text. -/
def encode (text : List Char) : List UInt8 :=
  text.flatMap String.utf8EncodeChar

/-- The octets of a string. -/
def ofString (text : String) : List UInt8 :=
  encode text.toList

/-- The number of octets that are read from a stream at a time. -/
def blockSize : Nat := 8192

/-- The text of a stream that is decoded block by block: all that was decoded before the first
fault, and the fault.  A fault's place is counted from the start of its block, or from the first of
the octets that the block before has left over. -/
def decodeBlocks (octets : List UInt8) : List Char × Option DecodeFault :=
  go (octets.length / blockSize + 2) [] none octets
where
  /-- Decodes the next block, with the blocks that are left as fuel. -/
  go : Nat → List Char → Option Open → List UInt8 → List Char × Option DecodeFault
    | 0, done, _, _ => (done, none)
    | fuel + 1, done, state, octets =>
        let held := match state with
          | none => []
          | some s => s.seen.reverse
        match octets with
        | [] =>
            match assemble [] 0 (pieces held) with
            | .ok chars => (done ++ chars, none)
            | .error fault => (done, some fault)
        | _ :: _ =>
            let (found, state) := cut [] none (held ++ octets.take blockSize)
            match assemble [] 0 found with
            | .ok chars => go fuel (done ++ chars) state (octets.drop blockSize)
            | .error fault => (done, some fault)

end CaptureDesk.Text.Utf8
