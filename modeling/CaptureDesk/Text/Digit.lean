/-!
# Digits

Hexadecimal digits in both directions, and the decimal digits of every script.  The decimal digits
of one script are ten consecutive code points, so a script is listed by its zero.
-/

namespace CaptureDesk.Text

/-- The digit for a number below sixteen, in lower case. -/
def hexDigit (n : Nat) : Char :=
  if n < 10 then Char.ofNat (0x30 + n) else Char.ofNat (0x57 + n)

/-- The number that a hexadecimal digit of either case stands for. -/
def hexValue? (c : Char) : Option Nat :=
  if '0' ≤ c ∧ c ≤ '9' then some (c.toNat - 0x30)
  else if 'a' ≤ c ∧ c ≤ 'f' then some (c.toNat - 0x57)
  else if 'A' ≤ c ∧ c ≤ 'F' then some (c.toNat - 0x37)
  else none

theorem hexValue?_hexDigit : ∀ n < 16, hexValue? (hexDigit n) = some n := by decide

/-- A number in `width` hexadecimal digits, the most significant first. -/
def hexDigits : Nat → Nat → List Char
  | 0, _ => []
  | width + 1, n => hexDigits width (n / 16) ++ [hexDigit (n % 16)]

/-- The number that a run of hexadecimal digits stands for. -/
def hexNumber? (digits : List Char) : Option Nat :=
  digits.foldlM (fun n c => (hexValue? c).map (16 * n + ·)) 0

/-- The octets that a text of hexadecimal digit pairs stands for. -/
def octets? : List Char → Option (List UInt8)
  | [] => some []
  | high :: low :: rest => do
      let h ← hexValue? high
      let l ← hexValue? low
      let more ← octets? rest
      pure (UInt8.ofNat (16 * h + l) :: more)
  | [_] => none

/-- The octets of a text of hexadecimal digit pairs, written back. -/
def octetDigits (octets : List UInt8) : List Char :=
  octets.flatMap fun b => hexDigits 2 b.toNat

/-- The zeros of the scripts that have decimal digits. -/
def decimalZeros : List Nat :=
  [0x30, 0x660, 0x6F0, 0x7C0, 0x966, 0x9E6, 0xA66, 0xAE6, 0xB66, 0xBE6, 0xC66, 0xCE6, 0xD66,
    0xDE6, 0xE50, 0xED0, 0xF20, 0x1040, 0x1090, 0x17E0, 0x1810, 0x1946, 0x19D0, 0x1A80, 0x1A90,
    0x1B50, 0x1BB0, 0x1C40, 0x1C50, 0xA620, 0xA8D0, 0xA900, 0xA9D0, 0xA9F0, 0xAA50, 0xABF0,
    0xFF10, 0x104A0, 0x10D30, 0x11066, 0x110F0, 0x11136, 0x111D0, 0x112F0, 0x11450, 0x114D0,
    0x11650, 0x116C0, 0x11730, 0x118E0, 0x11950, 0x11C50, 0x11D50, 0x11DA0, 0x16A60, 0x16AC0,
    0x16B50, 0x1D7CE, 0x1D7D8, 0x1D7E2, 0x1D7EC, 0x1D7F6, 0x1E140, 0x1E2F0, 0x1E950, 0x1FBF0]

/-- The number that a decimal digit of any script stands for. -/
def decimalValue? (c : Char) : Option Nat :=
  if c.toNat < 0x80 then
    if '0' ≤ c ∧ c ≤ '9' then some (c.toNat - 0x30) else none
  else
    (decimalZeros.find? fun first => first ≤ c.toNat && c.toNat < first + 10).map (c.toNat - ·)

end CaptureDesk.Text
