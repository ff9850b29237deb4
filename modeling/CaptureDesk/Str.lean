import CaptureDesk.Text.Blank
import CaptureDesk.Text.Utf8

/-!
# Strings

A string is a sequence of code points, and a code point is a character or a surrogate.  A surrogate
has no UTF-8 form.  Escapes in a JSON text bring surrogates in, and so do octets that are no text in
the words of a command line.  A string with a surrogate in it can be held, compared and joined to
others, but not encoded.

A string without surrogates is *plain*.  In any other one, a *rough* string, the first surrogate is
kept apart, because that is the one that an encoder refuses.
-/

namespace CaptureDesk

/-- One of the code points U+D800 to U+DFFF, by its distance from the first. -/
abbrev Surrogate := Fin 0x800

/-- A code point. -/
inductive CodePoint where
  | char (c : Char)
  | surrogate (n : Surrogate)
  deriving DecidableEq, Repr, Inhabited

instance : Coe Char CodePoint := ⟨.char⟩

namespace CodePoint

/-- The number of a code point. -/
def toNat : CodePoint → Nat
  | .char c => c.toNat
  | .surrogate n => 0xD800 + n

/-- The code point with a number. -/
def ofNat (n : Nat) : CodePoint :=
  if h : 0xD800 ≤ n ∧ n < 0xE000 then .surrogate ⟨n - 0xD800, by omega⟩ else .char (Char.ofNat n)

/-- Whether a code point is a surrogate. -/
def isSurrogate : CodePoint → Bool
  | .char _ => false
  | .surrogate _ => true

/-- Whether a code point is white space. -/
def isBlank : CodePoint → Bool
  | .char c => Text.isBlank c
  | .surrogate _ => false

end CodePoint

/-- The octet that a surrogate stands for in the name of a file.  U+DC80 to U+DCFF stand for the
octets that are no text. -/
def Surrogate.octet? (n : Surrogate) : Option UInt8 :=
  if 0x480 ≤ n.val ∧ n.val < 0x500 then some (UInt8.ofNat (n.val - 0x400)) else none

/-- A string. -/
inductive Str where
  | plain (s : String)
  /-- The characters before the first surrogate, that surrogate, and what follows it. -/
  | rough (before : String) (first : Surrogate) (after : List CodePoint)
  deriving DecidableEq, Repr

instance : Coe String Str := ⟨.plain⟩

instance : Inhabited Str := ⟨.plain ""⟩

namespace Str

/-- The code points of a string. -/
def points : Str → List CodePoint
  | .plain s => s.toList.map .char
  | .rough before first after => before.toList.map .char ++ .surrogate first :: after

/-- The string of code points. -/
def ofPoints (points : List CodePoint) : Str :=
  go [] points
where
  /-- Goes on after some characters, which are given last first. -/
  go (before : List Char) : List CodePoint → Str
    | [] => .plain (String.ofList before.reverse)
    | .char c :: rest => go (c :: before) rest
    | .surrogate n :: rest => .rough (String.ofList before.reverse) n rest

/-- Two strings, one after the other. -/
def append : Str → Str → Str
  | .plain a, .plain b => .plain (a ++ b)
  | .plain a, .rough before first after => .rough (a ++ before) first after
  | .rough before first after, s => .rough before first (after ++ s.points)

instance : Append Str := ⟨append⟩

/-- Strings one after another, with a separator between them. -/
def intercalate (separator : Str) : List Str → Str
  | [] => ""
  | [s] => s
  | s :: rest => s ++ separator ++ intercalate separator rest

/-- The pieces of a string between the places where a character stands. -/
def split (mark : Char) (s : Str) : List Str :=
  go [] s.points
where
  /-- Goes on inside a piece, of which some code points have been read, last first. -/
  go (read : List CodePoint) : List CodePoint → List Str
    | [] => [ofPoints read.reverse]
    | c :: rest => if c = mark then ofPoints read.reverse :: go [] rest else go (c :: read) rest

/-- A string without the white space at its ends. -/
def strip (s : Str) : Str :=
  ofPoints (Text.stripBy CodePoint.isBlank s.points)

/-- Whether a string holds nothing but white space. -/
def isBlank (s : Str) : Bool :=
  s.points.all CodePoint.isBlank

theorem isBlank_eq_true_iff {s : Str} :
    s.isBlank = true ↔ Text.stripBy CodePoint.isBlank s.points = [] := by
  rw [isBlank, List.all_eq_true, Text.stripBy_eq_nil_iff]

@[simp] theorem points_plain (s : String) : (plain s).points = s.toList.map .char := rfl

@[simp] theorem plain_append (a b : String) : plain a ++ plain b = plain (a ++ b) := rfl

theorem ofPoints_go (before chars : List Char) (rest : List CodePoint) :
    ofPoints.go before (chars.map .char ++ rest) = ofPoints.go (chars.reverse ++ before) rest := by
  induction chars generalizing before with
  | nil => rfl
  | cons c chars ih =>
      rw [List.map_cons, List.cons_append, ofPoints.go, ih, List.reverse_cons, List.append_assoc,
        List.singleton_append]

/-- Characters alone are a plain string. -/
@[simp] theorem ofPoints_map_char (chars : List Char) :
    ofPoints (chars.map .char) = .plain (String.ofList chars) := by
  have run := ofPoints_go [] chars []
  rw [List.append_nil, List.append_nil] at run
  rw [ofPoints, run, ofPoints.go, List.reverse_reverse]

/-- A string is made up of its code points. -/
@[simp] theorem ofPoints_points (s : Str) : ofPoints s.points = s := by
  cases s with
  | plain s => rw [points, ofPoints_map_char, String.ofList_toList]
  | rough before first after =>
      rw [points, ofPoints, ofPoints_go, ofPoints.go, List.append_nil, List.reverse_reverse,
        String.ofList_toList]

theorem points_ofPoints_go (before : List Char) (points : List CodePoint) :
    (ofPoints.go before points).points = before.reverse.map .char ++ points := by
  induction points generalizing before with
  | nil => rw [ofPoints.go, points_plain, String.toList_ofList, List.append_nil]
  | cons p points ih =>
      cases p with
      | char c => rw [ofPoints.go, ih, List.reverse_cons, List.map_append, List.append_assoc]; rfl
      | surrogate n => rw [ofPoints.go, Str.points, String.toList_ofList]

@[simp] theorem points_ofPoints (points : List CodePoint) : (ofPoints points).points = points :=
  points_ofPoints_go [] points

@[simp] theorem points_append (a b : Str) : (a ++ b).points = a.points ++ b.points := by
  show (append a b).points = _
  cases a with
  | plain a => cases b <;> simp only [append, points, String.toList_append, List.map_append,
      List.append_assoc]
  | rough before first after => simp only [append, points, List.append_assoc, List.cons_append]

end Str

/-! ## Encoding -/

/-- What an encoder refuses: a run of surrogates, `size` of them from `start` on and led by
`first`. -/
structure EncodeFault where
  first : Surrogate
  start : Nat
  size : Nat
  deriving DecidableEq, Repr

/-- A single surrogate is named by its number, a longer run by its first and last place. -/
def EncodeFault.message (f : EncodeFault) : String :=
  let place :=
    if f.size ≤ 1 then
      "character '\\u" ++ String.ofList (Text.hexDigits 4 (0xD800 + f.first)) ++
        "' in position " ++ toString f.start
    else
      "characters in position " ++ toString f.start ++ "-" ++ toString (f.start + f.size - 1)
  "'utf-8' codec can't encode " ++ place ++ ": surrogates not allowed"

namespace Str

/-- The fault of an encoder that meets a surrogate at a place. -/
def refused (place : Nat) (first : Surrogate) (after : List CodePoint) : EncodeFault :=
  { first, start := place, size := 1 + (after.takeWhile CodePoint.isSurrogate).length }

/-- The octets of a string in UTF-8. -/
def encode : Str → Except EncodeFault (List UInt8)
  | .plain s => .ok (Text.Utf8.ofString s)
  | .rough before first after => .error (refused before.length first after)

/-- Why a string names no file, if a surrogate in it stands for no octet. -/
def unnameable? : Str → Option EncodeFault
  | .plain _ => none
  | .rough before first after => go before.length (.surrogate first :: after)
where
  /-- Goes on from a place. -/
  go (place : Nat) : List CodePoint → Option EncodeFault
    | [] => none
    | .char _ :: rest => go (place + 1) rest
    | .surrogate n :: rest =>
        if n.octet?.isSome then go (place + 1) rest else some (refused place n rest)

/-- The number of octets of a string as the name of a file. -/
def nameSize : Str → Nat
  | .plain s => s.utf8ByteSize
  | .rough before _ after =>
      after.foldl (fun size p => size + match p with
        | .char c => c.utf8Size
        | .surrogate _ => 1) (before.utf8ByteSize + 1)

/-- A string in which every surrogate is shown by its number. -/
def shown : Str → String
  | .plain s => s
  | .rough before first after =>
      before ++ String.ofList ((.surrogate first :: after : List CodePoint).flatMap fun
        | .char c => [c]
        | .surrogate n => '\\' :: 'u' :: Text.hexDigits 4 (0xD800 + n))

end Str

end CaptureDesk
