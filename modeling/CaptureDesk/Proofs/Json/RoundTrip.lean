import CaptureDesk.Proofs.Text.Numerals
import CaptureDesk.Proofs.Text.Surrogates

/-!
# Reading what was written

A value that is written as JSON on one line is read back as it was (`value_dump`, `read_dump`).
Floating-point numbers and moments are left out: the first are not followed here, and the others are
not written at all.  Strings with surrogates are left out as well: two of them that are written one
after the other may be read as one character.

There is more than one way to write a string.  The writer is therefore taken apart from the way in
which it writes the characters of strings (`dump`), and of that only this much is used: each
character is read back by itself, whatever follows it (`Legible`).  Two such ways are those of
`compact`, which leaves most characters as they are, and of a writer that keeps to ASCII
(`asciiEscaped`).
-/

namespace CaptureDesk.Json

open CodePoint (char chars)
open Text (hexDigits hexDigit hexValue?_hexDigit)

/-! ## Characters of strings -/

/-- A way to write the characters of strings from which the reader takes each of them back. -/
def Legible (escape : Char → List Char) : Prop :=
  ∀ (opening read : List CodePoint) (c : Char) (next : CodePoint) (rest : List CodePoint),
    stringRest opening read ((escape c).map char ++ next :: rest) =
      stringRest opening (c :: read) (next :: rest)

/-- A character of a JSON string, escaped only if it must be. -/
def escapedChar (c : Char) : List Char :=
  chars (escaped c)

/-- The letters that stand for characters after a backslash. -/
def letterEscapes : List (Char × Char) :=
  [('"', '"'), ('\\', '\\'), ('n', '\n'), ('r', '\r'), ('t', '\t'), ('b', '\x08'), ('f', '\x0c')]

/-- How a character is written that is escaped only if it must be. -/
inductive Written (c : Char) : List Char → Prop
  | letter {letter : Char} (escape : (letter, c) ∈ letterEscapes) : Written c ['\\', letter]
  | number (control : c.toNat < 0x20) : Written c ('\\' :: 'u' :: hexDigits 4 c.toNat)
  | itself (quote : c ≠ '"') (backslash : c ≠ '\\') (printable : 0x20 ≤ c.toNat) : Written c [c]

theorem written_escapedChar (c : Char) : Written c (escapedChar c) := by
  unfold escapedChar escaped
  split
  · rename_i special
    rcases special with same | same <;>
    · cases same
      exact .letter (by decide)
  iterate 5
    split
    · rename_i same
      cases same
      exact .letter (by decide)
  split
  · rename_i control
    rw [CodePoint.chars_cons_char, CodePoint.chars_cons_char, CodePoint.chars_map_char]
    exact .number control
  · rename_i special _ _ _ _ _ printable
    rw [not_or, CodePoint.char.injEq, CodePoint.char.injEq] at special
    exact .itself special.1 special.2 (Nat.le_of_not_lt printable)

/-- A character of a JSON string that keeps to ASCII.  A character beyond U+FFFF is written as a
pair of surrogates. -/
def asciiEscaped (c : Char) : List Char :=
  if c.toNat < 0x7F then escapedChar c
  else if c.toNat < 0x10000 then '\\' :: 'u' :: hexDigits 4 c.toNat
  else
    '\\' :: 'u' :: (hexDigits 4 (0xD800 + (c.toNat - 0x10000) / 0x400) ++
      '\\' :: 'u' :: hexDigits 4 (0xDC00 + (c.toNat - 0x10000) % 0x400))

/-- Four hexadecimal digits stand for the number that they were made of. -/
theorem hex4?_hexDigits {n : Nat} (small : n < 0x10000) :
    ∃ a b c d : Char, hexDigits 4 n = [a, b, c, d] ∧ hex4? a b c d = some n := by
  refine ⟨_, _, _, _, rfl, ?_⟩
  have digit : ∀ m, Text.hexValue? (hexDigit (m % 16)) = some (m % 16) := fun m =>
    hexValue?_hexDigit _ (Nat.mod_lt m (by decide))
  simp only [hex4?, digit, Option.bind_eq_bind, Option.bind_some, Option.pure_def,
    Option.some.injEq]
  omega

theorem ofNat_toNat (c : Char) : CodePoint.ofNat c.toNat = c := by
  have scalar : c.toNat < 0xD800 ∨ 0xDFFF < c.toNat ∧ c.toNat < 0x110000 := c.valid
  rw [CodePoint.ofNat, dif_neg (by omega), Char.ofNat_toNat]

section StringRest

variable (opening read rest : List CodePoint)

theorem stringRest_plain {c : Char} (quote : c ≠ '"') (backslash : c ≠ '\\')
    (printable : 0x20 ≤ c.toNat) :
    stringRest opening read (.char c :: rest) = stringRest opening (.char c :: read) rest := by
  have above : ¬ (char c).toNat < 0x20 := Nat.not_lt.mpr printable
  rw [stringRest, if_neg above]
  all_goals simp [quote, backslash]

theorem stringRest_letter {letter c : CodePoint} (stands : unescaped? letter = some c) :
    stringRest opening read ('\\' :: letter :: rest) = stringRest opening (c :: read) rest := by
  have other : letter ≠ 'u' := by
    rintro rfl
    cases stands
  rw [stringRest, stands]
  all_goals simp [other]

/-- An escape of four digits is read by itself when it is not the first half of a pair. -/
theorem stringRest_unicode {n : Nat} (small : n < 0x10000) (single : isHigh n = false)
    (next : CodePoint) :
    stringRest opening read ('\\' :: 'u' :: ((hexDigits 4 n).map char ++ next :: rest)) =
      stringRest opening (.ofNat n :: read) (next :: rest) := by
  obtain ⟨a, b, c, d, digits, number⟩ := hex4?_hexDigits small
  rw [digits]
  show stringRest opening read ('\\' :: 'u' :: a :: b :: c :: d :: next :: rest) = _
  by_cases another : ∃ (e f g h after : CodePoint) (more : List CodePoint),
      next = '\\' ∧ rest = .char 'u' :: e :: f :: g :: h :: after :: more
  · obtain ⟨e, f, g, h, after, more, rfl, rfl⟩ := another
    rw [stringRest, number]
    simp only [single, Bool.false_eq_true, if_false]
  · rw [stringRest, number]
    intro e f g h after more isNext isRest
    exact another ⟨e, f, g, h, after, more, isNext, isRest⟩

/-- Two escapes that are the halves of a pair are read as one character. -/
theorem stringRest_pair {high low : Nat} (first : isHigh high = true) (second : isLow low = true)
    (next : CodePoint) :
    stringRest opening read
        ('\\' :: 'u' :: ((hexDigits 4 high).map char ++ char '\\' :: 'u' ::
          ((hexDigits 4 low).map char ++ next :: rest))) =
      stringRest opening (pairChar high low :: read) (next :: rest) := by
  have bounds : high < 0x10000 ∧ low < 0x10000 := by
    simp only [isHigh, isLow, Bool.and_eq_true, decide_eq_true_eq] at first second
    omega
  obtain ⟨a, b, c, d, digits, number⟩ := hex4?_hexDigits bounds.1
  obtain ⟨e, f, g, h, digits', number'⟩ := hex4?_hexDigits bounds.2
  rw [digits, digits']
  show stringRest opening read ('\\' :: 'u' :: a :: b :: c :: d ::
    '\\' :: 'u' :: e :: f :: g :: h :: next :: rest) = _
  rw [stringRest, number, number']
  simp only [first, second, if_true]

end StringRest

theorem legible_escaped : Legible escapedChar := by
  intro opening read c next rest
  have written := written_escapedChar c
  generalize escapedChar c = text at written
  cases written with
  | letter escape =>
      have stands : ∀ e ∈ letterEscapes, unescaped? (char e.1) = some (char e.2) := by decide
      exact stringRest_letter _ _ _ (stands _ escape)
  | itself quote backslash printable => exact stringRest_plain _ _ _ quote backslash printable
  | number control =>
      refine (stringRest_unicode _ _ _ (by omega) ?_ _).trans ?_
      · simp only [isHigh, Bool.and_eq_false_iff, decide_eq_false_iff_not]
        omega
      · rw [ofNat_toNat]

/-- The halves of a character beyond U+FFFF make it up again. -/
theorem pairChar_halves {c : Char} (wide : 0x10000 ≤ c.toNat) :
    pairChar (0xD800 + (c.toNat - 0x10000) / 0x400) (0xDC00 + (c.toNat - 0x10000) % 0x400) = c := by
  have whole : 0x10000 + (0xD800 + (c.toNat - 0x10000) / 0x400 - 0xD800) * 0x400 +
      (0xDC00 + (c.toNat - 0x10000) % 0x400 - 0xDC00) = c.toNat := by omega
  rw [pairChar, whole, Char.ofNat_toNat]

theorem legible_asciiEscaped : Legible asciiEscaped := by
  intro opening read c next rest
  have scalar : c.toNat < 0xD800 ∨ 0xDFFF < c.toNat ∧ c.toNat < 0x110000 := c.valid
  unfold asciiEscaped
  split
  · exact legible_escaped opening read c next rest
  split
  · rename_i small
    refine (stringRest_unicode _ _ _ small ?_ _).trans ?_
    · simp only [isHigh, Bool.and_eq_false_iff, decide_eq_false_iff_not]
      omega
    · rw [ofNat_toNat]
  · rename_i wide
    simp only [List.map_cons, List.map_append, List.cons_append, List.append_assoc]
    refine (stringRest_pair _ _ _ ?_ ?_ _).trans ?_
    · simp only [isHigh, Bool.and_eq_true, decide_eq_true_eq]
      omega
    · simp only [isLow, Bool.and_eq_true, decide_eq_true_eq]
      omega
    · rw [pairChar_halves (Nat.le_of_not_lt wide)]

section Dump

variable {escape : Char → List Char}

/-- The characters of a string are read back one after another. -/
theorem stringRest_flatMap (legible : Legible escape) (opening read : List CodePoint)
    (text : List Char) (rest : List CodePoint) :
    stringRest opening read ((text.flatMap escape).map char ++ char '"' :: rest) =
      .ok (.ofPoints (read.reverse ++ text.map char), rest) := by
  induction text generalizing read with
  | nil => simp [stringRest]
  | cons c text ih =>
      obtain ⟨next, more, others⟩ : ∃ next more,
          (text.flatMap escape).map char ++ char '"' :: rest = next :: more :=
        List.exists_cons_of_ne_nil (by simp)
      rw [List.flatMap_cons, List.map_append, List.append_assoc, others, legible, ← others, ih,
        List.reverse_cons, List.append_assoc, List.singleton_append, List.map_cons]

end Dump

/-! ## Numbers -/

/-- A text does not go on with a number that stands before it. -/
def Ends : List CodePoint → Prop
  | .char c :: _ => c.isDigit = false ∧ c ≠ '.' ∧ c ≠ 'e' ∧ c ≠ 'E'
  | _ => True

section Number

variable {rest : List CodePoint}

theorem digitRun_append {digits : List Char} (areDigits : ∀ c ∈ digits, c.isDigit = true)
    (ends : Ends rest) : digitRun (digits.map char ++ rest) = (digits, rest) := by
  induction digits with
  | nil =>
      match rest, ends with
      | [], _ | .surrogate _ :: _, _ => rfl
      | .char c :: rest, ends => simp [digitRun, ends.1]
  | cons d digits ih =>
      have more := ih fun c member => areDigits c (List.mem_cons_of_mem d member)
      rw [List.map_cons, List.cons_append, digitRun, more]
      simp [areDigits d List.mem_cons_self]

theorem fraction_of_ends (ends : Ends rest) : fraction rest = ([], rest) := by
  match rest, ends with
  | [], _ | .surrogate _ :: _, _ => rfl
  | .char c :: rest, ends =>
      rw [fraction]
      intro _ _ point
      cases point
      exact ends.2.1 rfl

theorem exponent?_of_ends (ends : Ends rest) : exponent? rest = none := by
  match rest, ends with
  | [], _ => rfl
  | .surrogate _ :: _, _ => simp [exponent?]
  | .char c :: rest, ends => simp [exponent?, ends.2.2]

/-- Digits that are not too many are a whole number. -/
theorem numberRest_of_ends (negative : Bool) {digits : List Char}
    (short : digits.length ≤ digitLimit) (ends : Ends rest) :
    numberRest negative digits rest =
      .ok (.int (if negative then -(decimalNumber digits : Int) else decimalNumber digits),
        rest) := by
  simp only [numberRest, fraction_of_ends ends, exponent?_of_ends ends, List.isEmpty_nil, if_true]
  rw [if_neg (Nat.not_lt.mpr short)]

/-- Digits that do not begin with a zero are taken together, with a minus if there is one. -/
theorem number_of_digits {d : Char} {digits : List Char} (notZero : d ≠ '0')
    (areDigits : ∀ c ∈ d :: digits, c.isDigit = true)
    (short : (d :: digits).length ≤ digitLimit) (ends : Ends rest) :
    number ((d :: digits).map char ++ rest) =
        .ok (.int (decimalNumber (d :: digits)), rest) ∧
      number ('-' :: ((d :: digits).map char ++ rest)) =
        .ok (.int (-decimalNumber (d :: digits)), rest) := by
  have notMinus : d ≠ '-' := by
    rintro rfl
    cases areDigits '-' List.mem_cons_self
  have run := digitRun_append areDigits ends
  rw [List.map_cons, List.cons_append] at run ⊢
  constructor
  · simp [number, notMinus, notZero, run, numberRest_of_ends false short ends]
  · simp [number, notZero, run, numberRest_of_ends true short ends]

/-- A whole number is read back. -/
theorem number_toString {n : Int} (short : isOverlong n = false) (ends : Ends rest) :
    number ((toString n).toList.map char ++ rest) = .ok (.int n, rest) := by
  have numeral := numeral_toString short
  generalize (toString n).toList = text at numeral ⊢
  cases numeral with
  | zero => exact numberRest_of_ends false (by decide) ends
  | positive notZero areDigits few => exact (number_of_digits notZero areDigits few ends).1
  | negative notZero areDigits few => exact (number_of_digits notZero areDigits few ends).2

end Number

/-! ## Values -/

mutual

/-- A value that JSON holds without loss: no floating-point number, no moment, no overlong number,
no surrogate, and no key twice in an object. -/
def Plain : Value → Prop
  | .float _ | .moment _ => False
  | .int n => isOverlong n = false
  | .str s => s.isRough = false
  | .array items => PlainItems items
  | .object fields => (fields.map (·.1)).Nodup ∧ PlainFields fields
  | _ => True

/-- All items are plain. -/
def PlainItems : List Value → Prop
  | [] => True
  | v :: rest => Plain v ∧ PlainItems rest

/-- The keys and the values of all fields are plain. -/
def PlainFields : List (Str × Value) → Prop
  | [] => True
  | (key, v) :: rest => key.isRough = false ∧ Plain v ∧ PlainFields rest

end

mutual

/-- No surrogate stands in a plain value. -/
theorem holdsSurrogate_of_plain : ∀ v, Plain v → v.holdsSurrogate = false
  | .null, _ | .bool _, _ | .int _, _ => rfl
  | .str _, smooth => smooth
  | .array items, plain => itemsHoldSurrogate_of_plain items plain
  | .object fields, plain => fieldsHoldSurrogate_of_plain fields plain.2

theorem itemsHoldSurrogate_of_plain :
    ∀ items, PlainItems items → Value.itemsHoldSurrogate items = false
  | [], _ => rfl
  | v :: rest, plain => by
      rw [Value.itemsHoldSurrogate, holdsSurrogate_of_plain v plain.1,
        itemsHoldSurrogate_of_plain rest plain.2]
      rfl

theorem fieldsHoldSurrogate_of_plain :
    ∀ fields, PlainFields fields → Value.fieldsHoldSurrogate fields = false
  | [], _ => rfl
  | (key, v) :: rest, plain => by
      rw [Value.fieldsHoldSurrogate, plain.1, holdsSurrogate_of_plain v plain.2.1,
        fieldsHoldSurrogate_of_plain rest plain.2.2]
      rfl

end

/-- A string as JSON, its characters written in a given way.  Surrogates are left out. -/
def dumpString (escape : Char → List Char) (s : Str) : List Char :=
  '"' :: ((chars s.points).flatMap escape ++ ['"'])

mutual

/-- A value on one line, the characters of strings written in a given way. -/
def dump (escape : Char → List Char) : Value → List Char
  | .str s => dumpString escape s
  | .array [] => ['[', ']']
  | .array (v :: rest) => '[' :: (dump escape v ++ dumpItems escape rest)
  | .object [] => ['\x7b', '\x7d']
  | .object ((key, v) :: rest) =>
      '\x7b' :: (dumpString escape key ++ ':' :: ' ' :: (dump escape v ++ dumpFields escape rest))
  | v => chars (scalar v)

/-- What follows the first item of an array. -/
def dumpItems (escape : Char → List Char) : List Value → List Char
  | [] => [']']
  | v :: rest => ',' :: ' ' :: (dump escape v ++ dumpItems escape rest)

/-- What follows the first field of an object. -/
def dumpFields (escape : Char → List Char) : List (Str × Value) → List Char
  | [] => ['\x7d']
  | (key, v) :: rest =>
      ',' :: ' ' ::
        (dumpString escape key ++ ':' :: ' ' :: (dump escape v ++ dumpFields escape rest))

end

theorem dumpString_plain (escape : Char → List Char) (s : String) :
    dumpString escape (.plain s) = '"' :: (s.toList.flatMap escape ++ ['"']) := by
  rw [dumpString, Str.points_plain, CodePoint.chars_map_char]

theorem dumpString_escaped (s : Str) : dumpString escapedChar s = chars (string s) := by
  have content (points : List CodePoint) :
      (chars points).flatMap escapedChar = chars (points.flatMap escaped) := by
    induction points with
    | nil => rfl
    | cons p points ih =>
        rw [List.flatMap_cons, CodePoint.chars_append, ← ih]
        cases p with
        | char c => rfl
        | surrogate n => rw [escaped_surrogate]; rfl
  simp [dumpString, string, content]

mutual

/-- The compact form is the one that escapes no more than it must. -/
theorem dump_escaped : ∀ v, dump escapedChar v = chars (compact v)
  | .null | .bool _ | .int _ | .float _ | .moment _ => rfl
  | .str s => dumpString_escaped s
  | .array [] => rfl
  | .array (v :: rest) => by
      simp [dump, compact, dump_escaped v, dumpItems_escaped rest]
  | .object [] => rfl
  | .object ((key, v) :: rest) => by
      simp [dump, compact, dump_escaped v, dumpFields_escaped rest, dumpString_escaped]

theorem dumpItems_escaped : ∀ items, dumpItems escapedChar items = chars (compactItems items)
  | [] => rfl
  | v :: rest => by simp [dumpItems, compactItems, dump_escaped v, dumpItems_escaped rest]

theorem dumpFields_escaped : ∀ fields, dumpFields escapedChar fields = chars (compactFields fields)
  | [] => rfl
  | (key, v) :: rest => by
      simp [dumpFields, compactFields, dump_escaped v, dumpFields_escaped rest, dumpString_escaped]

end

/-- The text of a plain value holds characters only. -/
theorem compact_of_plain {v : Value} (plain : Plain v) :
    compact v = (dump escapedChar v).map char := by
  rw [dump_escaped, CodePoint.map_char_chars]
  rw [any_isSurrogate_compact, holdsSurrogate_of_plain v plain]

@[simp] theorem dump_int (escape : Char → List Char) (n : Int) :
    dump escape (.int n) = (toString n).toList :=
  CodePoint.chars_map_char _

/-- The first character of a value is a visible one of ASCII, and closes nothing. -/
def Opens : List Char → Prop
  | [] => False
  | c :: _ => (0x20 < c.toNat ∧ c.toNat < 0x7F) ∧ c ≠ ']' ∧ c ≠ '\x7d'

theorem Opens.append {text : List Char} (opens : Opens text) (rest : List Char) :
    Opens (text ++ rest) := by
  cases text with
  | nil => cases opens
  | cons c text => exact opens

/-- A text that opens a value calls for fuel. -/
theorem Opens.fuel {text : List Char} {fuel : Nat} (opens : Opens text)
    (enough : 2 * text.length ≤ fuel) : ∃ n, fuel = n + 1 := by
  cases text with
  | nil => cases opens
  | cons c text => exact ⟨fuel - 1, by simp only [List.length_cons] at enough; omega⟩

theorem opens_of_isDigit {c : Char} {rest : List Char} (isDigit : c.isDigit = true) :
    Opens (c :: rest) := by
  have bounds := toNat_of_isDigit isDigit
  refine ⟨by omega, ?_, ?_⟩
  · rintro rfl
    cases isDigit
  · rintro rfl
    cases isDigit

/-- What opens a value is no white space. -/
theorem Opens.skip {text : List Char} (opens : Opens text) (rest : List CodePoint) :
    skip (text.map char ++ rest) = text.map char ++ rest := by
  cases text with
  | nil => cases opens
  | cons c text =>
      have visible : isSpace c = false := by
        have above := opens.1.1
        simp only [isSpace, Bool.or_eq_false_iff, decide_eq_false_iff_not, CodePoint.char.injEq]
        refine ⟨⟨⟨?_, ?_⟩, ?_⟩, ?_⟩ <;> rintro rfl <;> exact absurd above (by decide)
      simp [Json.skip, visible]

section Values

variable {escape : Char → List Char} {v : Value} {rest : List CodePoint}

theorem opens_dump (plain : Plain v) : Opens (dump escape v) := by
  cases v with
  | float | moment => cases plain
  | null | str => exact ⟨by decide, by decide, by decide⟩
  | bool b => cases b <;> exact ⟨by decide, by decide, by decide⟩
  | array items => cases items <;> exact ⟨by decide, by decide, by decide⟩
  | object fields => cases fields <;> exact ⟨by decide, by decide, by decide⟩
  | int n =>
      obtain ⟨d, more, isDigit, text | text⟩ := toString_opens n
      · rw [dump_int, text]
        exact opens_of_isDigit isDigit
      · rw [dump_int, text]
        exact ⟨by decide, by decide, by decide⟩

/-- What follows a value in an array or an object does not go on with a number. -/
theorem ends_dumpItems (items : List Value) : Ends ((dumpItems escape items).map char ++ rest) := by
  cases items <;> exact ⟨by decide, by decide, by decide, by decide⟩

theorem ends_dumpFields (fields : List (Str × Value)) :
    Ends ((dumpFields escape fields).map char ++ rest) := by
  cases fields <;> exact ⟨by decide, by decide, by decide, by decide⟩

/-- A value is read back with enough fuel, whatever ends it. -/
def ReadsBack (escape : Char → List Char) (v : Value) : Prop :=
  ∀ fuel rest, Ends rest → 2 * (dump escape v).length ≤ fuel →
    value fuel ((dump escape v).map char ++ rest) = .ok (v, rest)

/-- A digit, or a minus before one, begins a number. -/
theorem value_eq_number {fuel : Nat} {d : Char} (isDigit : d.isDigit = true) :
    value (fuel + 1) (.char d :: rest) = number (.char d :: rest) ∧
      value (fuel + 1) ('-' :: .char d :: rest) = number ('-' :: .char d :: rest) := by
  have other : ∀ c, c.isDigit = false → d ≠ c := by
    rintro c notDigit rfl
    rw [isDigit] at notDigit
    cases notDigit
  constructor
  · rw [value]
    all_goals simp [other]
  · rw [value]
    all_goals simp [other]

theorem readsBack_int {n : Int} (short : isOverlong n = false) : ReadsBack escape (.int n) := by
  intro fuel rest ends enough
  obtain ⟨fuel, rfl⟩ := (opens_dump (v := .int n) short).fuel enough
  have number := number_toString short ends
  rw [dump_int]
  obtain ⟨d, more, isDigit, text | text⟩ := toString_opens n
  · rw [text] at number ⊢
    exact (value_eq_number isDigit).1.trans number
  · rw [text] at number ⊢
    exact (value_eq_number isDigit).2.trans number

/-- A string as JSON: its quotes, and what is between them. -/
theorem dumpString_append (escape : Char → List Char) (s : Str) (rest : List CodePoint) :
    (dumpString escape s).map char ++ rest =
      char '"' :: (((chars s.points).flatMap escape).map char ++ char '"' :: rest) := by
  simp [dumpString]

theorem stringRest_dumpString (legible : Legible escape) (opening : List CodePoint) {s : Str}
    (smooth : s.isRough = false) :
    stringRest opening [] (((chars s.points).flatMap escape).map char ++ char '"' :: rest) =
      .ok (s, rest) := by
  rw [stringRest_flatMap legible, List.reverse_nil, List.nil_append,
    CodePoint.map_char_chars (s.isRough_eq_any ▸ smooth), Str.ofPoints_points]

theorem readsBack_str (legible : Legible escape) {s : Str} (smooth : s.isRough = false) :
    ReadsBack escape (.str s) := by
  intro fuel rest ends enough
  obtain ⟨fuel, rfl⟩ := (opens_dump (v := .str s) smooth).fuel enough
  rw [dump, dumpString_append, value, stringRest_dumpString legible _ smooth]

/-- The items of an array are read back one after another. -/
theorem elements_dump {items : List Value} (each : ∀ w ∈ v :: items, ReadsBack escape w)
    (plain : PlainItems (v :: items)) {fuel : Nat} (before : List Value)
    (enough : 2 * (dump escape v ++ dumpItems escape items).length < fuel) :
    elements fuel before ((dump escape v).map char ++ ((dumpItems escape items).map char ++ rest)) =
      .ok (.array (before.reverse ++ v :: items), rest) := by
  induction items generalizing v fuel before with
  | nil =>
      obtain ⟨fuel, rfl⟩ : ∃ n, fuel = n + 1 := ⟨fuel - 1, by omega⟩
      have item := each v List.mem_cons_self fuel ((dumpItems escape []).map char ++ rest)
        (ends_dumpItems []) (by rw [List.length_append] at enough; omega)
      rw [elements, item]
      simp [dumpItems, skip, isSpace]
  | cons w items ih =>
      obtain ⟨fuel, rfl⟩ : ∃ n, fuel = n + 1 := ⟨fuel - 1, by omega⟩
      have item := each v List.mem_cons_self fuel ((dumpItems escape (w :: items)).map char ++ rest)
        (ends_dumpItems _) (by rw [List.length_append] at enough; omega)
      have left : 2 * (dump escape w ++ dumpItems escape items).length < fuel := by
        simp [dumpItems] at enough ⊢
        omega
      have others := ih (fun u member => each u (List.mem_cons_of_mem v member)) plain.2
        (v :: before) left
      rw [elements, item]
      show elements fuel (v :: before)
        (skip ((dump escape w ++ dumpItems escape items).map char ++ rest)) = _
      rw [List.map_append, List.append_assoc, (opens_dump plain.2.1).skip, others]
      simp

theorem value_bracket {fuel : Nat} {text : List Char} (opens : Opens text) :
    value (fuel + 1) ('[' :: (text.map char ++ rest)) =
      elements fuel [] (text.map char ++ rest) := by
  rw [value, opens.skip]
  cases text with
  | nil => cases opens
  | cons c text =>
      rw [List.map_cons, List.cons_append]
      split
      · rename_i bracket
        cases bracket
        exact absurd rfl opens.2.1
      · rfl

theorem readsBack_array {items : List Value} (each : ∀ w ∈ items, ReadsBack escape w)
    (plain : PlainItems items) : ReadsBack escape (.array items) := by
  intro fuel rest ends enough
  obtain ⟨fuel, rfl⟩ := (opens_dump (v := .array items) plain).fuel enough
  cases items with
  | nil => rfl
  | cons v items =>
      rw [dump, List.length_cons] at enough
      rw [dump, List.map_cons, List.map_append, List.cons_append, List.append_assoc,
        value_bracket (opens_dump plain.1)]
      exact elements_dump each plain [] (by omega)

section Members

variable {fuel : Nat} {before : Table Value} {key : Str}

/-- A closing brace after a field under a new key ends the object. -/
theorem members_last (legible : Legible escape) (smooth : key.isRough = false)
    (fresh : key ∉ before.map (·.1)) (opens : Opens (dump escape v))
    (field : value fuel ((dump escape v).map char ++ char '\x7d' :: rest) =
      .ok (v, .char '\x7d' :: rest)) :
    members (fuel + 1) before ((dumpString escape key).map char ++
        char ':' :: ' ' :: ((dump escape v).map char ++ char '\x7d' :: rest)) =
      .ok (.object (before ++ [(key, v)]), rest) := by
  have colon (text : List CodePoint) : skip (.char ':' :: text) = .char ':' :: text := rfl
  have brace : skip (.char '\x7d' :: rest) = .char '\x7d' :: rest := rfl
  have skipped : skip (' ' :: ((dump escape v).map char ++ char '\x7d' :: rest)) =
      (dump escape v).map char ++ char '\x7d' :: rest := opens.skip _
  rw [dumpString_append, members, stringRest_dumpString legible _ smooth]
  simp only [colon, skipped, field, brace, Table.put_of_notMem fresh]

/-- After a field under a new key and a comma the next field is read. -/
theorem members_next (legible : Legible escape) (smooth : key.isRough = false)
    (fresh : key ∉ before.map (·.1)) (opens : Opens (dump escape v)) {next : List CodePoint}
    (field : value fuel ((dump escape v).map char ++ char ',' :: next) = .ok (v, ',' :: next)) :
    members (fuel + 1) before ((dumpString escape key).map char ++
        char ':' :: ' ' :: ((dump escape v).map char ++ char ',' :: next)) =
      members fuel (before ++ [(key, v)]) (skip next) := by
  have colon (text : List CodePoint) : skip (.char ':' :: text) = .char ':' :: text := rfl
  have comma : skip (.char ',' :: next) = .char ',' :: next := rfl
  have skipped : skip (' ' :: ((dump escape v).map char ++ char ',' :: next)) =
      (dump escape v).map char ++ char ',' :: next := opens.skip _
  rw [dumpString_append, members, stringRest_dumpString legible _ smooth]
  simp only [colon, skipped, field, comma, Table.put_of_notMem fresh]

end Members

/-- The fields of an object are read back one after another, if no key is there twice. -/
theorem members_dump (legible : Legible escape) {key : Str} {fields : List (Str × Value)}
    (readsBack : ReadsBack escape v) (each : ∀ entry ∈ fields, ReadsBack escape entry.2)
    (plain : PlainFields ((key, v) :: fields)) {fuel : Nat} {before : Table Value}
    (distinct : ((before ++ (key, v) :: fields).map (·.1)).Nodup)
    (enough : 2 * (dump escape v ++ dumpFields escape fields).length < fuel) :
    members fuel before ((dumpString escape key).map char ++ char ':' :: ' ' ::
        ((dump escape v).map char ++ ((dumpFields escape fields).map char ++ rest))) =
      .ok (.object (before ++ (key, v) :: fields), rest) := by
  induction fields generalizing v key fuel before with
  | nil =>
      obtain ⟨fuel, rfl⟩ : ∃ n, fuel = n + 1 := ⟨fuel - 1, by omega⟩
      have field := readsBack fuel ((dumpFields escape []).map char ++ rest) (ends_dumpFields [])
        (by rw [List.length_append] at enough; omega)
      exact members_last legible plain.1 (Table.notMem_of_nodup distinct) (opens_dump plain.2.1)
        field
  | cons entry fields ih =>
      obtain ⟨name, w⟩ := entry
      obtain ⟨fuel, rfl⟩ : ∃ n, fuel = n + 1 := ⟨fuel - 1, by omega⟩
      have distinct' : ((before ++ [(key, v)] ++ (name, w) :: fields).map (·.1)).Nodup := by
        simpa using distinct
      have left : 2 * (dump escape w ++ dumpFields escape fields).length < fuel := by
        simp [dumpFields] at enough ⊢
        omega
      have others := ih (each (name, w) List.mem_cons_self)
        (fun other member => each other (List.mem_cons_of_mem _ member)) plain.2.2 distinct' left
      have field := readsBack fuel ((dumpFields escape ((name, w) :: fields)).map char ++ rest)
        (ends_dumpFields _) (by rw [List.length_append] at enough; omega)
      have tail : (dumpFields escape ((name, w) :: fields)).map char ++ rest =
          char ',' :: ' ' :: ((dumpString escape name).map char ++
            char ':' :: ' ' :: ((dump escape w).map char ++
              ((dumpFields escape fields).map char ++ rest))) := by
        simp [dumpFields]
      rw [tail] at field ⊢
      have next := members_next legible plain.1 (Table.notMem_of_nodup distinct)
        (opens_dump plain.2.1) field
      rw [next]
      rw [List.append_assoc] at others
      exact others

theorem value_brace {fuel : Nat} (key : Str) (text : List CodePoint) :
    value (fuel + 1) ('\x7b' :: ((dumpString escape key).map char ++ text)) =
      members fuel [] ((dumpString escape key).map char ++ text) := rfl

theorem readsBack_object (legible : Legible escape) {fields : List (Str × Value)}
    (each : ∀ entry ∈ fields, ReadsBack escape entry.2)
    (plain : Plain (.object fields)) : ReadsBack escape (.object fields) := by
  intro fuel rest ends enough
  obtain ⟨fuel, rfl⟩ := (opens_dump plain).fuel enough
  cases fields with
  | nil => rfl
  | cons entry fields =>
      obtain ⟨key, v⟩ := entry
      rw [dump] at enough ⊢
      simp only [List.map_cons, List.map_append, List.cons_append, List.append_assoc]
      rw [value_brace]
      refine members_dump legible (each _ List.mem_cons_self)
        (fun other member => each other (List.mem_cons_of_mem _ member)) plain.2 plain.1 ?_
      simp at enough ⊢
      omega

mutual

/-- **A plain value is read back.** -/
theorem value_dump (legible : Legible escape) : ∀ v, Plain v → ReadsBack escape v
  | .null, _ | .bool true, _ | .bool false, _ => by
      intro fuel rest _ enough
      obtain ⟨fuel, rfl⟩ := (opens_dump (by trivial)).fuel enough
      rfl
  | .int _, plain => readsBack_int plain
  | .str _, smooth => readsBack_str legible smooth
  | .array items, plain => readsBack_array (items_dump legible items plain) plain
  | .object fields, plain => readsBack_object legible (fields_dump legible fields plain.2) plain

theorem items_dump (legible : Legible escape) :
    ∀ items, PlainItems items → ∀ v ∈ items, ReadsBack escape v
  | [], _ => nofun
  | v :: rest, plain => by
      rintro w (_ | ⟨_, member⟩)
      · exact value_dump legible v plain.1
      · exact items_dump legible rest plain.2 w member

theorem fields_dump (legible : Legible escape) :
    ∀ fields, PlainFields fields → ∀ entry ∈ fields, ReadsBack escape entry.2
  | [], _ => nofun
  | (_, v) :: rest, plain => by
      rintro w (_ | ⟨_, member⟩)
      · exact value_dump legible v plain.2.1
      · exact fields_dump legible rest plain.2.2 w member

end

/-- A plain value is what its text stands for. -/
theorem decode_dump (legible : Legible escape) (plain : Plain v) :
    decode ((dump escape v).map char) = .ok v := by
  have opens : Opens (dump escape v) := opens_dump plain
  have found := value_dump legible v plain (2 * (dump escape v).length + 2) [] trivial
    (Nat.le_add_right _ _)
  have start := opens.skip []
  rw [List.append_nil] at found start
  rw [decode, start, List.length_map, found]
  rfl

theorem read_dump (legible : Legible escape) (plain : Plain v) :
    read ((dump escape v).map char) = .ok v := by
  rw [read]
  · exact decode_dump legible plain
  · intro rest mark
    have opens : Opens (dump escape v) := opens_dump plain
    cases text : dump escape v with
    | nil =>
        rw [text] at opens
        cases opens
    | cons c more =>
        rw [text] at opens mark
        cases mark
        exact absurd opens.1.2 (by decide)

end Values

/-! ## No control characters -/

/-- A text holds no control character below U+0020. -/
def Printable (text : List Char) : Prop := ∀ c ∈ text, 0x20 ≤ c.toNat

instance (text : List Char) : Decidable (Printable text) :=
  List.decidableBAll (fun c : Char => 0x20 ≤ c.toNat) text

theorem Printable.cons {c : Char} {text : List Char} (first : 0x20 ≤ c.toNat)
    (rest : Printable text) : Printable (c :: text) :=
  List.forall_mem_cons.mpr ⟨first, rest⟩

theorem Printable.append {text more : List Char} (first : Printable text)
    (second : Printable more) : Printable (text ++ more) :=
  List.forall_mem_append.mpr ⟨first, second⟩

theorem printable_hexDigits (width n : Nat) : Printable (hexDigits width n) := by
  induction width generalizing n with
  | zero => nofun
  | succ width ih =>
      have digit : ∀ m < 16, 0x20 ≤ (hexDigit m).toNat := by decide
      refine (ih (n / 16)).append ?_
      exact .cons (digit _ (Nat.mod_lt _ (by decide))) nofun

theorem printable_escapedChar (c : Char) : Printable (escapedChar c) := by
  have written := written_escapedChar c
  generalize escapedChar c = text at written
  cases written with
  | @letter letter escape =>
      have visible : ∀ e ∈ letterEscapes, 0x20 ≤ e.1.toNat := by decide
      exact .cons (by decide) (.cons (visible _ escape) nofun)
  | number => exact .cons (by decide) (.cons (by decide) (printable_hexDigits 4 c.toNat))
  | itself _ _ printable => exact .cons printable nofun

theorem printable_dumpString (s : Str) : Printable (dumpString escapedChar s) := by
  refine .cons (by decide) (.append ?_ (.cons (by decide) nofun))
  intro d member
  obtain ⟨c, _, member⟩ := List.mem_flatMap.mp member
  exact printable_escapedChar c d member

theorem printable_toString (n : Int) : Printable (toString n).toList := by
  intro c member
  rcases isDigit_of_mem_toString member with isDigit | rfl
  · exact Nat.le_trans (by decide) (toNat_of_isDigit isDigit).1
  · decide

mutual

/-- The text of a plain value holds no control character. -/
theorem printable_dump : ∀ v, Plain v → Printable (dump escapedChar v)
  | .null, _ | .bool true, _ | .bool false, _ => by decide
  | .int n, _ => dump_int escapedChar n ▸ printable_toString n
  | .str s, _ => printable_dumpString s
  | .array [], _ => by decide
  | .array (v :: rest), plain =>
      .cons (by decide) ((printable_dump v plain.1).append (printable_dumpItems rest plain.2))
  | .object [], _ => by decide
  | .object ((key, v) :: rest), plain =>
      .cons (by decide) ((printable_dumpString key).append (.cons (by decide) (.cons (by decide)
        ((printable_dump v plain.2.2.1).append (printable_dumpFields rest plain.2.2.2)))))

theorem printable_dumpItems : ∀ items, PlainItems items → Printable (dumpItems escapedChar items)
  | [], _ => by decide
  | v :: rest, plain =>
      .cons (by decide) (.cons (by decide)
        ((printable_dump v plain.1).append (printable_dumpItems rest plain.2)))

theorem printable_dumpFields :
    ∀ fields, PlainFields fields → Printable (dumpFields escapedChar fields)
  | [], _ => by decide
  | (key, v) :: rest, plain =>
      .cons (by decide) (.cons (by decide) ((printable_dumpString key).append
        (.cons (by decide) (.cons (by decide)
          ((printable_dump v plain.2.1).append (printable_dumpFields rest plain.2.2))))))

end

/-! ## Numerals that are not read -/

theorem isBlank_of_isDigit {c : Char} (isDigit : c.isDigit = true) : Text.isBlank c = false := by
  have bounds := toNat_of_isDigit isDigit
  simp only [Text.isBlank, Bool.or_eq_false_iff, Bool.and_eq_false_iff, decide_eq_false_iff_not,
    beq_eq_false_iff_ne]
  omega

/-- A numeral with too many digits is not read. -/
theorem read_of_long {d : Char} {digits : List Char} (notZero : d ≠ '0')
    (areDigits : ∀ c ∈ d :: digits, c.isDigit = true)
    (long : digitLimit < (d :: digits).length) :
    read ((d :: digits).map char) = .error (.tooManyDigits (d :: digits).length) := by
  have isDigit := areDigits d List.mem_cons_self
  have other : ∀ c, c.isDigit = false → d ≠ c := by
    rintro c notDigit rfl
    rw [isDigit] at notDigit
    cases notDigit
  have run : digitRun ((d :: digits).map char) = (d :: digits, []) := by
    have run : digitRun ((d :: digits).map char ++ []) = (d :: digits, []) :=
      digitRun_append areDigits trivial
    rwa [List.append_nil] at run
  have overlong : number ((d :: digits).map char) =
      .error (.tooManyDigits (d :: digits).length) := by
    rw [List.length_cons] at long
    rw [List.map_cons] at run ⊢
    simp [number, other, notZero, run, numberRest, fraction, exponent?, long]
  have noSpace : skip ((d :: digits).map char) = (d :: digits).map char := by
    have visible : isSpace d = false := by simp [isSpace, other]
    rw [skip, List.map_cons, List.dropWhile_cons_of_neg (by simp [visible])]
  rw [read, decode, noSpace, List.map_cons, (value_eq_number isDigit).1, ← List.map_cons, overlong]
  intro rest mark
  cases mark
  exact absurd isDigit (by decide)

end CaptureDesk.Json
