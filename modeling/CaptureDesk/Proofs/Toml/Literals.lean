import CaptureDesk.Proofs.Json.RoundTrip
import CaptureDesk.Toml.Document

/-!
# JSON strings and whole numbers as TOML

A basic string of TOML knows all the escapes that the JSON writer makes use of, but unlike a JSON
string it may not hold U+007F as it is.  A string without this character is therefore read from TOML
as it was written as JSON (`quoted_string`).  A whole number is read as it was written too
(`scalar_toString`): its digits never begin a moment, which has another mark after its first digits,
nor a number in another base (`Whole.scalar`).
-/

namespace CaptureDesk.Toml

open Json (escapedChar written_escapedChar letterEscapes dumpString isOverlong decimalNumber
  digitLimit)
open Text (hexDigits hexDigit hexNumber? hexValue?_hexDigit)

/-- A text goes on with what may stand after a value in a list or on a line. -/
inductive Stops : List Char → Prop
  | comma (rest : List Char) : Stops (',' :: rest)
  | bracket (rest : List Char) : Stops (']' :: rest)
  | line (rest : List Char) : Stops ('\n' :: rest)

/-- A text goes on with what may stand after digits: a point, or what may stand after a value. -/
inductive Ends : List Char → Prop
  | point (rest : List Char) : Ends ('.' :: rest)
  | stops {rest : List Char} : Stops rest → Ends rest

/-- The digits of a whole number: a single zero, or digits that do not begin with one. -/
inductive Whole : List Char → Prop
  | zero : Whole ['0']
  | other {d : Char} {digits : List Char} (notZero : d ≠ '0')
      (areDigits : ∀ c ∈ d :: digits, c.isDigit = true) : Whole (d :: digits)

/-! ## Strings -/

/-- Hexadecimal digits stand for the number that they were made of. -/
theorem hexNumber?_hexDigits (width : Nat) {n : Nat} (small : n < Nat.pow 16 width) :
    hexNumber? (hexDigits width n) = some n := by
  induction width generalizing n with
  | zero =>
      obtain rfl : n = 0 := Nat.lt_one_iff.mp small
      rfl
  | succ width ih =>
      have front : hexNumber? (hexDigits width (n / 16)) = some (n / 16) :=
        ih (Nat.div_lt_of_lt_mul (by rw [Nat.mul_comm]; exact small))
      have digit := hexValue?_hexDigit (n % 16) (Nat.mod_lt n (by decide))
      have whole : 16 * (n / 16) + n % 16 = n := Nat.div_add_mod n 16
      rw [hexNumber?] at front
      rw [hexNumber?, hexDigits, List.foldlM_append, front]
      simp [digit, whole]

section BasicRest

variable (read rest : List Char)

theorem basicRest_plain {c : Char} (quote : c ≠ '"') (backslash : c ≠ '\\')
    (allowed : isControl false c = false) :
    basicRest false .none read (c :: rest) = basicRest false .none (c :: read) rest := by
  rw [basicRest.eq_def]
  simp [quote, backslash, allowed]

theorem basicRest_letter {letter c : Char} (stands : unescaped? letter = some c) :
    basicRest false .none read ('\\' :: letter :: rest) =
      basicRest false .none (c :: read) rest := by
  have other : letter ≠ 'u' ∧ letter ≠ 'U' := by
    constructor <;>
    · rintro rfl
      cases stands
  rw [basicRest.eq_def]
  simp [other, stands]

theorem basicRest_unicode {c : Char} (small : c.toNat < 0x10000) :
    basicRest false .none read ('\\' :: 'u' :: (hexDigits 4 c.toNat ++ rest)) =
      basicRest false .none (c :: read) rest := by
  have number := hexNumber?_hexDigits 4 small
  obtain ⟨a, b, d, e, digits⟩ : ∃ a b d e, hexDigits 4 c.toNat = [a, b, d, e] := ⟨_, _, _, _, rfl⟩
  have valid : c.toNat.isValidChar := c.valid
  rw [digits] at number ⊢
  show basicRest false .none read ('\\' :: 'u' :: a :: b :: d :: e :: rest) = _
  rw [basicRest.eq_def]
  simp [hexChar, number, valid, Char.ofNat_toNat]

/-- A character that is written as in JSON is read by itself, if it may stand in a string. -/
theorem basicRest_escapedChar {c : Char} (notDelete : c ≠ '\x7f') :
    basicRest false .none read (escapedChar c ++ rest) =
      basicRest false .none (c :: read) rest := by
  have written := written_escapedChar c
  generalize escapedChar c = text at written
  cases written with
  | letter escape =>
      have stands : ∀ e ∈ letterEscapes, unescaped? e.1 = some e.2 := by decide
      exact basicRest_letter _ _ (stands _ escape)
  | number control => exact basicRest_unicode _ _ (by omega)
  | itself quote backslash printable =>
      have other : c.toNat ≠ 0x7F := fun same => notDelete (Char.toNat_inj.mp same)
      refine basicRest_plain _ _ quote backslash ?_
      simp [isControl, Nat.not_lt.mpr printable, other]

/-- The characters of a string are read back one after another. -/
theorem basicRest_flatMap {text : List Char} (allowed : '\x7f' ∉ text) :
    basicRest false .none read (text.flatMap escapedChar ++ '"' :: rest) =
      .ok (read.reverse ++ text, rest) := by
  induction text generalizing read with
  | nil =>
      rw [basicRest.eq_def]
      simp
  | cons c text ih =>
      rw [List.mem_cons, not_or] at allowed
      rw [List.flatMap_cons, List.append_assoc, basicRest_escapedChar _ _ (Ne.symm allowed.1),
        ih _ allowed.2, List.reverse_cons, List.append_assoc, List.singleton_append]

end BasicRest

section Literals

variable {rest : List Char}

/-- A quote never opens what a character is written as. -/
theorem head_escapedChar (c : Char) : ∃ d more, escapedChar c = d :: more ∧ d ≠ '"' := by
  have written := written_escapedChar c
  generalize escapedChar c = text at written
  cases written with
  | letter => exact ⟨_, _, rfl, by decide⟩
  | number => exact ⟨_, _, rfl, by decide⟩
  | itself quote => exact ⟨c, [], rfl, quote⟩

/-- **A string that is written as JSON is read back**, unless it holds U+007F. -/
theorem quoted_string {s : String} (allowed : '\x7f' ∉ s.toList) (stops : Stops rest) :
    quoted (dumpString escapedChar s ++ rest) = .ok (s, rest) := by
  have content : basicRest false .none [] (s.toList.flatMap escapedChar ++ '"' :: rest) =
      .ok (s.toList, rest) := basicRest_flatMap [] rest allowed
  have text : dumpString escapedChar s ++ rest =
      '"' :: (s.toList.flatMap escapedChar ++ '"' :: rest) := by
    rw [Json.dumpString_plain, List.cons_append, List.append_assoc, List.singleton_append]
  rw [text]
  -- Two quotes in a row open no string over several lines, because no third one follows.
  cases chars : s.toList with
  | nil =>
      rw [chars] at content
      have empty : s = "" := String.toList_eq_nil_iff.mp chars
      cases stops <;> simp [quoted, basicRest, empty]
  | cons c more =>
      obtain ⟨d, after, first, notQuote⟩ := head_escapedChar c
      rw [← chars, quoted]
      · rw [content]
        simp
      all_goals simp [chars, first, notQuote]

end Literals

/-! ## Whole numbers -/

section Numbers

variable {rest digits whole : List Char}

theorem Whole.areDigits (isWhole : Whole whole) : ∀ c ∈ whole, c.isDigit = true := by
  cases isWhole with
  | zero => exact List.forall_mem_singleton.mpr rfl
  | other _ areDigits => exact areDigits

theorem Whole.head (isWhole : Whole whole) :
    ∃ d more, whole = d :: more ∧ d.isDigit = true := by
  obtain ⟨d, more, rfl⟩ : ∃ d more, whole = d :: more := by
    cases isWhole <;> exact ⟨_, _, rfl⟩
  exact ⟨d, more, rfl, isWhole.areDigits d List.mem_cons_self⟩

theorem ne_of_isDigit {c d : Char} (isDigit : d.isDigit = true) (notDigit : c.isDigit = false) :
    d ≠ c := by
  rintro rfl
  rw [isDigit] at notDigit
  cases notDigit

/-- What may stand after digits is no digit, nor a mark that a moment has between its numbers. -/
theorem Ends.head (ends : Ends rest) :
    ∃ c more, rest = c :: more ∧ c.isDigit = false ∧ c ≠ '-' ∧ c ≠ ':' ∧ c ≠ '_' := by
  rcases ends with more | ⟨more | more | more⟩ <;> exact ⟨_, more, rfl, by decide⟩

/-- Neither digits nor what ends them hold the marks that a moment has between its numbers. -/
theorem after?_of_digits {mark : Char} (isMark : mark = '-' ∨ mark = ':')
    (areDigits : ∀ c ∈ digits, c.isDigit = true) (ends : Ends rest) :
    after? mark (digits ++ rest) = none := by
  cases digits with
  | nil =>
      obtain ⟨c, more, rfl, _, noDash, noColon, _⟩ := ends.head
      have other : mark ≠ c := by
        rintro rfl
        exact isMark.elim noDash noColon
      rw [List.nil_append, after?, if_neg other]
  | cons d digits =>
      have isDigit := areDigits d List.mem_cons_self
      have other : mark.isDigit = false := by
        rcases isMark with rfl | rfl <;> rfl
      rw [List.cons_append, after?, if_neg (ne_of_isDigit isDigit other).symm]

/-- The first four characters of a date are digits. -/
theorem date?_of_take {text : List Char} (other : (text.take 4).all Char.isDigit = false) :
    date? text = none := by
  have unmet : ¬((text.take 4).length = 4 ∧ (text.take 4).all Char.isDigit = true) := by
    rw [other]
    exact fun both => absurd both.2 (by decide)
  unfold date? guard
  dsimp only
  rw [if_neg unmet]
  rfl

/-- A dash follows them. -/
theorem date?_of_drop {text : List Char} (noDash : after? '-' (text.drop 4) = none) :
    date? text = none := by
  unfold date? guard
  dsimp only
  rw [noDash]
  split <;> rfl

theorem date?_of_digits (areDigits : ∀ c ∈ digits, c.isDigit = true) (ends : Ends rest) :
    date? (digits ++ rest) = none := by
  match digits, areDigits with
  | [], _ | [_], _ | [_, _], _ | [_, _, _], _ =>
      obtain ⟨c, more, rfl, notDigit, _⟩ := ends.head
      exact date?_of_take (by simp [notDigit])
  | a :: b :: c :: d :: digits, areDigits =>
      have others : ∀ e ∈ digits, e.isDigit = true := fun e member =>
        areDigits e (by simp [member])
      exact date?_of_drop (after?_of_digits (.inl rfl) others ends)

/-- A time of day begins with two digits. -/
theorem clock?_of_head {text : List Char} (other : (text.take 2).all Char.isDigit = false) :
    clock? text = none := by
  have noDigits : twoDigits? 0 23 text = none := by
    match text, other with
    | [], _ | [_], _ => rfl
    | a :: b :: rest, other =>
        have other : (a.isDigit && b.isDigit) = false := by simpa using other
        simp [twoDigits?, other]
  rw [clock?, noDigits]
  rfl

theorem clock?_of_digits (areDigits : ∀ c ∈ digits, c.isDigit = true) (ends : Ends rest) :
    clock? (digits ++ rest) = none := by
  match digits, areDigits with
  | [], _ | [_], _ =>
      obtain ⟨c, more, rfl, notDigit, _⟩ := ends.head
      exact clock?_of_head (by simp [notDigit])
  | a :: b :: digits, areDigits =>
      have others : ∀ e ∈ digits, e.isDigit = true := fun e member =>
        areDigits e (by simp [member])
      have noMark := after?_of_digits (.inr rfl) others ends
      simp only [clock?, twoDigits?, List.cons_append]
      split <;> simp [noMark]

/-- Digits are no moment. -/
theorem moment?_of_digits (areDigits : ∀ c ∈ digits, c.isDigit = true) (ends : Ends rest) :
    moment? (digits ++ rest) = none := by
  rw [moment?, date?_of_digits areDigits ends, clock?_of_digits areDigits ends]
  rfl

/-- A moment begins with a digit. -/
theorem moment?_of_other {c : Char} (notDigit : c.isDigit = false) (text : List Char) :
    moment? (c :: text) = none := by
  have date : date? (c :: text) = none := date?_of_take (by simp [notDigit])
  have clock : clock? (c :: text) = none := clock?_of_head (by simp [notDigit])
  rw [moment?, date, clock]
  rfl

theorem groupedRest_append (areDigits : ∀ c ∈ digits, c.isDigit = true) (ends : Ends rest) :
    groupedRest Char.isDigit (digits ++ rest) = (digits, rest) := by
  induction digits with
  | nil =>
      obtain ⟨c, more, rfl, notDigit, _, _, noGroup⟩ := ends.head
      rw [List.nil_append, groupedRest]
      · simp [notDigit]
      · rintro d rest same
        cases same
        exact absurd rfl noGroup
  | cons d digits ih =>
      have isDigit := areDigits d List.mem_cons_self
      have others := ih fun e member => areDigits e (List.mem_cons_of_mem d member)
      rw [List.cons_append, groupedRest, others]
      · simp [isDigit]
      · rintro e more rfl
        cases isDigit

theorem fraction?_of_stops (stops : Stops rest) : fraction? rest = none := by
  cases stops <;> rfl

theorem exponent?_of_stops (stops : Stops rest) : exponent? rest = none := by
  cases stops <;> rfl

/-- A sign is there or not. -/
theorem Whole.sign (isWhole : Whole whole) (negative : Bool) (rest : List Char) :
    Toml.sign ((if negative then ['-'] else []) ++ (whole ++ rest)) =
      (negative, whole ++ rest) := by
  cases negative with
  | true => rfl
  | false =>
      obtain ⟨d, more, rfl, isDigit⟩ := isWhole.head
      rw [if_neg Bool.false_ne_true, List.nil_append, List.cons_append, Toml.sign]
      · simp [ne_of_isDigit isDigit (c := '-') (by decide)]
      · simp [ne_of_isDigit isDigit (c := '+') (by decide)]

theorem Whole.whole? (isWhole : Whole whole) (ends : Ends rest) :
    Toml.whole? (whole ++ rest) = some (whole, rest) := by
  cases isWhole with
  | zero => rfl
  | @other d digits notZero areDigits =>
      rw [List.cons_append, Toml.whole?, grouped?, if_pos (areDigits d List.mem_cons_self),
        groupedRest_append (fun c member => areDigits c (List.mem_cons_of_mem d member)) ends]
      simp [notZero]

/-- A number that begins with the digits of a whole one is a decimal, not a moment and no number in
another base. -/
theorem Whole.scalar {found : Except Fault (Value × List Char)} (isWhole : Whole whole)
    (ends : Ends rest) {negative : Bool}
    (decimal : decimal? ((if negative then ['-'] else []) ++ (whole ++ rest)) = some found) :
    Toml.scalar ((if negative then ['-'] else []) ++ (whole ++ rest)) = found := by
  cases negative with
  | true =>
      have based : basedNumber? ('-' :: (whole ++ rest)) = none := by simp [basedNumber?]
      rw [if_pos rfl, List.singleton_append] at decimal ⊢
      rw [Toml.scalar, moment?_of_other (by decide), based, decimal]
      all_goals simp
  | false =>
      obtain ⟨d, more, text, isDigit⟩ := isWhole.head
      have based : basedNumber? (whole ++ rest) = none := by
        cases isWhole with
        | zero => rcases ends with more | ⟨more | more | more⟩ <;> rfl
        | other notZero => simp [basedNumber?, notZero]
      rw [if_neg Bool.false_ne_true, List.nil_append] at decimal ⊢
      rw [Toml.scalar, moment?_of_digits isWhole.areDigits ends, based, decimal]
      · simp [text, ne_of_isDigit isDigit (c := 't') (by decide)]
      · simp [text, ne_of_isDigit isDigit (c := 'f') (by decide)]

/-- The digits of a whole number are taken together, with a minus if there is one. -/
theorem scalar_whole (isWhole : Whole whole) (stops : Stops rest) (negative : Bool) :
    scalar ((if negative then ['-'] else []) ++ (whole ++ rest)) =
      if digitLimit < whole.length then .error (.tooManyDigits whole.length)
      else .ok (.int (if negative then -decimalNumber whole else decimalNumber whole), rest) := by
  apply isWhole.scalar (.stops stops)
  simp only [decimal?, isWhole.sign, isWhole.whole? (.stops stops), fraction?_of_stops stops,
    exponent?_of_stops stops, Option.bind_eq_bind, Option.bind_some]
  split <;> rfl

theorem scalar_short (isWhole : Whole whole) (short : whole.length ≤ digitLimit)
    (stops : Stops rest) (negative : Bool) :
    scalar ((if negative then ['-'] else []) ++ (whole ++ rest)) =
      .ok (.int (if negative then -decimalNumber whole else decimalNumber whole), rest) := by
  rw [scalar_whole isWhole stops, if_neg (Nat.not_lt.mpr short)]

/-- **A whole number is read back.** -/
theorem scalar_toString {n : Int} (short : isOverlong n = false) (stops : Stops rest) :
    scalar ((toString n).toList ++ rest) = .ok (.int n, rest) := by
  have numeral := Json.numeral_toString short
  generalize (toString n).toList = text at numeral ⊢
  cases numeral with
  | zero => exact scalar_short .zero (by decide) stops false
  | positive notZero areDigits few =>
      exact scalar_short (.other notZero areDigits) few stops false
  | negative notZero areDigits few =>
      exact scalar_short (.other notZero areDigits) few stops true

end Numbers

end CaptureDesk.Toml
