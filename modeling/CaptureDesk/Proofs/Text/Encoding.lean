import CaptureDesk.Text.Wide
import Mathlib.Tactic.Common

/-!
# Texts and their octets

The octets of a text are cut into its characters and nothing else (`pieces_encode`), so every
decoder gives the text back: the strict one, the one that replaces, and the one that first finds out
the encoding, if the text is one that begins plainly (`decodeDetected_encode`).

A character is followed through the machine octet by octet.  `Awaits` says what a state knows of the
character under way: the bits read so far, and that the octet to come is within its bounds.
-/

namespace CaptureDesk.Text.Utf8

/-! ## One character -/

/-- An octet after the lead octet, with the lowest six bits of a number. -/
def tailOctet (n : Nat) : UInt8 := UInt8.ofNat (n % 64 + 0x80)

theorem toNat_tailOctet (n : Nat) : (tailOctet n).toNat = n % 64 + 0x80 := by
  rw [tailOctet, UInt8.toNat_ofNat']
  omega

/-- The octets of a scalar value: a lead octet that tells their number, and the bits in groups of
six. -/
inductive Form (n : Nat) : List UInt8 → Prop
  | one : n < 0x80 → Form n [UInt8.ofNat n]
  | two : 0x80 ≤ n → n < 0x800 →
      Form n [UInt8.ofNat (n / 64 % 32 + 0xC0), tailOctet n]
  | three : 0x800 ≤ n → n < 0x10000 → n < 0xD800 ∨ 0xDFFF < n →
      Form n [UInt8.ofNat (n / 4096 % 16 + 0xE0), tailOctet (n / 64), tailOctet n]
  | four : 0x10000 ≤ n → n < 0x110000 →
      Form n [UInt8.ofNat (n / 262144 % 8 + 0xF0), tailOctet (n / 4096), tailOctet (n / 64),
        tailOctet n]

theorem form_encodeChar (c : Char) : Form c.toNat (String.utf8EncodeChar c) := by
  have scalar : c.val.toNat < 0xD800 ∨ 0xDFFF < c.val.toNat ∧ c.val.toNat < 0x110000 := c.valid
  rw [String.utf8EncodeChar]
  by_cases one : c.val.toNat ≤ 0x7F
  · rw [if_pos one]
    exact .one (Nat.lt_succ_of_le one)
  rw [if_neg one]
  by_cases two : c.val.toNat ≤ 0x7FF
  · rw [if_pos two]
    exact .two (Nat.lt_of_not_le one) (Nat.lt_succ_of_le two)
  rw [if_neg two]
  by_cases three : c.val.toNat ≤ 0xFFFF
  · rw [if_pos three]
    exact .three (Nat.lt_of_not_le two) (Nat.lt_succ_of_le three) (scalar.imp_right And.left)
  · rw [if_neg three]
    exact .four (Nat.lt_of_not_le three) (show c.val.toNat < 0x110000 by omega)

/-- A state calls for some octets more, has read some bits, and lets the octet for `next` come. -/
structure Awaits (s : Open) (missing bits next : Nat) : Prop where
  missing : s.missing = missing
  bits : s.bits = bits
  low : s.low.toNat ≤ next % 64 + 0x80
  high : next % 64 + 0x80 ≤ s.high.toNat

section Awaits

variable {s : Open} {missing bits next : Nat} {pieces : List Piece} {rest : List UInt8}

theorem Awaits.within (awaits : Awaits s missing bits next) :
    s.low ≤ tailOctet next ∧ tailOctet next ≤ s.high := by
  rw [UInt8.le_iff_toNat_le, UInt8.le_iff_toNat_le, toNat_tailOctet]
  exact ⟨awaits.low, awaits.high⟩

/-- An octet in the middle of a character adds its bits, and any octet may follow it. -/
theorem Awaits.cut_next (awaits : Awaits s (missing + 2) bits next) :
    ∃ t, cut pieces (some s) (tailOctet next :: rest) = cut pieces (some t) rest ∧
      ∀ after, Awaits t (missing + 1) (64 * bits + next % 64) after := by
  refine ⟨⟨s.missing - 1, 0x80, 0xBF, 64 * s.bits + next % 64, tailOctet next :: s.seen⟩, ?_, ?_⟩
  · rw [cut, if_pos awaits.within, toNat_tailOctet, Nat.add_sub_cancel, if_neg]
    rw [awaits.missing]
    omega
  · intro after
    refine ⟨?_, ?_, ?_, ?_⟩
    · rw [awaits.missing]
      rfl
    · rw [awaits.bits]
    · exact Nat.le_add_left _ _
    · show after % 64 + 0x80 ≤ 0xBF
      omega

/-- The last octet of a character completes it. -/
theorem Awaits.cut_last (awaits : Awaits s 1 bits next) :
    cut pieces (some s) (tailOctet next :: rest) =
      cut (.char (Char.ofNat (64 * bits + next % 64)) :: pieces) none rest := by
  rw [cut, if_pos awaits.within, toNat_tailOctet, Nat.add_sub_cancel, if_pos awaits.missing,
    awaits.bits]

end Awaits

section Lead

variable {n : Nat}

theorem begin_one (high : n < 0x80) : begin (UInt8.ofNat n) = .char (Char.ofNat n) := by
  have octet : (UInt8.ofNat n).toNat = n := UInt8.toNat_ofNat_of_lt' (show n < 256 by omega)
  simp only [begin, UInt8.lt_iff_toNat_lt, octet, UInt8.reduceToNat]
  rw [if_pos high]

theorem begin_two (low : 0x80 ≤ n) (high : n < 0x800) :
    ∃ s, begin (UInt8.ofNat (n / 64 % 32 + 0xC0)) = .more s ∧ Awaits s 1 (n / 64) n := by
  have octet : (UInt8.ofNat (n / 64 % 32 + 0xC0)).toNat = n / 64 + 0xC0 := by
    rw [UInt8.toNat_ofNat']
    omega
  refine ⟨⟨1, 0x80, 0xBF, n / 64, [UInt8.ofNat (n / 64 % 32 + 0xC0)]⟩, ?_, rfl, rfl, ?_, ?_⟩
  · simp only [begin, UInt8.lt_iff_toNat_lt, octet, UInt8.reduceToNat]
    rw [if_neg (by omega), if_neg (by omega), if_pos (by omega), Nat.add_sub_cancel]
  · exact Nat.le_add_left _ _
  · show n % 64 + 0x80 ≤ 0xBF
    omega

/-- The bounds after a lead octet of three let any scalar value pass but no surrogate. -/
theorem begin_three (low : 0x800 ≤ n) (high : n < 0x10000) (scalar : n < 0xD800 ∨ 0xDFFF < n) :
    ∃ s, begin (UInt8.ofNat (n / 4096 % 16 + 0xE0)) = .more s ∧
      Awaits s 2 (n / 4096) (n / 64) := by
  have octet : (UInt8.ofNat (n / 4096 % 16 + 0xE0)).toNat = n / 4096 + 0xE0 := by
    rw [UInt8.toNat_ofNat']
    omega
  simp only [begin, UInt8.lt_iff_toNat_lt, ← UInt8.toNat_inj, octet, UInt8.reduceToNat]
  rw [if_neg (by omega), if_neg (by omega), if_neg (by omega)]
  by_cases first : n / 4096 = 0
  · rw [if_pos (by omega)]
    refine ⟨_, rfl, rfl, first.symm, ?_, ?_⟩
    · show 0xA0 ≤ n / 64 % 64 + 0x80
      omega
    · show n / 64 % 64 + 0x80 ≤ 0xBF
      omega
  by_cases thirteenth : n / 4096 = 13
  · rw [if_neg (by omega), if_pos (by omega)]
    refine ⟨_, rfl, rfl, thirteenth.symm, Nat.le_add_left _ _, ?_⟩
    show n / 64 % 64 + 0x80 ≤ 0x9F
    omega
  · rw [if_neg (by omega), if_neg (by omega), if_pos (by omega), Nat.add_sub_cancel]
    refine ⟨_, rfl, rfl, rfl, Nat.le_add_left _ _, ?_⟩
    show n / 64 % 64 + 0x80 ≤ 0xBF
    omega

theorem begin_four (low : 0x10000 ≤ n) (high : n < 0x110000) :
    ∃ s, begin (UInt8.ofNat (n / 262144 % 8 + 0xF0)) = .more s ∧
      Awaits s 3 (n / 262144) (n / 4096) := by
  have octet : (UInt8.ofNat (n / 262144 % 8 + 0xF0)).toNat = n / 262144 + 0xF0 := by
    rw [UInt8.toNat_ofNat']
    omega
  simp only [begin, UInt8.lt_iff_toNat_lt, ← UInt8.toNat_inj, octet, UInt8.reduceToNat]
  rw [if_neg (by omega), if_neg (by omega), if_neg (by omega), if_neg (by omega),
    if_neg (by omega), if_neg (by omega)]
  by_cases first : n / 262144 = 0
  · rw [if_pos (by omega)]
    refine ⟨_, rfl, rfl, first.symm, ?_, ?_⟩
    · show 0x90 ≤ n / 4096 % 64 + 0x80
      omega
    · show n / 4096 % 64 + 0x80 ≤ 0xBF
      omega
  by_cases last : n / 262144 = 4
  · rw [if_neg (by omega), if_neg (by omega), if_pos (by omega)]
    refine ⟨_, rfl, rfl, last.symm, Nat.le_add_left _ _, ?_⟩
    show n / 4096 % 64 + 0x80 ≤ 0x8F
    omega
  · rw [if_neg (by omega), if_pos (by omega), Nat.add_sub_cancel]
    refine ⟨_, rfl, rfl, rfl, Nat.le_add_left _ _, ?_⟩
    show n / 4096 % 64 + 0x80 ≤ 0xBF
    omega

end Lead

/-- **The octets of a character are cut into that character.** -/
theorem cut_encodeChar (c : Char) (pieces : List Piece) (rest : List UInt8) :
    cut pieces none (String.utf8EncodeChar c ++ rest) = cut (.char c :: pieces) none rest := by
  have whole : ∀ n, n = c.toNat → Char.ofNat n = c := by
    rintro _ rfl
    exact Char.ofNat_toNat c
  have form := form_encodeChar c
  generalize String.utf8EncodeChar c = octets at form
  cases form with
  | one high => rw [List.singleton_append, cut, begin_one high, whole _ rfl]
  | two low high =>
      obtain ⟨s, lead, awaits⟩ := begin_two low high
      rw [List.cons_append, List.cons_append, List.nil_append, cut, lead]
      refine awaits.cut_last.trans ?_
      rw [whole _ (by omega)]
  | three low high scalar =>
      obtain ⟨s, lead, awaits⟩ := begin_three low high scalar
      obtain ⟨t, second, last⟩ := awaits.cut_next
      rw [List.cons_append, List.cons_append, List.cons_append, List.nil_append, cut, lead]
      refine second.trans ((last c.toNat).cut_last.trans ?_)
      rw [whole _ (by omega)]
  | four low high =>
      obtain ⟨s, lead, awaits⟩ := begin_four low high
      obtain ⟨t, second, awaits⟩ := awaits.cut_next
      obtain ⟨u, third, last⟩ := (awaits (c.toNat / 64)).cut_next
      rw [List.cons_append, List.cons_append, List.cons_append, List.cons_append, List.nil_append,
        cut, lead]
      refine second.trans (third.trans ((last c.toNat).cut_last.trans ?_))
      rw [whole _ (by omega)]

/-! ## Texts -/

theorem encode_cons (c : Char) (text : List Char) :
    encode (c :: text) = String.utf8EncodeChar c ++ encode text := rfl

theorem cut_encode (text : List Char) (pieces : List Piece) :
    cut pieces none (encode text) = (pieces.reverse ++ text.map .char, none) := by
  induction text generalizing pieces with
  | nil => simp [encode, cut]
  | cons c text ih =>
      rw [encode_cons, cut_encodeChar, ih]
      simp

/-- **The octets of a text are cut into its characters.** -/
theorem pieces_encode (text : List Char) : pieces (encode text) = text.map .char := by
  rw [pieces, cut_encode]
  rfl

/-- The replacing decoder gives a text back. -/
theorem decodeLossy_encode (text : List Char) : decodeLossy (encode text) = text := by
  rw [decodeLossy, pieces_encode, List.map_map]
  exact List.map_id text

theorem assemble_chars (text chars : List Char) (place : Nat) :
    assemble chars place (text.map .char) = .ok (chars.reverse ++ text) := by
  induction text generalizing chars place with
  | nil => simp [assemble]
  | cons c text ih => simp [assemble, ih]

/-- The strict decoder gives a text back. -/
theorem decode_encode (text : List Char) : decode (encode text) = .ok text := by
  rw [decode, pieces_encode, assemble_chars]
  rfl

/-! ## Surrogates -/

section Surrogates

variable {b : UInt8} {rest : List UInt8}

/-- Octets with another lead octet stand for no surrogate. -/
theorem surrogate?_of_ne (other : b ≠ 0xED) : surrogate? (b :: rest) = none := by
  unfold surrogate?
  split
  · rename_i same
    exact absurd (List.cons.inj same).1 other
  · rfl

theorem surrogate?_tailOctet (n : Nat) : surrogate? (tailOctet n :: rest) = none := by
  refine surrogate?_of_ne fun same => ?_
  have octet : (tailOctet n).toNat = 0xED := congrArg UInt8.toNat same
  rw [toNat_tailOctet] at octet
  omega

theorem surrogate?_lead {n : Nat} (other : n % 256 ≠ 0xED) :
    surrogate? (UInt8.ofNat n :: rest) = none := by
  refine surrogate?_of_ne fun same => other ?_
  have octet : (UInt8.ofNat n).toNat = 0xED := congrArg UInt8.toNat same
  rwa [UInt8.toNat_ofNat'] at octet

/-- The octet after the lead octet tells that no surrogate is under way. -/
theorem surrogate?_below {next : Nat} (below : next % 64 < 0x20) (last : UInt8) :
    surrogate? (0xED :: tailOctet next :: last :: rest) = none := by
  rw [surrogate?, if_neg]
  rw [UInt8.le_iff_toNat_le, toNat_tailOctet]
  rintro ⟨above, _⟩
  have above : 0xA0 ≤ next % 64 + 0x80 := above
  omega

/-- No character has the form of a surrogate. -/
theorem surrogate?_encodeChar (c : Char) (rest : List UInt8) :
    surrogate? (String.utf8EncodeChar c ++ rest) = none := by
  have form := form_encodeChar c
  generalize String.utf8EncodeChar c = octets at form
  cases form with
  | one high => exact surrogate?_lead (by omega)
  | two low high => exact surrogate?_lead (by omega)
  | four low high => exact surrogate?_lead (by omega)
  | three low high scalar =>
      by_cases same : c.toNat / 4096 = 13
      · rw [same]
        exact surrogate?_below (by omega) _
      · exact surrogate?_lead (by omega)

/-- An octet at which no surrogate begins lets the rest be looked at by itself. -/
theorem passSurrogates_cons (clear : surrogate? (b :: rest) = none) :
    passSurrogates (b :: rest) = b :: passSurrogates rest := by
  match rest, clear with
  | [], _ | [_], _ => rfl
  | c :: d :: rest, clear =>
      rw [passSurrogates, clear]
      rfl

theorem passSurrogates_encodeChar (c : Char) (rest : List UInt8) :
    passSurrogates (String.utf8EncodeChar c ++ rest) =
      String.utf8EncodeChar c ++ passSurrogates rest := by
  have start := surrogate?_encodeChar c rest
  have form := form_encodeChar c
  have tail (n : Nat) (rest : List UInt8) :
      passSurrogates (tailOctet n :: rest) = tailOctet n :: passSurrogates rest :=
    passSurrogates_cons (surrogate?_tailOctet n)
  generalize String.utf8EncodeChar c = octets at form start
  cases form <;>
  · refine (passSurrogates_cons start).trans ?_
    simp only [List.append_eq, List.cons_append, List.nil_append, tail]

end Surrogates

theorem passSurrogates_encode (text : List Char) : passSurrogates (encode text) = encode text := by
  induction text with
  | nil => rfl
  | cons c text ih => rw [encode_cons, passSurrogates_encodeChar, ih]

/-- No surrogate is put back into a text. -/
theorem reinstate_encode (text : List Char) : reinstate (encode text) text = text.map .char := by
  induction text with
  | nil => rfl
  | cons c text ih =>
      have rest : (String.utf8EncodeChar c ++ encode text).drop c.utf8Size = encode text :=
        List.drop_left' (String.length_utf8EncodeChar c)
      rw [encode_cons, reinstate, surrogate?_encodeChar, rest, ih]
      rfl

/-- The decoder that lets surrogates through gives a text back. -/
theorem decodePassing_encode (text : List Char) :
    decodePassing (encode text) = .ok (text.map .char) := by
  rw [decodePassing, passSurrogates_encode, decode_encode]
  exact congrArg Except.ok (reinstate_encode text)

end CaptureDesk.Text.Utf8

namespace CaptureDesk.Text

theorem ne_zero_of_mem_encodeChar {c : Char} (noNul : c ≠ '\x00') {b : UInt8}
    (member : b ∈ String.utf8EncodeChar c) : b ≠ 0 := by
  have positive : 0 < c.toNat := by
    refine Nat.pos_of_ne_zero fun zero => noNul ?_
    rw [← Char.ofNat_toNat c, zero]
  rintro rfl
  have octet : ∀ n, (0 : UInt8) = UInt8.ofNat n → n % 256 = 0 := by
    intro n same
    have octet : (UInt8.ofNat n).toNat = 0 := congrArg UInt8.toNat same.symm
    rwa [UInt8.toNat_ofNat'] at octet
  have tail : ∀ n, (0 : UInt8) ≠ Utf8.tailOctet n := by
    intro n same
    have := octet _ same
    omega
  have form := Utf8.form_encodeChar c
  generalize String.utf8EncodeChar c = octets at form member
  cases form <;> simp only [List.mem_cons, List.not_mem_nil, or_false, tail] at member
  all_goals
    have := octet _ member
    omega

/-- Octets without a zero that begin in ASCII are taken for UTF-8. -/
theorem detect_of_nonzero {a : UInt8} {rest : List UInt8} (ascii : a < 0x80)
    (nonzero : ∀ b ∈ a :: rest, b ≠ 0) : detect (a :: rest) = (.utf8, 0) := by
  have unmarked : orderMarks.find? (·.1.isPrefixOf (a :: rest)) = none := by
    -- No mark begins in ASCII, but for the NUL.
    have other (first : UInt8) (outside : first = 0 ∨ 0x80 ≤ first) : (first == a) = false := by
      refine beq_false_of_ne ?_
      rintro rfl
      rcases outside with rfl | high
      · exact nonzero 0 List.mem_cons_self rfl
      · exact absurd ascii (UInt8.not_lt.mpr high)
    simp [orderMarks, List.isPrefixOf, other 0x00 (by decide), other 0xFF (by decide),
      other 0xFE (by decide), other 0xEF (by decide)]
  have zeros : detectByZeros (a :: rest) = .utf8 := by
    have some := nonzero a List.mem_cons_self
    match rest, nonzero with
    | [], _ | [_, _], _ => rfl
    | [b], nonzero => simp [detectByZeros, some, nonzero b (by simp)]
    | b :: c :: d :: more, nonzero => simp [detectByZeros, some, nonzero b (by simp)]
  rw [detect, unmarked, zeros]

/-- A text that begins with an ASCII character, and holds no NUL, is taken for UTF-8. -/
theorem detect_encode {c : Char} {text : List Char} (ascii : c.toNat < 0x80)
    (noNul : '\x00' ∉ c :: text) : detect (Utf8.encode (c :: text)) = (.utf8, 0) := by
  have nonzero : ∀ b ∈ Utf8.encode (c :: text), b ≠ 0 := by
    intro b member
    obtain ⟨d, among, member⟩ := List.mem_flatMap.mp member
    exact ne_zero_of_mem_encodeChar (fun nul => noNul (nul ▸ among)) member
  have lead : Utf8.encode (c :: text) = UInt8.ofNat c.toNat :: Utf8.encode text := by
    have one : c.val.toNat ≤ 0x7F := Nat.le_of_lt_succ ascii
    rw [Utf8.encode_cons, String.utf8EncodeChar, if_pos one]
    rfl
  rw [lead] at nonzero ⊢
  refine detect_of_nonzero ?_ nonzero
  rw [UInt8.lt_iff_toNat_lt, UInt8.toNat_ofNat']
  exact Nat.lt_of_le_of_lt (Nat.mod_le _ _) ascii

/-- **The octets of a plain text are read as that text.** -/
theorem decodeDetected_encode {c : Char} {text : List Char} (ascii : c.toNat < 0x80)
    (noNul : '\x00' ∉ c :: text) :
    decodeDetected (Utf8.encode (c :: text)) = .ok ((c :: text).map .char) := by
  rw [decodeDetected, detect_encode ascii noNul]
  exact Utf8.decodePassing_encode (c :: text)

end CaptureDesk.Text
