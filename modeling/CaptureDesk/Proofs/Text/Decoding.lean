import CaptureDesk.Proofs.Text.Encoding

/-!
# Octets and their texts

Cutting octets into pieces loses none of them (`flatMap_pieces`), and a character is found only
where its own octets stand.  So what the strict decoder accepts is what the encoder writes: octets
are decoded as a text just if they are the octets of that text (`decode_eq_ok_iff`).

A character under way is followed as in the encoding, the other way round: `Leads` says that
whatever octets within the bounds come next, they make the form of a character with those that have
been seen.
-/

namespace CaptureDesk.Text.Utf8

/-! ## The form of a character -/

section Forms

variable {n x : Nat} {a b c d : UInt8}

/-- A scalar value has one form. -/
theorem Form.unique {octets octets' : List UInt8} (form : Form n octets)
    (form' : Form n octets') : octets = octets' := by
  cases form <;> cases form' <;> first | rfl | omega

theorem Form.valid {octets : List UInt8} (form : Form n octets) : n.isValidChar := by
  unfold Nat.isValidChar
  cases form <;> omega

theorem toNat_ofNat (valid : n.isValidChar) : (Char.ofNat n).toNat = n := by
  rw [Char.ofNat, dif_pos valid]
  rfl

/-- The form of a scalar value is the octets of its character. -/
theorem Form.eq_encodeChar {octets : List UInt8} (form : Form n octets) :
    String.utf8EncodeChar (Char.ofNat n) = octets := by
  have found := form_encodeChar (Char.ofNat n)
  rw [toNat_ofNat form.valid] at found
  exact found.unique form

theorem tailOctet_eq (low : 0x80 ≤ b.toNat) (high : b.toNat ≤ 0xBF) {n : Nat}
    (bits : n % 64 = b.toNat - 0x80) : tailOctet n = b := by
  rw [← UInt8.toNat_inj, toNat_tailOctet]
  omega

theorem leadOctet_eq {n : Nat} (same : a.toNat = n) : UInt8.ofNat n = a := by
  rw [← same, UInt8.ofNat_toNat]

theorem form_two (lead : a.toNat = x + 0xC0) (within : 2 ≤ x ∧ x < 32)
    (second : 0x80 ≤ b.toNat ∧ b.toNat ≤ 0xBF) :
    Form (64 * x + (b.toNat - 0x80)) [a, b] := by
  have form := Form.two (n := 64 * x + (b.toNat - 0x80)) (by omega) (by omega)
  rwa [leadOctet_eq (a := a) (by omega), tailOctet_eq second.1 second.2 (by omega)] at form

theorem form_three (lead : a.toNat = x + 0xE0) (within : x < 16)
    (second : 0x80 ≤ b.toNat ∧ b.toNat ≤ 0xBF) (third : 0x80 ≤ c.toNat ∧ c.toNat ≤ 0xBF)
    (long : x = 0 → 0xA0 ≤ b.toNat) (scalar : x = 13 → b.toNat ≤ 0x9F) :
    Form (64 * (64 * x + (b.toNat - 0x80)) + (c.toNat - 0x80)) [a, b, c] := by
  generalize number : 64 * (64 * x + (b.toNat - 0x80)) + (c.toNat - 0x80) = n
  have form := Form.three (n := n) (by omega) (by omega) (by omega)
  rwa [leadOctet_eq (a := a) (by omega), tailOctet_eq second.1 second.2 (by omega),
    tailOctet_eq third.1 third.2 (by omega)] at form

theorem form_four (lead : a.toNat = x + 0xF0) (within : x < 5)
    (second : 0x80 ≤ b.toNat ∧ b.toNat ≤ 0xBF) (third : 0x80 ≤ c.toNat ∧ c.toNat ≤ 0xBF)
    (fourth : 0x80 ≤ d.toNat ∧ d.toNat ≤ 0xBF)
    (long : x = 0 → 0x90 ≤ b.toNat) (small : x = 4 → b.toNat ≤ 0x8F) :
    Form (64 * (64 * (64 * x + (b.toNat - 0x80)) + (c.toNat - 0x80)) + (d.toNat - 0x80))
      [a, b, c, d] := by
  generalize number :
    64 * (64 * (64 * x + (b.toNat - 0x80)) + (c.toNat - 0x80)) + (d.toNat - 0x80) = n
  have form := Form.four (n := n) (by omega) (by omega)
  rwa [leadOctet_eq (a := a) (by omega), tailOctet_eq second.1 second.2 (by omega),
    tailOctet_eq third.1 third.2 (by omega), tailOctet_eq fourth.1 fourth.2 (by omega)] at form

end Forms

/-! ## A character under way -/

/-- Whatever octets within the bounds come next, `missing` of them make the form of a character with
those that have been seen. -/
def Leads : Nat → Open → Prop
  | 0, _ => False
  | 1, s => s.missing = 1 ∧ ∀ b, s.low ≤ b → b ≤ s.high →
      Form (64 * s.bits + (b.toNat - 0x80)) (b :: s.seen).reverse
  | missing + 2, s => s.missing = missing + 2 ∧ ∀ b, s.low ≤ b → b ≤ s.high →
      Leads (missing + 1)
        ⟨missing + 1, 0x80, 0xBF, 64 * s.bits + (b.toNat - 0x80), b :: s.seen⟩

section Leads

variable {x : Nat} {a low high : UInt8}

theorem leads_two (lead : a.toNat = x + 0xC0) (within : 2 ≤ x ∧ x < 32) :
    Leads 1 ⟨1, 0x80, 0xBF, x, [a]⟩ := by
  refine ⟨rfl, fun b from' upTo => ?_⟩
  exact form_two lead within ⟨from', upTo⟩

theorem leads_three (lead : a.toNat = x + 0xE0) (within : x < 16)
    (tail : 0x80 ≤ low.toNat ∧ high.toNat ≤ 0xBF) (long : x = 0 → 0xA0 ≤ low.toNat)
    (scalar : x = 13 → high.toNat ≤ 0x9F) : Leads 2 ⟨2, low, high, x, [a]⟩ := by
  refine ⟨rfl, fun b from' upTo => ⟨rfl, fun c from'' upTo' => ?_⟩⟩
  have second : low.toNat ≤ b.toNat ∧ b.toNat ≤ high.toNat := ⟨from', upTo⟩
  exact form_three lead within (by omega) ⟨from'', upTo'⟩
    (fun zero => Nat.le_trans (long zero) second.1)
    (fun thirteen => Nat.le_trans second.2 (scalar thirteen))

theorem leads_four (lead : a.toNat = x + 0xF0) (within : x < 5)
    (tail : 0x80 ≤ low.toNat ∧ high.toNat ≤ 0xBF) (long : x = 0 → 0x90 ≤ low.toNat)
    (small : x = 4 → high.toNat ≤ 0x8F) : Leads 3 ⟨3, low, high, x, [a]⟩ := by
  refine ⟨rfl, fun b from' upTo => ⟨rfl, fun c from'' upTo' => ⟨rfl, fun d low' high' => ?_⟩⟩⟩
  have second : low.toNat ≤ b.toNat ∧ b.toNat ≤ high.toNat := ⟨from', upTo⟩
  exact form_four lead within (by omega) ⟨from'', upTo'⟩ ⟨low', high'⟩
    (fun zero => Nat.le_trans (long zero) second.1)
    (fun four => Nat.le_trans second.2 (small four))

end Leads

/-- A lead octet sets the bounds within which the form of a character is made. -/
theorem leads_of_begin {b : UInt8} {s : Open} (more : begin b = .more s) :
    Leads s.missing s := by
  unfold begin at more
  simp only [UInt8.lt_iff_toNat_lt, ← UInt8.toNat_inj, UInt8.reduceToNat] at more
  split at more
  · cases more
  split at more
  · cases more
  split at more
  · cases more
    exact leads_two (by omega) (by omega)
  split at more
  · cases more
    exact leads_three (by omega) (by decide) (by decide) (by decide) (by decide)
  split at more
  · cases more
    exact leads_three (by omega) (by decide) (by decide) (by decide) (by decide)
  split at more
  · cases more
    exact leads_three (by omega) (by omega) (by decide) (by omega) (by omega)
  split at more
  · cases more
    exact leads_four (by omega) (by decide) (by decide) (by decide) (by decide)
  split at more
  · cases more
    exact leads_four (by omega) (by omega) (by decide) (by omega) (by omega)
  split at more
  · cases more
    exact leads_four (by omega) (by decide) (by decide) (by decide) (by decide)
  · cases more

theorem encodeChar_of_begin {b : UInt8} {c : Char} (char : begin b = .char c) :
    String.utf8EncodeChar c = [b] := by
  unfold begin at char
  split at char
  · rename_i ascii
    cases char
    have form := Form.one (n := b.toNat) ascii
    rw [UInt8.ofNat_toNat] at form
    exact form.eq_encodeChar
  · repeat (split at char; · cases char)
    cases char

theorem seen_of_begin {b : UInt8} {s : Open} (more : begin b = .more s) : s.seen = [b] := by
  unfold begin at more
  repeat' split at more
  all_goals
    cases more
    try rfl

section Next

variable {s : Open} {b : UInt8}

/-- The last octet within the bounds completes the octets of a character. -/
theorem Leads.last (leads : Leads s.missing s) (one : s.missing = 1)
    (within : s.low ≤ b ∧ b ≤ s.high) :
    String.utf8EncodeChar (Char.ofNat (64 * s.bits + (b.toNat - 0x80))) =
      s.seen.reverse ++ [b] := by
  rw [one] at leads
  rw [(leads.2 b within.1 within.2).eq_encodeChar, List.reverse_cons]

theorem Leads.next (leads : Leads s.missing s) (more : s.missing ≠ 1)
    (within : s.low ≤ b ∧ b ≤ s.high) :
    Leads (s.missing - 1)
      ⟨s.missing - 1, 0x80, 0xBF, 64 * s.bits + (b.toNat - 0x80), b :: s.seen⟩ := by
  rcases s with ⟨_ | _ | missing, low, high, bits, seen⟩
  · exact leads.elim
  · exact absurd rfl more
  · exact leads.2 b within.1 within.2

end Next

/-! ## Cutting loses nothing -/

/-- The octets that a piece was cut from. -/
def Piece.octets : Piece → List UInt8
  | .char c => String.utf8EncodeChar c
  | .broken octets _ => octets

/-- The octets of a character under way. -/
def held : Option Open → List UInt8
  | none => []
  | some s => s.seen.reverse

/-- The octets of pieces that were found last first, with those that are held. -/
def gone (found : List Piece) (state : Option Open) : List UInt8 :=
  found.reverse.flatMap Piece.octets ++ held state

theorem gone_cons (piece : Piece) (found : List Piece) (state : Option Open) :
    gone (piece :: found) state = gone found none ++ piece.octets ++ held state := by
  simp [gone, held]

/-- The pieces that are found, and the octets that are held at the end, make up all octets. -/
theorem flatMap_cut (found : List Piece) (state : Option Open) (octets : List UInt8)
    (leads : ∀ s, state = some s → Leads s.missing s) :
    (cut found state octets).1.flatMap Piece.octets ++ held (cut found state octets).2 =
      gone found state ++ octets := by
  have fresh : ∀ s, (none : Option Open) = some s → Leads s.missing s := nofun
  fun_induction cut found state octets with
  | case1 => simp [gone]
  | case2 found s b rest within bits one ih =>
      rw [ih fresh, gone_cons, Piece.octets, (leads s rfl).last one within]
      simp [gone, held]
  | case3 found s b rest within bits more ih =>
      rw [ih ?_]
      · simp [gone, held]
      · intro under same
        cases same
        exact (leads s rfl).next more within
  | case4 found s b rest _ broken c char ih =>
      rw [ih fresh, gone_cons, Piece.octets, encodeChar_of_begin char]
      simp [broken, gone, held, Piece.octets]
  | case5 found s b rest _ broken t more ih =>
      rw [ih ?_]
      · simp [broken, gone, held, Piece.octets, seen_of_begin more]
      · intro under same
        cases same
        exact leads_of_begin more
  | case6 found s b rest _ broken _ ih =>
      rw [ih fresh]
      simp [broken, gone, held, Piece.octets]
  | case7 found b rest c char ih =>
      rw [ih fresh, gone_cons, Piece.octets, encodeChar_of_begin char]
      simp [held]
  | case8 found b rest t more ih =>
      rw [ih ?_]
      · simp [gone, held, seen_of_begin more]
      · intro under same
        cases same
        exact leads_of_begin more
  | case9 found b rest _ ih =>
      rw [ih fresh]
      simp [gone, held, Piece.octets]

/-- **The pieces of octets make up all of them.** -/
theorem flatMap_pieces (octets : List UInt8) : (pieces octets).flatMap Piece.octets = octets := by
  have whole := flatMap_cut [] none octets nofun
  unfold pieces
  split
  · rename_i found cut
    rw [cut] at whole
    simpa [gone, held] using whole
  · rename_i found s cut
    rw [cut] at whole
    simpa [gone, held, Piece.octets] using whole

/-! ## The strict decoder -/

/-- Pieces that are put together are characters. -/
theorem assemble_eq_ok {chars text : List Char} {place : Nat} {found : List Piece}
    (ok : assemble chars place found = .ok text) :
    ∃ more, text = chars.reverse ++ more ∧ found = more.map .char := by
  induction found generalizing chars place with
  | nil =>
      cases ok
      exact ⟨[], (List.append_nil _).symm, rfl⟩
  | cons piece found ih =>
      cases piece with
      | broken octets reason => cases ok
      | char c =>
          obtain ⟨more, rfl, rfl⟩ := ih ok
          exact ⟨c :: more, by simp, rfl⟩

/-- **Octets are decoded as a text just if they are the octets of that text.** -/
theorem decode_eq_ok_iff {octets : List UInt8} {text : List Char} :
    decode octets = .ok text ↔ octets = encode text := by
  constructor
  · intro ok
    obtain ⟨more, rfl, characters⟩ := assemble_eq_ok ok
    have whole := flatMap_pieces octets
    rw [characters, List.flatMap_map] at whole
    exact whole.symm
  · rintro rfl
    exact decode_encode text

end CaptureDesk.Text.Utf8
