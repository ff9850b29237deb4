/-!
# White space

Texts that come from outside are stripped of white space at both ends before they are looked at.
White space is what the Unicode character database calls so, together with the four separators
U+001C to U+001F.  The zero-width characters U+200B and U+FEFF are not white space.
-/

namespace CaptureDesk.Text

/-- Whether a character is white space. -/
def isBlank (c : Char) : Bool :=
  let n := c.toNat
  (0x09 ≤ n && n ≤ 0x0D) || (0x1C ≤ n && n ≤ 0x20) || n == 0x85 || n == 0xA0 || n == 0x1680 ||
    (0x2000 ≤ n && n ≤ 0x200A) || n == 0x2028 || n == 0x2029 || n == 0x202F || n == 0x205F ||
    n == 0x3000

/-- What is left of a text when everything blank at both ends is dropped. -/
def stripBy {α : Type} (blank : α → Bool) (text : List α) : List α :=
  ((text.dropWhile blank).reverse.dropWhile blank).reverse

/-- The characters left when the white space at both ends is dropped. -/
abbrev stripChars (text : List Char) : List Char := stripBy isBlank text

section Strip

variable {α : Type} {blank : α → Bool} {text : List α}

theorem dropWhile_eq_nil_iff : text.dropWhile blank = [] ↔ ∀ c ∈ text, blank c = true := by
  constructor
  · intro nothing
    have visible := List.any_dropWhile (p := blank) (l := text)
    rw [nothing] at visible
    simpa using visible
  · intro all
    have dropped : (text ++ []).dropWhile blank = [].dropWhile blank :=
      List.dropWhile_append_of_pos all
    rwa [List.append_nil] at dropped

/-- Nothing is left just of a text that is blank. -/
theorem stripBy_eq_nil_iff : stripBy blank text = [] ↔ ∀ c ∈ text, blank c = true := by
  rw [stripBy, List.reverse_eq_nil_iff, dropWhile_eq_nil_iff]
  simp only [List.mem_reverse]
  rw [← dropWhile_eq_nil_iff, ← dropWhile_eq_nil_iff]
  -- What is left begins with a character that is not blank.
  constructor
  · intro rest
    cases left : text.dropWhile blank with
    | nil => rfl
    | cons c text' =>
        have first := List.head?_dropWhile_not blank text
        rw [left] at first rest
        have visible : ¬ blank c = true := by simpa using first
        rw [List.dropWhile_cons_of_neg visible] at rest
        cases rest
  · intro nothing
    rw [nothing]
    rfl

/-- What is blank is dropped up to a character that is not. -/
theorem dropWhile_margin {margin : List α} {c : α} (marginBlank : ∀ d ∈ margin, blank d = true)
    (first : text.head? = some c) (visible : blank c = false) :
    (margin ++ text).dropWhile blank = text := by
  rw [List.dropWhile_append_of_pos marginBlank]
  cases text with
  | nil => cases first
  | cons d text =>
      cases first
      simp [visible]

/-- What is blank around a text that begins and ends with other characters is dropped, and nothing
else. -/
theorem stripBy_margins {before after : List α} {c d : α}
    (blankBefore : ∀ e ∈ before, blank e = true) (blankAfter : ∀ e ∈ after, blank e = true)
    (first : text.head? = some c) (last : text.getLast? = some d)
    (visible : blank c = false) (visible' : blank d = false) :
    stripBy blank (before ++ (text ++ after)) = text := by
  have start : (text ++ after).head? = some c := by rw [List.head?_append, first]; rfl
  have stop : text.reverse.head? = some d := by rw [List.head?_reverse, last]
  have ended : ∀ e ∈ after.reverse, blank e = true := fun e member =>
    blankAfter e (List.mem_reverse.mp member)
  rw [stripBy, dropWhile_margin blankBefore start visible, List.reverse_append,
    dropWhile_margin ended stop visible', List.reverse_reverse]

/-- Nothing is dropped from a text in which nothing is blank. -/
theorem stripBy_of_visible (visible : ∀ c ∈ text, blank c = false) : stripBy blank text = text := by
  cases text with
  | nil => rfl
  | cons c rest =>
      have last := List.getLast?_eq_some_getLast (List.cons_ne_nil c rest)
      have margins : stripBy blank ([] ++ (c :: rest ++ [])) = c :: rest :=
        stripBy_margins nofun nofun rfl last (visible c List.mem_cons_self)
          (visible _ (List.getLast_mem _))
      rwa [List.append_nil] at margins

end Strip

end CaptureDesk.Text
