import CaptureDesk.Proofs.Steps
import CaptureDesk.Toml.Document
import Mathlib.Data.List.TakeWhile
import Mathlib.Data.Option.Basic

/-!
# What a reader leaves of a text

Each reader of a piece of a TOML text leaves the characters after the piece.  None of those that it
passes is U+007F, since no string, comment, key or number may hold this character as it is.
-/

namespace CaptureDesk.Toml

/-- `Passes text rest`: a reader that begins at `text` has come to `rest`, and has met no U+007F on
its way. -/
def Passes (text rest : List Char) : Prop :=
  ∃ passed, text = passed ++ rest ∧ '\x7f' ∉ passed

/-- A character of a class without U+007F. -/
theorem ne_delete {p : Char → Bool} {c : Char} (holds : p c = true) (other : p '\x7f' = false) :
    c ≠ '\x7f' := by
  rintro rfl
  rw [holds] at other
  cases other

namespace Passes

variable {c : Char} {text middle rest : List Char}

theorem refl (text : List Char) : Passes text text :=
  ⟨[], rfl, List.not_mem_nil⟩

theorem trans (first : Passes text middle) (second : Passes middle rest) : Passes text rest := by
  rcases first with ⟨passed, rfl, clean⟩
  rcases second with ⟨more, rfl, clean'⟩
  exact ⟨passed ++ more, (List.append_assoc ..).symm, by simp [clean, clean']⟩

theorem cons (other : c ≠ '\x7f') (passes : Passes text rest) : Passes (c :: text) rest := by
  rcases passes with ⟨passed, rfl, clean⟩
  exact ⟨c :: passed, rfl, by simp [clean, Ne.symm other]⟩

theorem append (front : List Char) (clean : '\x7f' ∉ front) : Passes (front ++ rest) rest :=
  ⟨front, rfl, clean⟩

/-- Characters of a class without U+007F are passed. -/
theorem dropWhile {p : Char → Bool} (other : p '\x7f' = false) (text : List Char) :
    Passes text (text.dropWhile p) :=
  ⟨text.takeWhile p, List.takeWhile_append_dropWhile.symm, fun member =>
    ne_delete (List.mem_takeWhile_imp member) other rfl⟩

/-- A text that is passed as a whole does not hold U+007F. -/
theorem clean (passes : Passes text []) : '\x7f' ∉ text := by
  rcases passes with ⟨passed, rfl, clean⟩
  rwa [List.append_nil]

theorem length_le (passes : Passes text rest) : rest.length ≤ text.length := by
  rcases passes with ⟨passed, rfl, _⟩
  rw [List.length_append]
  omega

end Passes

/-! ## Gaps and comments -/

section Gaps

variable {text rest : List Char}

theorem passes_skipSpace (text : List Char) : Passes text (skipSpace text) :=
  .dropWhile (by decide) text

/-- A text in which no control character is found does not hold U+007F. -/
theorem clean_of_withoutControl {multiline : Bool} {content : List Char}
    (allowed : withoutControl multiline content text = .ok ()) : '\x7f' ∉ content := by
  unfold withoutControl at allowed
  split at allowed
  · rename_i nothing
    intro member
    have other := List.find?_eq_none.mp nothing _ member
    cases multiline <;> exact absurd other (by decide)
  · cases allowed

theorem passes_skipComment (found : skipComment text = .ok rest) : Passes text rest := by
  unfold skipComment at found
  split at found
  · rcases bind_eq_ok_iff.mp found with ⟨_, allowed, same⟩
    cases same
    exact .cons (by decide) ⟨_, List.takeWhile_append_dropWhile.symm,
      clean_of_withoutControl allowed⟩
  · cases found
    exact .refl text

theorem passes_skipGaps {fuel : Nat} (found : skipGaps fuel text = .ok rest) :
    Passes text rest := by
  induction fuel generalizing text with
  | zero =>
      cases found
      exact .refl _
  | succ fuel ih =>
      have gap := Passes.dropWhile (p := isGap) (by decide) text
      rw [skipGaps] at found
      split at found
      · rename_i comment
        rcases bind_eq_ok_iff.mp found with ⟨after, skipped, found⟩
        rw [comment] at gap
        exact gap.trans ((passes_skipComment skipped).trans (ih found))
      · cases found
        exact gap

end Gaps

/-! ## Strings -/

section Strings

variable {multiline : Bool} {text rest content : List Char}

theorem eq_append_of_splitBefore? {delimiter : List Char}
    (found : splitBefore? delimiter text = some (content, rest)) :
    text = content ++ rest ∧ delimiter <+: rest := by
  induction text generalizing content with
  | nil => cases found
  | cons c text ih =>
      unfold splitBefore? at found
      split at found
      · rename_i here
        cases found
        exact ⟨rfl, List.isPrefixOf_iff_prefix.mp here⟩
      · rcases Option.map_eq_some_iff.mp found with ⟨⟨front, back⟩, later, same⟩
        cases same
        rcases ih later with ⟨rfl, here⟩
        exact ⟨rfl, here⟩

theorem passes_literalRest (found : literalRest multiline text = .ok (content, rest)) :
    Passes text rest := by
  unfold literalRest at found
  dsimp only at found
  split at found
  · cases found
  · rename_i front back split
    rcases bind_eq_ok_iff.mp found with ⟨_, allowed, same⟩
    cases same
    rcases eq_append_of_splitBefore? split with ⟨rfl, after, rfl⟩
    refine (Passes.append _ (clean_of_withoutControl allowed)).trans ?_
    rw [List.drop_left]
    exact .append _ (by cases multiline <;> decide)

theorem clean_of_hexChar {digits : List Char} {c : Char} (found : hexChar digits rest = .ok c) :
    '\x7f' ∉ digits := by
  intro member
  have number : Text.hexNumber? digits = none := by
    rcases List.append_of_mem member with ⟨front, back, rfl⟩
    rw [Text.hexNumber?, List.foldlM_append]
    cases List.foldlM (fun n c => (Text.hexValue? c).map (16 * n + ·)) 0 front <;> rfl
  rw [hexChar, number] at found
  cases found

theorem passes_basicRest {gap : Gap} {before : List Char}
    (found : basicRest multiline gap before text = .ok (content, rest)) : Passes text rest := by
  fun_induction basicRest multiline gap before text with
  | case1 | case4 | case9 | case10 | case12 | case13 | case15 | case19 | case20 => cases found
  -- Gaps after a backslash.
  | case2 _ _ _ space ih => exact .cons (ne_delete space (by decide)) (ih found)
  | case3 _ _ _ ih => exact .cons (by decide) (ih found)
  | case5 _ _ _ _ _ past ih => exact .cons (ne_delete past.2 (by decide)) (ih found)
  -- Quotes, which end the string or belong to it.
  | case6 =>
      cases found
      exact .append ['"', '"', '"'] (by decide)
  | case7 _ _ _ _ _ _ _ ih => exact .cons (by decide) (ih found)
  | case8 =>
      cases found
      exact .append ['"'] (by decide)
  -- Escapes.
  | case11 _ _ _ a b c d rest _ char _ _ ih =>
      exact .cons (by decide) (.cons (by decide)
        ((Passes.append _ (clean_of_hexChar ‹_›)).trans (ih found)))
  | case14 _ _ _ a b c d e f g h rest _ char _ _ ih =>
      exact .cons (by decide) (.cons (by decide)
        ((Passes.append _ (clean_of_hexChar ‹_›)).trans (ih found)))
  | case16 _ _ _ _ _ _ _ line _ _ ih =>
      rcases line with ⟨_, rfl⟩
      exact .cons (by decide) (.cons (by decide) (ih found))
  | case17 _ _ _ _ _ _ _ _ space _ _ ih =>
      exact .cons (by decide) (.cons (ne_delete space.2 (by decide)) (ih found))
  | case18 _ _ _ letter _ _ _ _ _ char known _ _ ih =>
      refine .cons (by decide) (.cons ?_ (ih found))
      rintro rfl
      cases known
  -- Any other character.
  | case21 _ _ c _ _ _ _ _ allowed ih =>
      refine .cons ?_ (ih found)
      rintro rfl
      cases multiline <;> exact allowed (by decide)

theorem passes_furtherQuotes {quote : Char} (other : quote ≠ '\x7f') (content text : List Char) :
    Passes text (furtherQuotes quote content text).2 := by
  unfold furtherQuotes
  split
  · split
    · rename_i first
      subst first
      split
      · rename_i second
        subst second
        exact .cons other (.cons other (.refl _))
      · exact .cons other (.refl _)
    · exact .refl _
  · split
    · rename_i first
      subst first
      exact .cons other (.refl _)
    · exact .refl _
  · exact .refl _

theorem passes_skipFirstLine (text : List Char) : Passes text (skipFirstLine text) := by
  unfold skipFirstLine
  split
  · exact .cons (by decide) (.refl _)
  · exact .refl _

theorem passes_quoted {s : String} (found : quoted text = .ok (s, rest)) : Passes text rest := by
  unfold quoted at found
  split at found
  · rcases bind_eq_ok_iff.mp found with ⟨⟨content, after⟩, read, same⟩
    cases same
    exact (Passes.append ['"', '"', '"'] (by decide)).trans
      ((passes_skipFirstLine _).trans
        ((passes_basicRest read).trans (passes_furtherQuotes (by decide) content after)))
  · rcases bind_eq_ok_iff.mp found with ⟨⟨content, after⟩, read, same⟩
    cases same
    exact (Passes.append ['\'', '\'', '\''] (by decide)).trans
      ((passes_skipFirstLine _).trans
        ((passes_literalRest read).trans (passes_furtherQuotes (by decide) content after)))
  · rcases bind_eq_ok_iff.mp found with ⟨⟨content, after⟩, read, same⟩
    cases same
    exact .cons (by decide) (passes_basicRest read)
  · rcases bind_eq_ok_iff.mp found with ⟨⟨content, after⟩, read, same⟩
    cases same
    exact .cons (by decide) (passes_literalRest read)
  · cases found

/-! ## Keys -/

theorem passes_keyPart {part : String} (found : keyPart text = .ok (part, rest)) :
    Passes text rest := by
  unfold keyPart at found
  split at found
  · rcases bind_eq_ok_iff.mp found with ⟨⟨content, after⟩, read, same⟩
    cases same
    exact .cons (by decide) (passes_basicRest read)
  · rcases bind_eq_ok_iff.mp found with ⟨⟨content, after⟩, read, same⟩
    cases same
    exact .cons (by decide) (passes_literalRest read)
  · split at found
    · cases found
    · cases found
      exact .dropWhile (by decide) text

theorem passes_key {fuel : Nat} {parts : Key} (found : key fuel text = .ok (parts, rest)) :
    Passes text rest := by
  induction fuel generalizing text parts with
  | zero => cases found
  | succ fuel ih =>
      rw [key] at found
      rcases bind_eq_ok_iff.mp found with ⟨⟨part, after⟩, read, found⟩
      have passed := (passes_keyPart read).trans (passes_skipSpace after)
      dsimp only at found
      split at found
      · rename_i dot
        rcases bind_eq_ok_iff.mp found with ⟨⟨others, last⟩, read', same⟩
        cases same
        rw [dot] at passed
        exact passed.trans (.cons (by decide) ((passes_skipSpace _).trans (ih read')))
      · cases found
        exact passed

end Strings

/-! ## Moments -/

section Moments

variable {text rest : List Char}

theorem passes_twoDigits? {low high n : Nat} (found : twoDigits? low high text = some (n, rest)) :
    Passes text rest := by
  unfold twoDigits? at found
  split at found
  · dsimp only at found
    split at found
    · rename_i both
      simp only [Bool.and_eq_true] at both
      cases found
      exact .cons (ne_delete both.1.1.1 (by decide)) (.cons (ne_delete both.1.1.2 (by decide))
        (.refl _))
    · cases found
  · cases found

theorem passes_after? {c : Char} (other : c ≠ '\x7f') (found : after? c text = some rest) :
    Passes text rest := by
  unfold after? at found
  split at found
  · split at found
    · rename_i same
      cases found
      exact .cons (same ▸ other) (.refl _)
    · cases found
  · cases found

theorem passes_date? {d : Date} (found : date? text = some (d, rest)) : Passes text rest := by
  unfold date? at found
  simp only [Option.bind_eq_bind, Option.bind_eq_some_iff] at found
  rcases found with ⟨_, digits, after, dash, ⟨month, after'⟩, inYear, after'', dash', ⟨day, last⟩,
    inMonth, same⟩
  cases same
  have year : '\x7f' ∉ text.take 4 := by
    intro member
    have allDigits := ((Option.guard_eq_some' _).mp digits).2
    exact ne_delete (List.all_eq_true.mp allDigits _ member) (by decide) rfl
  have front : Passes (text.take 4 ++ text.drop 4) (text.drop 4) := .append _ year
  rw [List.take_append_drop] at front
  exact front.trans ((passes_after? (by decide) dash).trans ((passes_twoDigits? inYear).trans
    ((passes_after? (by decide) dash').trans (passes_twoDigits? inMonth))))

theorem passes_micros (text : List Char) : Passes text (micros text).2 := by
  unfold micros
  split
  · split
    · exact .refl _
    · exact .cons (by decide) (.dropWhile (by decide) _)
  · exact .refl _

/-- An hour and a minute with a colon between them. -/
theorem passes_hourMinute {hour minute : Nat} {after after' : List Char}
    (inDay : twoDigits? 0 23 text = some (hour, after)) (colon : after? ':' after = some after')
    (inHour : twoDigits? 0 59 after' = some (minute, rest)) : Passes text rest :=
  (passes_twoDigits? inDay).trans ((passes_after? (by decide) colon).trans
    (passes_twoDigits? inHour))

theorem passes_clock? {t : Clock} (found : clock? text = some (t, rest)) : Passes text rest := by
  unfold clock? at found
  simp only [Option.bind_eq_bind, Option.bind_eq_some_iff] at found
  rcases found with ⟨⟨hour, _⟩, inDay, _, colon, ⟨minute, _⟩, inHour, _, colon', ⟨second, last⟩,
    inMinute, same⟩
  cases same
  exact (passes_hourMinute inDay colon inHour).trans ((passes_after? (by decide) colon').trans
    ((passes_twoDigits? inMinute).trans (passes_micros last)))

theorem passes_offset (text : List Char) : Passes text (offset text).2 := by
  unfold offset
  dsimp only
  split
  · rename_i found
    split at found
    · cases found
      exact .cons (by decide) (.refl _)
    · cases found
      exact .cons (by decide) (.refl _)
    · simp only [Option.bind_eq_bind, Option.bind_eq_some_iff] at found
      rcases found with ⟨⟨hour, _⟩, inDay, _, colon, ⟨minute, _⟩, inHour, same⟩
      cases same
      exact .cons (by decide) (passes_hourMinute inDay colon inHour)
    · simp only [Option.bind_eq_bind, Option.bind_eq_some_iff] at found
      rcases found with ⟨⟨hour, _⟩, inDay, _, colon, ⟨minute, _⟩, inHour, same⟩
      cases same
      exact .cons (by decide) (passes_hourMinute inDay colon inHour)
    · cases found
  · exact .refl _

theorem passes_clockAfter? {t : Clock} (found : clockAfter? text = some (t, rest)) :
    Passes text rest := by
  unfold clockAfter? at found
  split at found
  · exact .cons (by decide) (passes_clock? found)
  · exact .cons (by decide) (passes_clock? found)
  · exact .cons (by decide) (passes_clock? found)
  · cases found

theorem passes_moment? {m : Moment} (found : moment? text = some (.ok (m, rest))) :
    Passes text rest := by
  unfold moment? at found
  split at found
  · rename_i date after inText
    have front := passes_date? inText
    have found := Option.some.inj found
    split at found
    · cases found
    · split at found
      · cases found
        exact front
      · rename_i clock inDay
        cases found
        exact front.trans ((passes_clockAfter? inDay).trans (passes_offset _))
  · rcases Option.map_eq_some_iff.mp found with ⟨⟨clock, after⟩, inDay, same⟩
    cases same
    exact passes_clock? inDay

end Moments

/-! ## Numbers -/

section Numbers

variable {text rest digits : List Char}

theorem passes_groupedRest {isDigit : Char → Bool} (other : isDigit '\x7f' = false)
    (text : List Char) : Passes text (groupedRest isDigit text).2 := by
  fun_induction groupedRest isDigit text with
  | case1 d rest yes digits after read ih =>
      rw [read] at ih
      exact .cons (by decide) (.cons (ne_delete yes other) ih)
  | case3 d rest _ yes digits after read ih =>
      rw [read] at ih
      exact .cons (ne_delete yes other) ih
  | case2 | case4 | case5 => exact .refl _

theorem passes_grouped? {isDigit : Char → Bool} (other : isDigit '\x7f' = false)
    (found : grouped? isDigit text = some (digits, rest)) : Passes text rest := by
  unfold grouped? at found
  split at found
  · split at found
    · rename_i d after yes
      cases found
      exact .cons (ne_delete yes other) (passes_groupedRest other after)
    · cases found
  · cases found

theorem passes_basedNumber? {n : Int} (found : basedNumber? text = some (n, rest)) :
    Passes text rest := by
  unfold basedNumber? at found
  dsimp only at found
  split at found
  · rcases Option.bind_eq_some_iff.mp found with ⟨_, read, same⟩
    cases same
    exact .cons (by decide) (.cons (by decide) (passes_grouped? (by decide) read))
  · rcases Option.bind_eq_some_iff.mp found with ⟨_, read, same⟩
    cases same
    exact .cons (by decide) (.cons (by decide) (passes_grouped? (by decide) read))
  · rcases Option.bind_eq_some_iff.mp found with ⟨_, read, same⟩
    cases same
    exact .cons (by decide) (.cons (by decide) (passes_grouped? (by decide) read))
  · cases found

theorem passes_sign (text : List Char) : Passes text (sign text).2 := by
  unfold sign
  split
  · exact .cons (by decide) (.refl _)
  · exact .cons (by decide) (.refl _)
  · exact .refl _

theorem passes_whole? (found : whole? text = some (digits, rest)) : Passes text rest := by
  unfold whole? at found
  split at found
  · cases found
    exact .cons (by decide) (.refl _)
  · exact passes_grouped? (by decide) found

theorem passes_fraction? (found : fraction? text = some (digits, rest)) : Passes text rest := by
  unfold fraction? at found
  split at found
  · exact .cons (by decide) (passes_grouped? (by decide) found)
  · cases found

theorem passes_exponent? {n : Int} (found : exponent? text = some (n, rest)) :
    Passes text rest := by
  unfold exponent? at found
  split at found
  · rename_i after
    rcases Option.bind_eq_some_iff.mp found with ⟨_, read, same⟩
    cases same
    exact .cons (by decide) ((passes_sign after).trans (passes_grouped? (by decide) read))
  · rename_i after
    rcases Option.bind_eq_some_iff.mp found with ⟨_, read, same⟩
    cases same
    exact .cons (by decide) ((passes_sign after).trans (passes_grouped? (by decide) read))
  · cases found

theorem passes_decimal? {v : Value} (found : decimal? text = some (.ok (v, rest))) :
    Passes text rest := by
  unfold decimal? at found
  rcases Option.bind_eq_some_iff.mp found with ⟨⟨digits, after⟩, whole, found⟩
  have front := (passes_sign text).trans (passes_whole? whole)
  dsimp only at found
  split at found
  · rename_i fraction
    have front := front.trans (passes_fraction? fraction)
    split at found
    · rename_i exponent
      cases found
      exact front.trans (passes_exponent? exponent)
    · cases found
      exact front
  · split at found
    · rename_i exponent
      cases found
      exact front.trans (passes_exponent? exponent)
    · split at found
      · cases found
      · cases found
        exact front

theorem passes_special? {v : Value} (found : special? text = some (v, rest)) :
    Passes text rest := by
  have signed := passes_sign text
  unfold special? at found
  dsimp only at found
  split at found
  · rename_i word
    rw [word] at signed
    cases found
    exact signed.trans (.append ['i', 'n', 'f'] (by decide))
  · rename_i word
    rw [word] at signed
    cases found
    exact signed.trans (.append ['n', 'a', 'n'] (by decide))
  · cases found

end Numbers

theorem passes_scalar {text rest : List Char} {v : Value} (found : scalar text = .ok (v, rest)) :
    Passes text rest := by
  unfold scalar at found
  split at found
  · cases found
    exact .append ['t', 'r', 'u', 'e'] (by decide)
  · cases found
    exact .append ['f', 'a', 'l', 's', 'e'] (by decide)
  · split at found
    · rename_i read
      cases found
      exact passes_moment? read
    · cases found
    · split at found
      · rename_i read
        cases found
        exact passes_basedNumber? read
      · split at found
        · rename_i read
          rw [found] at read
          exact passes_decimal? read
        · split at found
          · rename_i read
            cases found
            exact passes_special? read
          · cases found

end CaptureDesk.Toml
