import CaptureDesk.Proofs.Toml.Keyed

/-!
# Numerals that are too long

A text is refused as TOML, or it is given up because a whole number in it has more digits than are
converted.  The second happens in one place only, where a decimal whole number is read, so a text
that is given up holds such a numeral (`holdsLong_of_read`).

The readers of keys, strings, comments and gaps, and all that puts an entry into its table, refuse
at most (`Plain`).  What is left is to follow the readers that come to a number.
-/

namespace CaptureDesk.Toml

open Json (digitLimit)

/-- In a text stand more digits in a row than are converted.  Underscores may group them. -/
def HoldsLong (text : List Char) : Prop :=
  ∃ front numeral back, text = front ++ (numeral ++ back) ∧
    (∀ c ∈ numeral, c.isDigit = true ∨ c = '_') ∧ digitLimit < numeral.countP Char.isDigit

theorem HoldsLong.of_passes {text rest : List Char} (holds : HoldsLong rest)
    (passes : Passes text rest) : HoldsLong text := by
  rcases holds with ⟨front, numeral, back, rfl, digits, long⟩
  rcases passes with ⟨passed, rfl, -⟩
  exact ⟨passed ++ front, numeral, back, (List.append_assoc ..).symm, digits, long⟩

/-! ## Readers that refuse at most -/

/-- A reading that is not given up for a numeral that is too long. -/
def Plain {α : Type} (reading : Except Fault α) : Prop :=
  ∀ count, reading ≠ .error (.tooManyDigits count)

namespace Plain

variable {α β : Type} {x : Except Fault α}

theorem ok (a : α) : Plain (.ok a) := nofun

theorem refuse (complaint : Complaint) (rest : List Char) :
    Plain (refuse complaint rest : Except Fault α) := nofun

theorem bind {f : α → Except Fault β} (first : Plain x) (second : ∀ a, Plain (f a)) :
    Plain (x >>= f) := by
  intro count found
  rcases bind_eq_error_iff.mp found with found | ⟨a, _, found⟩
  · exact first count found
  · exact second a count found

/-- A fault is plain whatever was to be read. -/
theorem error {fault : Fault} (plain : Plain (.error fault : Except Fault α)) :
    Plain (.error fault : Except Fault β) := by
  intro count given
  cases given
  exact plain count rfl

theorem map {f : α → β} (plain : Plain x) : Plain (f <$> x) := by
  cases x with
  | ok a => exact nofun
  | error fault => exact plain.error

end Plain

section Refuses

variable {text rest : List Char}

theorem plain_withoutControl (multiline : Bool) (content text : List Char) :
    Plain (withoutControl multiline content text) := by
  unfold withoutControl
  split
  · exact .ok _
  · exact .refuse _ _

theorem plain_skipComment (text : List Char) : Plain (skipComment text) := by
  unfold skipComment
  split
  · exact .bind (plain_withoutControl _ _ _) fun _ => .ok _
  · exact .ok _

theorem plain_skipGaps (fuel : Nat) (text : List Char) : Plain (skipGaps fuel text) := by
  induction fuel generalizing text with
  | zero => exact .ok _
  | succ fuel ih =>
      rw [skipGaps]
      split
      · exact .bind (plain_skipComment _) fun _ => ih _
      · exact .ok _

theorem plain_literalRest (multiline : Bool) (text : List Char) :
    Plain (literalRest multiline text) := by
  unfold literalRest
  dsimp only
  split
  · exact .refuse _ _
  · exact .bind (plain_withoutControl _ _ _) fun _ => .ok _

theorem plain_hexChar (digits rest : List Char) : Plain (hexChar digits rest) := by
  unfold hexChar
  split
  · exact .refuse _ _
  · split
    · exact .ok _
    · exact .refuse _ _

theorem plain_basicRest (multiline : Bool) (gap : Gap) (before text : List Char) :
    Plain (basicRest multiline gap before text) := by
  fun_induction basicRest multiline gap before text with
  | case1 | case4 | case9 | case12 | case15 | case19 | case20 => exact .refuse _ _
  | case6 | case8 => exact .ok _
  | case10 | case13 =>
      intro count given
      cases given
      exact plain_hexChar _ _ count ‹_›
  | _ => assumption

theorem plain_quoted (text : List Char) : Plain (quoted text) := by
  unfold quoted
  split
  · exact .bind (plain_basicRest _ _ _ _) fun _ => .ok _
  · exact .bind (plain_literalRest _ _) fun _ => .ok _
  · exact .bind (plain_basicRest _ _ _ _) fun _ => .ok _
  · exact .bind (plain_literalRest _ _) fun _ => .ok _
  · exact .refuse _ _

theorem plain_keyPart (text : List Char) : Plain (keyPart text) := by
  unfold keyPart
  split
  · exact .bind (plain_basicRest _ _ _ _) fun _ => .ok _
  · exact .bind (plain_literalRest _ _) fun _ => .ok _
  · split
    · exact .refuse _ _
    · exact .ok _

theorem plain_key (fuel : Nat) (text : List Char) : Plain (key fuel text) := by
  induction fuel generalizing text with
  | zero => exact .refuse _ _
  | succ fuel ih =>
      rw [key]
      refine .bind (plain_keyPart text) fun read => ?_
      dsimp only
      split
      · exact .bind (ih _) fun _ => .ok _
      · exact .ok _

end Refuses

section Tables

variable {t : Table Value} {v : Value}

theorem plain_descend {change : Table Value → Except Fault (Table Value)}
    (plain : ∀ t, Plain (change t)) (arrays : Bool) {blocked : Fault}
    (refused : Plain (.error blocked : Except Fault Unit)) (parts : Key) (t : Table Value) :
    Plain (descend arrays change blocked parts t) := by
  have stopped : ∀ {α : Type}, Plain (.error blocked : Except Fault α) := refused.error
  induction parts generalizing t with
  | nil => exact plain t
  | cons part parts ih =>
      rw [descend]
      split
      · exact .bind (.map (ih _)) fun _ => .ok _
      · exact .bind (.map (ih _)) fun _ => .ok _
      · split
        · exact .bind (ih _) fun _ => .ok _
        · exact stopped
      · exact stopped

theorem plain_put (t : Table Value) (key : String) (v : Value) (complaint : Complaint)
    (rest : List Char) :
    Plain (if t.has key then .error (.malformed complaint rest) else .ok (t.put key v)) := by
  split
  · exact .refuse _ _
  · exact .ok _

theorem plain_putInline (frozen : List Key) (t : Table Value) (key : Key) (v : Value)
    (rest : List Char) : Plain (putInline frozen t key v rest) := by
  unfold putInline
  dsimp only
  split
  · exact .refuse _ _
  · exact plain_descend (fun t => plain_put t _ v _ _) false (.refuse _ _) _ _

namespace Draft

variable (d : Draft) (key : Key) (rest : List Char)

theorem plain_enter (v : Value) : Plain (d.enter key v rest) := by
  unfold enter
  dsimp only
  split
  · exact .refuse _ _
  · split
    · exact .refuse _ _
    · exact .bind (plain_descend (fun t => plain_put t _ v _ _) true (.refuse _ _) _ _) fun _ =>
        .ok _

theorem plain_beginTable : Plain (d.beginTable key rest) := by
  unfold beginTable
  split
  · exact .refuse _ _
  · exact .bind (plain_descend Plain.ok true (.refuse _ _) _ _) fun _ => .ok _

theorem plain_beginItem : Plain (d.beginItem key rest) := by
  unfold beginItem
  dsimp only
  split
  · exact .refuse _ _
  · refine .bind (plain_descend (fun t => ?_) true (.refuse _ _) _ _) fun _ => .ok _
    split
    · exact .ok _
    · exact .ok _
    · exact .refuse _ _

theorem plain_readHeader (text : List Char) : Plain (d.readHeader text) := by
  unfold readHeader
  dsimp only
  split
  · refine .bind (plain_key _ _) fun read => .bind (plain_beginItem _ _ _) fun next => ?_
    split
    · exact .ok _
    · exact .refuse _ _
  · refine .bind (plain_key _ _) fun read => .bind (plain_beginTable _ _ _) fun next => ?_
    split
    · exact .ok _
    · exact .refuse _ _

end Draft

end Tables

/-! ## Numbers -/

section Numbers

variable {text rest digits : List Char} {count : Nat}

/-- `Spells numeral digits`: the digits of a numeral, which may be grouped, are `digits`. -/
structure Spells (numeral digits : List Char) : Prop where
  each : ∀ c ∈ numeral, c.isDigit = true ∨ c = '_'
  count : numeral.countP Char.isDigit = digits.length

theorem Spells.nil : Spells [] [] where
  each := by simp
  count := rfl

theorem Spells.digit {numeral : List Char} (spells : Spells numeral digits) {d : Char}
    (digit : d.isDigit = true) : Spells (d :: numeral) (d :: digits) where
  each := List.forall_mem_cons.mpr ⟨Or.inl digit, spells.each⟩
  count := by rw [List.countP_cons_of_pos digit, spells.count, List.length_cons]

theorem Spells.underscore {numeral : List Char} (spells : Spells numeral digits) :
    Spells ('_' :: numeral) digits where
  each := List.forall_mem_cons.mpr ⟨Or.inr rfl, spells.each⟩
  count := by rw [List.countP_cons_of_neg (by decide), spells.count]

theorem spells_groupedRest (text : List Char) :
    ∃ numeral, text = numeral ++ (groupedRest Char.isDigit text).2 ∧
      Spells numeral (groupedRest Char.isDigit text).1 := by
  fun_induction groupedRest Char.isDigit text with
  | case1 d rest yes digits after read ih =>
      rw [read] at ih
      rcases ih with ⟨numeral, same, spells⟩
      exact ⟨'_' :: d :: numeral, by rw [same]; rfl, (spells.digit yes).underscore⟩
  | case3 d rest _ yes digits after read ih =>
      rw [read] at ih
      rcases ih with ⟨numeral, same, spells⟩
      exact ⟨d :: numeral, by rw [same]; rfl, spells.digit yes⟩
  | case2 | case4 | case5 => exact ⟨[], rfl, .nil⟩

theorem spells_grouped? (found : grouped? Char.isDigit text = some (digits, rest)) :
    ∃ numeral, text = numeral ++ rest ∧ Spells numeral digits := by
  unfold grouped? at found
  split at found
  · split at found
    · rename_i d after yes
      cases found
      rcases spells_groupedRest after with ⟨numeral, same, spells⟩
      exact ⟨d :: numeral, congrArg (d :: ·) same, spells.digit yes⟩
    · cases found
  · cases found

theorem spells_whole? (found : whole? text = some (digits, rest)) :
    ∃ numeral, text = numeral ++ rest ∧ Spells numeral digits := by
  unfold whole? at found
  split at found
  · cases found
    exact ⟨['0'], rfl, Spells.nil.digit rfl⟩
  · exact spells_grouped? found

/-- The one place where a text is given up. -/
theorem holdsLong_of_decimal? (found : decimal? text = some (.error (.tooManyDigits count))) :
    HoldsLong text := by
  unfold decimal? at found
  rcases Option.bind_eq_some_iff.mp found with ⟨⟨digits, after⟩, whole, found⟩
  rcases spells_whole? whole with ⟨numeral, same, spells⟩
  dsimp only at found
  split at found
  · split at found <;> cases found
  · split at found
    · cases found
    · split at found
      · rename_i long
        refine HoldsLong.of_passes ⟨[], numeral, after, same, spells.each, ?_⟩ (passes_sign text)
        rwa [spells.count]
      · cases found

theorem plain_moment? {reading : Except Fault (Moment × List Char)}
    (found : moment? text = some reading) : Plain reading := by
  unfold moment? at found
  split at found
  · have found := Option.some.inj found
    rw [← found]
    split
    · exact .refuse _ _
    · split <;> exact .ok _
  · rcases Option.map_eq_some_iff.mp found with ⟨_, _, same⟩
    rw [← same]
    exact .ok _

theorem holdsLong_of_scalar (found : scalar text = .error (.tooManyDigits count)) :
    HoldsLong text := by
  unfold scalar at found
  split at found
  · cases found
  · cases found
  · split at found
    · cases found
    · rename_i fault wrong
      cases found
      exact absurd rfl (plain_moment? wrong count)
    · split at found
      · cases found
      · split at found
        · rename_i read
          rw [found] at read
          exact holdsLong_of_decimal? read
        · split at found <;> cases found

end Numbers

/-! ## Values -/

section Values

variable {fuel count : Nat} {text : List Char}

/-- The readers that call one another give a text up only for a numeral that is too long. -/
structure GivesUp (fuel : Nat) : Prop where
  value {text : List Char} {count : Nat} :
    value fuel text = .error (.tooManyDigits count) → HoldsLong text
  elements {before : List Value} {text : List Char} {count : Nat} :
    elements fuel before text = .error (.tooManyDigits count) → HoldsLong text
  inline {frozen : List Key} {before : Table Value} {text : List Char} {count : Nat} :
    inline fuel frozen before text = .error (.tooManyDigits count) → HoldsLong text
  entry {text : List Char} {count : Nat} :
    entry fuel text = .error (.tooManyDigits count) → HoldsLong text

theorem GivesUp.value_succ (up : GivesUp fuel)
    (found : Toml.value (fuel + 1) text = .error (.tooManyDigits count)) : HoldsLong text := by
  rw [Toml.value.eq_def] at found
  dsimp only at found
  split at found
  · split at found
    · rename_i read
      cases found
      exact absurd read (plain_quoted _ count)
    · cases found
  · split at found
    · rename_i read
      cases found
      exact absurd read (plain_quoted _ count)
    · cases found
  · split at found
    · rename_i read
      cases found
      exact absurd read (plain_skipGaps _ _ count)
    · cases found
    · rename_i skipped
      exact (up.elements found).of_passes (.cons (by decide) (passes_skipGaps skipped))
  · rename_i inside
    have gap := passes_skipSpace inside
    split at found
    · cases found
    · exact (up.inline found).of_passes (.cons (by decide) gap)
  · exact holdsLong_of_scalar found

theorem GivesUp.elements_succ (up : GivesUp fuel) {before : List Value}
    (found : Toml.elements (fuel + 1) before text = .error (.tooManyDigits count)) :
    HoldsLong text := by
  rw [Toml.elements] at found
  split at found
  · rename_i read
    cases found
    exact up.value read
  · rename_i item after read
    have passes := ((sound fuel).value read).1
    split at found
    · rename_i skipped
      cases found
      exact absurd skipped (plain_skipGaps _ _ count)
    · cases found
    · rename_i skipped
      have passes := passes.trans ((passes_skipGaps skipped).trans (.cons (by decide) (.refl _)))
      split at found
      · rename_i skipped
        cases found
        exact absurd skipped (plain_skipGaps _ _ count)
      · cases found
      · rename_i skipped
        exact (up.elements found).of_passes (passes.trans (passes_skipGaps skipped))
    · cases found

theorem GivesUp.inline_succ (up : GivesUp fuel) {frozen : List Key} {before : Table Value}
    (found : Toml.inline (fuel + 1) frozen before text = .error (.tooManyDigits count)) :
    HoldsLong text := by
  rw [Toml.inline] at found
  split at found
  · rename_i read
    cases found
    exact up.entry read
  · rename_i key item after read
    have passes := ((sound fuel).entry read).1.trans (passes_skipSpace after)
    split at found
    · rename_i entered
      cases found
      exact absurd entered (plain_putInline _ _ _ _ _ count)
    · split at found
      · cases found
      · rename_i skipped
        rw [skipped] at passes
        exact (up.inline found).of_passes
          (passes.trans (.cons (by decide) (passes_skipSpace _)))
      · cases found

theorem GivesUp.entry_succ (up : GivesUp fuel)
    (found : Toml.entry (fuel + 1) text = .error (.tooManyDigits count)) : HoldsLong text := by
  rw [Toml.entry] at found
  split at found
  · rename_i read
    cases found
    exact absurd read (plain_key _ _ count)
  · rename_i read
    split at found
    · rename_i given
      cases found
      exact (up.value given).of_passes
        ((passes_key read).trans (.cons (by decide) (passes_skipSpace _)))
    · cases found
  · cases found

theorem givesUp : ∀ fuel, GivesUp fuel
  | 0 => ⟨nofun, nofun, nofun, nofun⟩
  | fuel + 1 =>
      have ih := givesUp fuel
      ⟨ih.value_succ, ih.elements_succ, ih.inline_succ, ih.entry_succ⟩

end Values

/-! ## Documents -/

namespace Draft

variable {d : Draft} {text : List Char} {count : Nat}

theorem holdsLong_of_readStatement
    (found : d.readStatement text = .error (.tooManyDigits count)) : HoldsLong text := by
  unfold readStatement at found
  split at found
  · exact absurd found (d.plain_readHeader _ count)
  · cases found
  · split at found
    · rcases bind_eq_error_iff.mp found with found | ⟨⟨⟨key, v⟩, after⟩, read, found⟩
      · exact (givesUp _).entry found
      · rcases bind_eq_error_iff.mp found with found | ⟨next, _, found⟩
        · exact absurd found (d.plain_enter key after v count)
        · cases found
    · cases found
  · cases found

theorem holdsLong_of_readAll {fuel : Nat} (keyed : Keyed (.object d.tables))
    (found : d.readAll fuel text = .error (.tooManyDigits count)) : HoldsLong text := by
  induction fuel generalizing d text with
  | zero => cases found
  | succ fuel ih =>
      have blank := passes_skipSpace text
      rw [readAll] at found
      split at found
      · cases found
      · rename_i after line
        rw [line] at blank
        exact (ih keyed found).of_passes (blank.trans (.cons (by decide) (.refl _)))
      · rcases bind_eq_error_iff.mp found with found | ⟨⟨next, after⟩, read, found⟩
        · exact (holdsLong_of_readStatement found).of_passes blank
        rcases bind_eq_error_iff.mp found with found | ⟨last, comment, found⟩
        · exact absurd found (plain_skipComment _ count)
        rcases passes_readStatement keyed read with ⟨statement, keyed⟩
        have passes := blank.trans (statement.trans
          ((passes_skipSpace after).trans (passes_skipComment comment)))
        split at found
        · cases found
        · exact (ih keyed found).of_passes (passes.trans (.cons (by decide) (.refl _)))
        · cases found

end Draft

/-- **A text that is given up holds a numeral that is too long.** -/
theorem holdsLong_of_read {text : List Char} {count : Nat}
    (found : read text = .error (.tooManyDigits count)) : HoldsLong text := by
  rcases bind_eq_error_iff.mp found with found | ⟨_, _, found⟩
  · exact Draft.holdsLong_of_readAll keyed_empty found
  · cases found

end CaptureDesk.Toml
