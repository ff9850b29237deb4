import CaptureDesk.Proofs.Text.Surrogates
import CaptureDesk.Proofs.Toml.Passed
import Mathlib.Data.List.Nodup

/-!
# What a document gives

The tables of a document, at every depth, have no key twice, and no surrogate stands in any of its
strings or keys (`Keyed`).  A text that is read as a document does not hold U+007F.  Both are
followed through the readers together: what one of them leaves of the text, and that the value it
gives is in order (`Sound`).
-/

namespace CaptureDesk.Toml

/-- No table in a value has a key twice, and no surrogate stands in a string or a key of it. -/
inductive Keyed : Value → Prop
  | leaf {v : Value} (plain : isContainer v = false) (smooth : v.holdsSurrogate = false) : Keyed v
  | array {items : List Value} (each : ∀ v ∈ items, Keyed v) : Keyed (.array items)
  | table {fields : Table Value} (distinct : (fields.map (·.1)).Nodup)
      (smooth : ∀ field ∈ fields, field.1.isRough = false)
      (each : ∀ field ∈ fields, Keyed field.2) : Keyed (.object fields)

section Tables

variable {t : Table Value} {v : Value}

theorem Keyed.distinct (keyed : Keyed (.object t)) : (t.map (·.1)).Nodup := by
  cases keyed with
  | leaf plain => cases plain
  | table distinct => exact distinct

theorem Keyed.smooth (keyed : Keyed (.object t)) : ∀ field ∈ t, field.1.isRough = false := by
  cases keyed with
  | leaf plain => cases plain
  | table _ smooth => exact smooth

theorem Keyed.fields (keyed : Keyed (.object t)) : ∀ field ∈ t, Keyed field.2 := by
  cases keyed with
  | leaf plain => cases plain
  | table _ _ each => exact each

theorem Keyed.items {items : List Value} (keyed : Keyed (.array items)) :
    ∀ v ∈ items, Keyed v := by
  cases keyed with
  | leaf plain => cases plain
  | array each => exact each

theorem keyed_empty : Keyed (.object []) :=
  .table List.nodup_nil nofun nofun

/-- No surrogate stands in a value that is in order. -/
theorem Keyed.holdsSurrogate (keyed : Keyed v) : v.holdsSurrogate = false := by
  induction keyed with
  | leaf _ smooth => exact smooth
  | array _ ih =>
      rw [Value.holdsSurrogate, Value.itemsHoldSurrogate_eq_any, List.any_eq_false]
      intro v member
      rw [ih v member]
      exact Bool.false_ne_true
  | table _ smooth _ ih =>
      rw [Value.holdsSurrogate, Value.fieldsHoldSurrogate_eq_any, List.any_eq_false]
      intro field member
      rw [smooth field member, ih field member]
      exact Bool.false_ne_true

theorem Keyed.get? {key : Str} (keyed : Keyed (.object t)) (found : t.get? key = some v) :
    Keyed v :=
  keyed.fields _ (Table.mem_of_get? found)

theorem Keyed.put (keyed : Keyed (.object t)) (key : String) (value : Keyed v) :
    Keyed (.object (t.put key v)) := by
  refine .table ?_ (fun field member => ?_) fun field member => ?_
  · rw [Table.keys_put]
    split
    · exact keyed.distinct
    · rename_i fresh
      exact keyed.distinct.append (List.nodup_singleton _) (List.disjoint_singleton.mpr fresh)
  · rcases Table.eq_or_mem_of_mem_put member with rfl | member
    · rfl
    · exact keyed.smooth field member
  · rcases Table.eq_or_mem_of_mem_put member with rfl | member
    · exact value
    · exact keyed.fields field member

/-- A change keeps tables without a key that is there twice. -/
def KeepsKeys (change : Table Value → Except Fault (Table Value)) : Prop :=
  ∀ t t', Keyed (.object t) → change t = .ok t' → Keyed (.object t')

/-- A change at the end of a key does so if it does so there. -/
theorem KeepsKeys.descend {change : Table Value → Except Fault (Table Value)}
    (keeps : KeepsKeys change) (arrays : Bool) (blocked : Fault) (parts : Key) :
    KeepsKeys (Toml.descend arrays change blocked parts) := by
  induction parts with
  | nil => exact keeps
  | cons part parts ih =>
      intro t t' keyed found
      rw [Toml.descend] at found
      split at found
      · rcases bind_eq_ok_iff.mp found with ⟨_, made, same⟩
        rcases map_eq_ok_iff.mp made with ⟨fields, changed, rfl⟩
        cases same
        exact keyed.put part (ih _ _ keyed_empty changed)
      · rename_i there
        rcases bind_eq_ok_iff.mp found with ⟨_, made, same⟩
        rcases map_eq_ok_iff.mp made with ⟨fields, changed, rfl⟩
        cases same
        exact keyed.put part (ih _ _ (keyed.get? there) changed)
      · rename_i items there
        have each := (keyed.get? there).items
        split at found
        · rename_i last
          have last := List.mem_of_getLast? last
          rcases bind_eq_ok_iff.mp found with ⟨fields, changed, same⟩
          cases same
          refine keyed.put part (.array fun v member => ?_)
          rcases List.mem_append.mp member with member | member
          · exact each v (List.dropLast_subset items member)
          · rw [List.mem_singleton.mp member]
            exact ih _ _ (each _ last) changed
        · cases found
      · cases found

/-- Putting a value at a key that was free does so. -/
theorem keepsKeys_put (last : String) (value : Keyed v) (blocked : Fault) :
    KeepsKeys fun t : Table Value => if t.has last then .error blocked else .ok (t.put last v) := by
  intro t t' keyed found
  dsimp only at found
  split at found
  · cases found
  · cases found
    exact keyed.put last value

end Tables

/-! ## Values -/

section Values

variable {fuel : Nat} {text rest : List Char} {v : Value}

/-- A scalar holds neither other values nor a string. -/
theorem keyed_of_scalar (found : scalar text = .ok (v, rest)) : Keyed v := by
  unfold scalar at found
  split at found
  · cases found
    exact .leaf rfl rfl
  · cases found
    exact .leaf rfl rfl
  · split at found
    · cases found
      exact .leaf rfl rfl
    · cases found
    · split at found
      · cases found
        exact .leaf rfl rfl
      · split at found
        · rename_i read
          rw [found] at read
          unfold decimal? at read
          rcases Option.bind_eq_some_iff.mp read with ⟨_, _, read⟩
          dsimp only at read
          split at read
          · split at read <;> cases read <;> exact .leaf rfl rfl
          · split at read
            · cases read
              exact .leaf rfl rfl
            · split at read <;> cases read
              exact .leaf rfl rfl
        · split at found
          · rename_i read
            cases found
            unfold special? at read
            dsimp only at read
            split at read <;> cases read <;> exact .leaf rfl rfl
          · cases found

theorem keyed_of_putInline {frozen : List Key} {t t' : Table Value} {key : Key}
    (keyed : Keyed (.object t)) (value : Keyed v)
    (found : putInline frozen t key v rest = .ok t') : Keyed (.object t') := by
  unfold putInline at found
  dsimp only at found
  split at found
  · cases found
  · exact (keepsKeys_put _ value _).descend false _ _ t t' keyed found

/-- What the readers that call one another leave of a text, and that what they give has no key
twice. -/
structure Sound (fuel : Nat) : Prop where
  value {text rest : List Char} {v : Value} : value fuel text = .ok (v, rest) →
    Passes text rest ∧ Keyed v
  elements {before : List Value} {text rest : List Char} {v : Value} :
    elements fuel before text = .ok (v, rest) → (∀ w ∈ before, Keyed w) →
      Passes text rest ∧ Keyed v
  inline {frozen : List Key} {before : Table Value} {text rest : List Char} {v : Value} :
    inline fuel frozen before text = .ok (v, rest) → Keyed (.object before) →
      Passes text rest ∧ Keyed v
  entry {text rest : List Char} {key : Key} {v : Value} :
    entry fuel text = .ok ((key, v), rest) → Passes text rest ∧ Keyed v

theorem Sound.value_succ (sound : Sound fuel) (found : Toml.value (fuel + 1) text = .ok (v, rest)) :
    Passes text rest ∧ Keyed v := by
  rw [Toml.value.eq_def] at found
  dsimp only at found
  split at found
  · split at found
    · cases found
    · rename_i read
      cases found
      exact ⟨passes_quoted read, .leaf rfl rfl⟩
  · split at found
    · cases found
    · rename_i read
      cases found
      exact ⟨passes_quoted read, .leaf rfl rfl⟩
  · split at found
    · cases found
    · rename_i skipped
      cases found
      exact ⟨.cons (by decide) ((passes_skipGaps skipped).trans (.cons (by decide) (.refl _))),
        .array nofun⟩
    · rename_i skipped
      rcases sound.elements found nofun with ⟨passes, keyed⟩
      exact ⟨.cons (by decide) ((passes_skipGaps skipped).trans passes), keyed⟩
  · rename_i inside
    have gap := passes_skipSpace inside
    split at found
    · rename_i skipped
      rw [skipped] at gap
      cases found
      exact ⟨.cons (by decide) (gap.trans (.cons (by decide) (.refl _))), keyed_empty⟩
    · rcases sound.inline found keyed_empty with ⟨passes, keyed⟩
      exact ⟨.cons (by decide) (gap.trans passes), keyed⟩
  · exact ⟨passes_scalar found, keyed_of_scalar found⟩

theorem Sound.elements_succ (sound : Sound fuel) {before : List Value}
    (found : Toml.elements (fuel + 1) before text = .ok (v, rest)) (each : ∀ w ∈ before, Keyed w) :
    Passes text rest ∧ Keyed v := by
  rw [Toml.elements] at found
  split at found
  · cases found
  · rename_i item after read
    rcases sound.value read with ⟨passes, keyed⟩
    have each : ∀ w ∈ item :: before, Keyed w := List.forall_mem_cons.mpr ⟨keyed, each⟩
    have whole : Keyed (.array (item :: before).reverse) :=
      .array fun w member => each w (List.mem_reverse.mp member)
    split at found
    · cases found
    · rename_i skipped
      cases found
      exact ⟨passes.trans ((passes_skipGaps skipped).trans (.cons (by decide) (.refl _))), whole⟩
    · rename_i skipped
      have passes := passes.trans ((passes_skipGaps skipped).trans (.cons (by decide) (.refl _)))
      split at found
      · cases found
      · rename_i skipped
        cases found
        exact ⟨passes.trans ((passes_skipGaps skipped).trans (.cons (by decide) (.refl _))), whole⟩
      · rename_i skipped
        rcases sound.elements found each with ⟨passes', keyed⟩
        exact ⟨passes.trans ((passes_skipGaps skipped).trans passes'), keyed⟩
    · cases found

theorem Sound.inline_succ (sound : Sound fuel) {frozen : List Key} {before : Table Value}
    (found : Toml.inline (fuel + 1) frozen before text = .ok (v, rest))
    (keyed : Keyed (.object before)) : Passes text rest ∧ Keyed v := by
  rw [Toml.inline] at found
  split at found
  · cases found
  · rename_i key item after read
    rcases sound.entry read with ⟨passes, value⟩
    split at found
    · cases found
    · rename_i t entered
      have keyed := keyed_of_putInline keyed value entered
      have passes := passes.trans (passes_skipSpace after)
      split at found
      · rename_i skipped
        rw [skipped] at passes
        cases found
        exact ⟨passes.trans (.cons (by decide) (.refl _)), keyed⟩
      · rename_i skipped
        rw [skipped] at passes
        rcases sound.inline found keyed with ⟨passes', keyed⟩
        exact ⟨passes.trans (.cons (by decide) ((passes_skipSpace _).trans passes')), keyed⟩
      · cases found

theorem Sound.entry_succ (sound : Sound fuel) {key : Key}
    (found : Toml.entry (fuel + 1) text = .ok ((key, v), rest)) : Passes text rest ∧ Keyed v := by
  rw [Toml.entry] at found
  split at found
  · cases found
  · rename_i read
    split at found
    · cases found
    · rename_i given
      cases found
      rcases sound.value given with ⟨passes, keyed⟩
      exact ⟨(passes_key read).trans (.cons (by decide) ((passes_skipSpace _).trans passes)), keyed⟩
  · cases found

theorem sound : ∀ fuel, Sound fuel
  | 0 => ⟨nofun, nofun, nofun, nofun⟩
  | fuel + 1 =>
      have ih := sound fuel
      ⟨ih.value_succ, ih.elements_succ, ih.inline_succ, ih.entry_succ⟩

end Values

/-! ## Documents -/

namespace Draft

variable {d e : Draft} {text rest : List Char} {key : Key} {v : Value}

theorem keyed_enter (keyed : Keyed (.object d.tables)) (value : Keyed v)
    (found : d.enter key v rest = .ok e) : Keyed (.object e.tables) := by
  unfold enter at found
  dsimp only at found
  split at found
  · cases found
  · split at found
    · cases found
    · rcases bind_eq_ok_iff.mp found with ⟨tables, entered, same⟩
      cases same
      exact (keepsKeys_put _ value _).descend true _ _ _ _ keyed entered

theorem keyed_beginTable (keyed : Keyed (.object d.tables))
    (found : d.beginTable key rest = .ok e) : Keyed (.object e.tables) := by
  unfold beginTable at found
  dsimp only at found
  split at found
  · cases found
  · rcases bind_eq_ok_iff.mp found with ⟨tables, entered, same⟩
    cases same
    have keeps : KeepsKeys .ok := by
      rintro t _ keyed ⟨⟩
      exact keyed
    exact keeps.descend true _ _ _ _ keyed entered

theorem keyed_beginItem (keyed : Keyed (.object d.tables))
    (found : d.beginItem key rest = .ok e) : Keyed (.object e.tables) := by
  unfold beginItem at found
  dsimp only at found
  split at found
  · cases found
  · rcases bind_eq_ok_iff.mp found with ⟨tables, entered, same⟩
    cases same
    refine KeepsKeys.descend ?_ true _ _ _ _ keyed entered
    intro t t' keyed found
    dsimp only at found
    have one : ∀ v ∈ [Value.object []], Keyed v := List.forall_mem_singleton.mpr keyed_empty
    split at found
    · cases found
      exact keyed.put _ (.array one)
    · rename_i items there
      cases found
      refine keyed.put _ (.array ?_)
      exact List.forall_mem_append.mpr ⟨(keyed.get? there).items, one⟩
    · cases found

/-- A header, which begins with a bracket. -/
theorem passes_readHeader (keyed : Keyed (.object d.tables))
    (found : d.readHeader ('[' :: text) = .ok (e, rest)) :
    Passes ('[' :: text) rest ∧ Keyed (.object e.tables) := by
  unfold readHeader at found
  dsimp only at found
  split at found
  · rename_i inside same
    cases same
    rcases bind_eq_ok_iff.mp found with ⟨⟨key, after⟩, read, found⟩
    rcases bind_eq_ok_iff.mp found with ⟨next, begun, found⟩
    have keyed := keyed_beginItem (d := d.settle) keyed begun
    have passes := (passes_skipSpace inside).trans (passes_key read)
    dsimp only at found
    split at found
    · cases found
      exact ⟨.cons (by decide) (.cons (by decide)
        (passes.trans (.append [']', ']'] (by decide)))), keyed⟩
    · cases found
  · rcases bind_eq_ok_iff.mp found with ⟨⟨key, after⟩, read, found⟩
    rcases bind_eq_ok_iff.mp found with ⟨next, begun, found⟩
    have keyed := keyed_beginTable (d := d.settle) keyed begun
    have passes := (passes_skipSpace text).trans (passes_key read)
    dsimp only at found
    split at found
    · cases found
      exact ⟨.cons (by decide) (passes.trans (.cons (by decide) (.refl _))), keyed⟩
    · cases found

theorem passes_readStatement (keyed : Keyed (.object d.tables))
    (found : d.readStatement text = .ok (e, rest)) :
    Passes text rest ∧ Keyed (.object e.tables) := by
  unfold readStatement at found
  split at found
  · exact passes_readHeader keyed found
  · cases found
    exact ⟨.refl _, keyed⟩
  · split at found
    · rcases bind_eq_ok_iff.mp found with ⟨⟨⟨key, v⟩, after⟩, read, found⟩
      rcases bind_eq_ok_iff.mp found with ⟨next, entered, same⟩
      cases same
      rcases (sound _).entry read with ⟨passes, value⟩
      exact ⟨passes, keyed_enter keyed value entered⟩
    · cases found
  · cases found
    exact ⟨.refl _, keyed⟩

/-- The lines of a text are followed one by one; each is shorter than what is left, so that fuel for
each character and the end is enough. -/
theorem clean_of_readAll {fuel : Nat} (keyed : Keyed (.object d.tables))
    (enough : text.length < fuel) (found : d.readAll fuel text = .ok e) :
    '\x7f' ∉ text ∧ Keyed (.object e.tables) := by
  induction fuel generalizing d text with
  | zero => omega
  | succ fuel ih =>
      have blank := passes_skipSpace text
      rw [readAll] at found
      split at found
      · rename_i nothing
        rw [nothing] at blank
        cases found
        exact ⟨blank.clean, keyed⟩
      · rename_i after line
        rw [line] at blank
        have shorter := blank.length_le
        rw [List.length_cons] at shorter
        rcases ih keyed (by omega) found with ⟨clean, keyed⟩
        refine ⟨?_, keyed⟩
        rcases blank with ⟨passed, rfl, clean'⟩
        simp [clean, clean']
      · rcases bind_eq_ok_iff.mp found with ⟨⟨next, after⟩, read, found⟩
        rcases bind_eq_ok_iff.mp found with ⟨last, comment, found⟩
        rcases passes_readStatement keyed read with ⟨statement, keyed⟩
        have passes := blank.trans (statement.trans
          ((passes_skipSpace after).trans (passes_skipComment comment)))
        split at found
        · cases found
          exact ⟨passes.clean, keyed⟩
        · have shorter := passes.length_le
          rw [List.length_cons] at shorter
          rcases ih keyed (by omega) found with ⟨clean, keyed⟩
          refine ⟨?_, keyed⟩
          rcases passes with ⟨passed, rfl, clean'⟩
          simp [clean, clean']
        · cases found

end Draft

/-- **What is read as a document.**  The text does not hold U+007F, no table of the document, at any
depth, has a key twice, and no surrogate stands in it. -/
theorem clean_of_read {text : List Char} {document : Table Value}
    (found : read text = .ok document) : '\x7f' ∉ text ∧ Keyed (.object document) := by
  rcases bind_eq_ok_iff.mp found with ⟨d, read, same⟩
  cases same
  exact Draft.clean_of_readAll keyed_empty (Nat.lt_succ_self _) read

end CaptureDesk.Toml
