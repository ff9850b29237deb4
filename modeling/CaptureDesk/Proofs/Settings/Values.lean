import CaptureDesk.Proofs.Json.RoundTrip
import CaptureDesk.Proofs.Settings.Decimals
import CaptureDesk.Proofs.Text.Surrogates
import CaptureDesk.Proofs.Value.Text

/-!
# Values in a settings file

A settings file knows truth values, numbers, strings, and lists of them (`Native`).  Any other value
is written as the string that shows it, and a number with a point is written with three decimals at
most; so a value is read as what is left of it when it is written (`rewrittenValue`,
`value_valueChars`).  A string with U+007F cannot be read, because TOML does not allow the character
as it is, and a string with a surrogate cannot be encoded (`Clean`, `holdsRough`).

A value without numbers with a point is read as the value that is stored of it (`Storable`,
`storedValue`), and is then written the same once more (`valueText_storedValue`).
-/

namespace CaptureDesk.Settings

open CodePoint (chars)
open Decimal (rounded)
open Json (dumpString escapedChar)
open Toml (Stops)
open Value (Shown ShownFields)

/-! ## What is stored -/

/-- A string that may stand in a settings file: neither a surrogate nor U+007F is in it. -/
def Tidy : Str → Prop
  | .plain text => '\x7f' ∉ text.toList
  | .rough .. => False

theorem Tidy.isRough {s : Str} (tidy : Tidy s) : s.isRough = false := by
  cases s with
  | plain text => rfl
  | rough => cases tidy

theorem tidy_ofList {text : List Char} (allowed : '\x7f' ∉ text) : Tidy (String.ofList text) := by
  rwa [Tidy, String.toList_ofList]

mutual

/-- A value that a settings file can hold without loss, but for its kind. -/
def Storable : Value → Prop
  | .str s => Tidy s
  | .array items => StorableItems items
  | v => Shown v

/-- All items are storable. -/
def StorableItems : List Value → Prop
  | [] => True
  | v :: rest => Storable v ∧ StorableItems rest

end

mutual

/-- A value as it stands in a settings file. -/
def storedValue : Value → Value
  | .array items => .array (storedItems items)
  | .null => .str Value.null.text
  | .moment m => .str (Value.moment m).text
  | .object fields => .str (Value.object fields).text
  | v => v

/-- The items of a list as they stand there. -/
def storedItems : List Value → List Value
  | [] => []
  | v :: rest => storedValue v :: storedItems rest

end

mutual

/-- A value of a kind that a settings file knows: truth values, numbers, strings, and lists of
them. -/
def Native : Value → Prop
  | .bool _ | .int _ | .float _ | .str _ => True
  | .array items => NativeItems items
  | .null | .moment _ | .object _ => False

/-- All items are of such a kind. -/
def NativeItems : List Value → Prop
  | [] => True
  | v :: rest => Native v ∧ NativeItems rest

end

mutual

/-- A value of a kind that a settings file knows is stored as it is. -/
theorem storedValue_of_native : ∀ v, Native v → storedValue v = v
  | .bool _, _ | .int _, _ | .float _, _ | .str _, _ => rfl
  | .array items, native => congrArg Value.array (storedItems_of_native items native)

theorem storedItems_of_native : ∀ items, NativeItems items → storedItems items = items
  | [], _ => rfl
  | v :: rest, native => by
      rw [storedItems, storedValue_of_native v native.1, storedItems_of_native rest native.2]

end

mutual

/-- Storing a value does not change how it is written. -/
theorem valueText_storedValue : ∀ v, valueText (storedValue v) = valueText v
  | .null | .bool _ | .int _ | .float _ | .str _ | .moment _ | .object _ => rfl
  | .array [] => rfl
  | .array (v :: rest) => by
      rw [storedValue, storedItems, valueText, valueText, valueText_storedValue v,
        itemsText_storedItems rest]

theorem itemsText_storedItems : ∀ items, itemsText (storedItems items) = itemsText items
  | [] => rfl
  | v :: rest => by
      rw [storedItems, itemsText, itemsText, valueText_storedValue v, itemsText_storedItems rest]

end

mutual

/-- What is stored is of a kind that a settings file knows. -/
theorem native_storedValue : ∀ v, Native (storedValue v)
  | .null | .bool _ | .int _ | .float _ | .str _ | .moment _ | .object _ => trivial
  | .array items => native_storedItems items

theorem native_storedItems : ∀ items, NativeItems (storedItems items)
  | [] => trivial
  | v :: rest => ⟨native_storedValue v, native_storedItems rest⟩

end

mutual

/-- What is stored can be stored again. -/
theorem storable_storedValue : ∀ v, Storable v → Storable (storedValue v)
  | .null, _ => by
      show '\x7f' ∉ "None".toList
      decide
  | .bool _, _ => trivial
  | .int _, short => short
  | .str _, allowed => allowed
  | .moment m, _ => tidy_ofList m.delete_notMem_text
  | .object fields, _ => tidy_ofList (Value.delete_notMem_quoted (.object fields))
  | .array items, storable => storable_storedItems items storable

theorem storable_storedItems : ∀ items, StorableItems items → StorableItems (storedItems items)
  | [], _ => trivial
  | v :: rest, storable => ⟨storable_storedValue v storable.1, storable_storedItems rest storable.2⟩

end

mutual

/-- No number in a value that can be shown is too long. -/
theorem holdsOverlong_of_shown : ∀ v, Shown v → holdsOverlong v = false
  | .null, _ | .bool _, _ | .str _, _ | .moment _, _ => rfl
  | .int _, short => short
  | .array items, shown => anyOverlong_of_shown items shown
  | .object fields, shown => fieldsOverlong_of_shown fields shown

theorem anyOverlong_of_shown : ∀ items, Value.ShownItems items → anyOverlong items = false
  | [], _ => rfl
  | v :: rest, shown => by
      rw [anyOverlong, holdsOverlong_of_shown v shown.1, anyOverlong_of_shown rest shown.2]
      rfl

theorem fieldsOverlong_of_shown : ∀ fields, ShownFields fields → fieldsOverlong fields = false
  | [], _ => rfl
  | (_, v) :: rest, shown => by
      rw [fieldsOverlong, holdsOverlong_of_shown v shown.1, fieldsOverlong_of_shown rest shown.2]
      rfl

end

mutual

/-- No number in a storable value is too long. -/
theorem holdsOverlong_of_storable : ∀ v, Storable v → holdsOverlong v = false
  | .null, _ | .bool _, _ | .str _, _ | .moment _, _ => rfl
  | .int _, short => short
  | .array items, storable => anyOverlong_of_storable items storable
  | .object fields, shown => fieldsOverlong_of_shown fields shown

theorem anyOverlong_of_storable : ∀ items, StorableItems items → anyOverlong items = false
  | [], _ => rfl
  | v :: rest, storable => by
      rw [anyOverlong, holdsOverlong_of_storable v storable.1,
        anyOverlong_of_storable rest storable.2]
      rfl

end

/-! ## What is left of a value -/

mutual

/-- A value whose strings may stand in a settings file as they are. -/
def Clean : Value → Prop
  | .str s => Tidy s
  | .array items => CleanItems items
  | _ => True

/-- All items are so. -/
def CleanItems : List Value → Prop
  | [] => True
  | v :: rest => Clean v ∧ CleanItems rest

end

mutual

/-- What is left of a value when it is written and read again. -/
def rewrittenValue : Value → Value
  | .float x => .float (rounded x)
  | .array items => .array (rewrittenItems items)
  | .null => .str Value.null.text
  | .moment m => .str (Value.moment m).text
  | .object fields => .str (Value.object fields).text
  | v => v

/-- What is left of the items of a list. -/
def rewrittenItems : List Value → List Value
  | [] => []
  | v :: rest => rewrittenValue v :: rewrittenItems rest

end

mutual

theorem clean_of_storable : ∀ v, Storable v → Clean v
  | .null, _ | .bool _, _ | .int _, _ | .moment _, _ | .object _, _ => trivial
  | .str _, allowed => allowed
  | .array items, storable => cleanItems_of_storable items storable

theorem cleanItems_of_storable : ∀ items, StorableItems items → CleanItems items
  | [], _ => trivial
  | v :: rest, storable =>
      ⟨clean_of_storable v storable.1, cleanItems_of_storable rest storable.2⟩

end

mutual

/-- What is stored of a value that is stored already is read as it is. -/
theorem rewrittenValue_of_storable : ∀ v, Native v → Storable v → rewrittenValue v = v
  | .bool _, _, _ | .int _, _, _ | .str _, _, _ => rfl
  | .array items, native, storable =>
      congrArg Value.array (rewrittenItems_of_storable items native storable)

theorem rewrittenItems_of_storable :
    ∀ items, NativeItems items → StorableItems items → rewrittenItems items = items
  | [], _, _ => rfl
  | v :: rest, native, storable => by
      rw [rewrittenItems, rewrittenValue_of_storable v native.1 storable.1,
        rewrittenItems_of_storable rest native.2 storable.2]

end

/-! ## The text of a value -/

/-- The first character of a value is a visible one of ASCII, closes nothing and begins no
comment. -/
def Opens (text : List Char) : Prop :=
  Json.Opens text ∧ ∀ rest, text ≠ '#' :: rest

/-- The characters of a value in a settings file. -/
def valueChars (v : Value) : List Char := chars (valueText v)

/-- The characters after the first item of a list. -/
def itemsChars (items : List Value) : List Char := chars (itemsText items)

@[simp] theorem valueChars_int (n : Int) : valueChars (.int n) = (toString n).toList :=
  CodePoint.chars_map_char _

@[simp] theorem valueChars_float (x : Float) : valueChars (.float x) = floatText x :=
  CodePoint.chars_map_char _

/-- A string is quoted as in JSON. -/
theorem valueChars_str (s : Str) : valueChars (.str s) = dumpString escapedChar s :=
  (Json.dumpString_escaped s).symm

@[simp] theorem valueChars_array (v : Value) (rest : List Value) :
    valueChars (.array (v :: rest)) = '[' :: (valueChars v ++ itemsChars rest) := by
  rw [valueChars, valueText, CodePoint.chars_cons_char, CodePoint.chars_append, itemsChars,
    valueChars]

@[simp] theorem itemsChars_nil : itemsChars [] = [']'] := rfl

@[simp] theorem itemsChars_cons (v : Value) (rest : List Value) :
    itemsChars (v :: rest) = ',' :: ' ' :: (valueChars v ++ itemsChars rest) := by
  rw [itemsChars, itemsText, CodePoint.chars_cons_char, CodePoint.chars_cons_char,
    CodePoint.chars_append, itemsChars, valueChars]

section ValueText

variable {v : Value} {rest : List Char}

theorem Opens.append {text : List Char} (opens : Opens text) (rest : List Char) :
    Opens (text ++ rest) := by
  cases text with
  | nil => cases opens.1
  | cons c text =>
      refine ⟨opens.1.append rest, fun more same => ?_⟩
      cases same
      exact opens.2 _ rfl

/-- What opens a value is no gap. -/
theorem Opens.dropWhile {text : List Char} (opens : Opens text) :
    text.dropWhile Toml.isGap = text ∧ Toml.skipSpace text = text := by
  cases text with
  | nil => cases opens.1
  | cons c text =>
      have visible : Toml.isGap c = false := by
        have above := opens.1.1.1
        simp only [Toml.isGap, Toml.isSpace, Bool.or_eq_false_iff, decide_eq_false_iff_not]
        refine ⟨⟨?_, ?_⟩, ?_⟩ <;> rintro rfl <;> exact absurd above (by decide)
      have visible' := visible
      rw [Toml.isGap, Bool.or_eq_false_iff] at visible'
      simp [Toml.skipSpace, visible, visible'.1]

/-- A text begins as a number does: with a digit, a minus, or the first letter of a word for what is
not finite. -/
def BeginsNumber (text : List Char) : Prop :=
  ∃ c more, text = c :: more ∧ (c.isDigit = true ∨ c = '-' ∨ c = 'i' ∨ c = 'n')

theorem beginsNumber_toString (n : Int) : BeginsNumber (toString n).toList := by
  obtain ⟨d, more, isDigit, text | text⟩ := Json.toString_opens n
  · exact ⟨d, more, text, .inl isDigit⟩
  · exact ⟨'-', d :: more, text, .inr (.inl rfl)⟩

theorem beginsNumber_floatText (x : Float) : BeginsNumber (floatText x) := by
  have shape := shape_floatText x
  generalize floatText x = text at shape ⊢
  cases shape with
  | decimal negative isWhole =>
      cases negative with
      | true => exact ⟨'-', _, rfl, .inr (.inl rfl)⟩
      | false =>
          obtain ⟨d, more, rfl, isDigit⟩ := isWhole.head
          exact ⟨d, _, rfl, .inl isDigit⟩
  | infinity => exact ⟨'i', _, rfl, by decide⟩
  | minusInfinity => exact ⟨'-', _, rfl, by decide⟩
  | notANumber => exact ⟨'n', _, rfl, by decide⟩

theorem BeginsNumber.append {text : List Char} (begins : BeginsNumber text) (rest : List Char) :
    BeginsNumber (text ++ rest) := by
  obtain ⟨c, more, rfl, first⟩ := begins
  exact ⟨c, more ++ rest, rfl, first⟩

theorem BeginsNumber.opens {text : List Char} (begins : BeginsNumber text) : Opens text := by
  obtain ⟨c, more, rfl, isDigit | rfl | rfl | rfl⟩ := begins
  · refine ⟨Json.opens_of_isDigit isDigit, fun _ same => ?_⟩
    cases same
    cases isDigit
  all_goals exact ⟨⟨by decide, by decide, by decide⟩, fun _ same => by cases same⟩

theorem opens_valueChars (v : Value) : Opens (valueChars v) := by
  cases v with
  | null | moment | object | str =>
      exact ⟨⟨by decide, by decide, by decide⟩, fun _ same => by cases same⟩
  | int n => rw [valueChars_int]; exact (beginsNumber_toString n).opens
  | float x => rw [valueChars_float]; exact (beginsNumber_floatText x).opens
  | bool b => cases b <;> exact ⟨⟨by decide, by decide, by decide⟩, fun _ same => by cases same⟩
  | array items =>
      cases items <;> exact ⟨⟨by decide, by decide, by decide⟩, fun _ same => by cases same⟩

/-- What follows an item in a list stops it. -/
theorem stops_itemsChars (items : List Value) : Stops (itemsChars items ++ rest) := by
  cases items with
  | nil => exact .bracket rest
  | cons => exact .comma _

theorem itemsText_eq_concat (items : List Value) :
    ∃ init, itemsText items = init ++ [.char ']'] := by
  induction items with
  | nil => exact ⟨[], rfl⟩
  | cons v items ih =>
      obtain ⟨init, split⟩ := ih
      exact ⟨.char ',' :: .char ' ' :: (valueText v ++ init), by simp [itemsText, split]⟩

theorem getLast?_floatText (x : Float) :
    ∃ c, (floatText x).getLast? = some c ∧ Text.isBlank c = false := by
  have shape := shape_floatText x
  generalize floatText x = text at shape ⊢
  cases shape with
  | @decimal _ negative whole places isWhole nonempty areDigits =>
      obtain ⟨c, last⟩ : ∃ c, places.getLast? = some c :=
        ⟨_, List.getLast?_eq_some_getLast nonempty⟩
      refine ⟨c, ?_, Json.isBlank_of_isDigit (areDigits c (List.mem_of_getLast? last))⟩
      rw [List.getLast?_append, List.getLast?_append, List.getLast?_cons, last]
      rfl
  | infinity | minusInfinity => exact ⟨'f', rfl, by decide⟩
  | notANumber => exact ⟨'n', rfl, by decide⟩

theorem getLast?_string (s : Str) : (Json.string s).getLast? = some (.char '"') := by
  rw [Json.string, ← List.cons_append, List.getLast?_concat]

/-- The last code point of a value is no white space. -/
theorem getLast?_valueText (v : Value) :
    ∃ p, (valueText v).getLast? = some p ∧ p.isBlank = false := by
  have ofChars {text : List Char} {c : Char} (last : text.getLast? = some c)
      (visible : Text.isBlank c = false) :
      ∃ p, (text.map CodePoint.char).getLast? = some p ∧ p.isBlank = false := by
    refine ⟨.char c, ?_, visible⟩
    rw [List.getLast?_map, last]
    rfl
  cases v with
  | null | moment | object | str => exact ⟨.char '"', getLast?_string _, by decide⟩
  | float x =>
      obtain ⟨c, last, visible⟩ := getLast?_floatText x
      exact ofChars last visible
  | bool b => cases b <;> exact ⟨.char 'e', rfl, by decide⟩
  | array items =>
      refine ⟨.char ']', ?_, by decide⟩
      cases items with
      | nil => rfl
      | cons v items =>
          obtain ⟨init, split⟩ := itemsText_eq_concat items
          rw [valueText, split, ← List.append_assoc, ← List.cons_append, List.getLast?_concat]
  | int n =>
      obtain ⟨c, last⟩ : ∃ c, (toString n).toList.getLast? = some c := by
        obtain ⟨d, more, _, text | text⟩ := Json.toString_opens n <;>
        · rw [text, List.getLast?_cons]
          exact ⟨_, rfl⟩
      refine ofChars last ?_
      rcases Json.isDigit_of_mem_toString (List.mem_of_getLast? last) with isDigit | rfl
      · exact Json.isBlank_of_isDigit isDigit
      · decide

/-! ## Reading a value -/

/-- The reader of gaps stays where there is none. -/
theorem Opens.skipGaps {text : List Char} (opens : Opens text) (fuel : Nat) :
    Toml.skipGaps fuel text = .ok text := by
  cases fuel with
  | zero => rfl
  | succ fuel =>
      rw [Toml.skipGaps, opens.dropWhile.1]
      split
      · rename_i comment
        exact absurd rfl (opens.2 _)
      · rfl

theorem skipGaps_space {text : List Char} (opens : Opens text) (fuel : Nat) :
    Toml.skipGaps (fuel + 1) (' ' :: text) = .ok text := by
  have skipped : (' ' :: text).dropWhile Toml.isGap = text.dropWhile Toml.isGap := rfl
  rw [← opens.skipGaps (fuel + 1), Toml.skipGaps, Toml.skipGaps, skipped]

/-- With enough fuel what is left of a value is read, whatever stops it. -/
def Reads (v : Value) : Prop :=
  ∀ fuel rest, Stops rest → 2 * (valueChars v).length ≤ fuel →
    Toml.value fuel (valueChars v ++ rest) = .ok (rewrittenValue v, rest)

theorem reads_bool (b : Bool) : Reads (.bool b) := by
  intro fuel rest _ enough
  obtain ⟨fuel, rfl⟩ := (opens_valueChars (.bool b)).1.fuel enough
  cases b <;> rfl

/-- What begins a number begins no string and no container. -/
theorem value_of_begins {text : List Char} (begins : BeginsNumber text) (fuel : Nat) :
    Toml.value (fuel + 1) text = Toml.scalar text := by
  obtain ⟨c, more, rfl, first⟩ := begins
  have other : c ≠ '"' ∧ c ≠ '\'' ∧ c ≠ '[' ∧ c ≠ '\x7b' := by
    refine ⟨?_, ?_, ?_, ?_⟩ <;>
    · rintro rfl
      exact absurd first (by decide)
  rw [Toml.value]
  all_goals simp [other]

/-- A number is read as one. -/
theorem reads_of_scalar (begins : BeginsNumber (valueChars v))
    (found : ∀ rest, Stops rest →
      Toml.scalar (valueChars v ++ rest) = .ok (rewrittenValue v, rest)) :
    Reads v := by
  intro fuel rest stops enough
  obtain ⟨fuel, rfl⟩ := (opens_valueChars v).1.fuel enough
  rw [value_of_begins (begins.append rest), found rest stops]

theorem reads_int {n : Int} (short : Json.isOverlong n = false) : Reads (.int n) := by
  refine reads_of_scalar ?_ fun _ stops => ?_
  · rw [valueChars_int]
    exact beginsNumber_toString n
  · rw [valueChars_int]
    exact Toml.scalar_toString short stops

theorem reads_float (x : Float) : Reads (.float x) := by
  refine reads_of_scalar ?_ fun _ stops => ?_
  · rw [valueChars_float]
    exact beginsNumber_floatText x
  · rw [valueChars_float]
    exact scalar_floatText x stops

/-- A quoted text is read as the string. -/
theorem value_string {s : String} (allowed : '\x7f' ∉ s.toList) (stops : Stops rest) (fuel : Nat) :
    Toml.value (fuel + 1) (dumpString escapedChar s ++ rest) = .ok (.str s, rest) := by
  have text : dumpString escapedChar s ++ rest =
      '"' :: (s.toList.flatMap escapedChar ++ '"' :: rest) := by
    rw [Json.dumpString_plain, List.cons_append, List.append_assoc, List.singleton_append]
  have found := Toml.quoted_string allowed stops
  rw [text] at found ⊢
  rw [Toml.value, found]

/-- A value that is written as a string is read as the string. -/
theorem reads_text {s : Str} (written : valueText v = Json.string s)
    (left : rewrittenValue v = .str s) (tidy : Tidy s) : Reads v := by
  obtain ⟨text, rfl⟩ := Str.exists_eq_plain tidy.isRough
  intro fuel rest stops enough
  obtain ⟨fuel, rfl⟩ := (opens_valueChars v).1.fuel enough
  rw [valueChars, written, ← Json.dumpString_escaped, left]
  exact value_string tidy stops fuel

/-- A closing bracket after an item ends the list. -/
theorem elements_last {fuel : Nat} {before : List Value} {text : List Char}
    (item : Toml.value fuel text = .ok (v, ']' :: rest)) :
    Toml.elements (fuel + 1) before text = .ok (.array (before.reverse ++ [v]), rest) := by
  have stay : Toml.skipGaps (rest.length + 1) (']' :: rest) = .ok (']' :: rest) := rfl
  simp [Toml.elements, item, stay]

/-- After a comma and a space the next item is read. -/
theorem elements_next {fuel : Nat} {before : List Value} {text next : List Char}
    (item : Toml.value fuel text = .ok (v, ',' :: ' ' :: next)) (opens : Opens next) :
    Toml.elements (fuel + 1) before text = Toml.elements fuel (v :: before) next := by
  have stay : Toml.skipGaps (next.length + 1 + 1) (',' :: ' ' :: next) = .ok (',' :: ' ' :: next) :=
    rfl
  have skipped := skipGaps_space opens next.length
  simp only [Toml.elements, item, List.length_cons, stay, skipped]
  split
  · rename_i fault
    cases fault
  · rename_i closing
    cases closing
    exact absurd rfl opens.1.2.1
  · rename_i same
    cases same
    rfl

/-- The items of a list are read one after another. -/
theorem elements_itemsChars {items : List Value} (each : ∀ w ∈ v :: items, Reads w) {fuel : Nat}
    (before : List Value) (enough : 2 * (valueChars v ++ itemsChars items).length < fuel) :
    Toml.elements fuel before (valueChars v ++ (itemsChars items ++ rest)) =
      .ok (.array (before.reverse ++ rewrittenItems (v :: items)), rest) := by
  induction items generalizing v fuel before with
  | nil =>
      obtain ⟨fuel, rfl⟩ : ∃ n, fuel = n + 1 := ⟨fuel - 1, by omega⟩
      have item := each v List.mem_cons_self fuel (itemsChars [] ++ rest) (stops_itemsChars [])
        (by rw [List.length_append] at enough; omega)
      exact elements_last item
  | cons w items ih =>
      obtain ⟨fuel, rfl⟩ : ∃ n, fuel = n + 1 := ⟨fuel - 1, by omega⟩
      have item := each v List.mem_cons_self fuel (itemsChars (w :: items) ++ rest)
        (stops_itemsChars _) (by rw [List.length_append] at enough; omega)
      have next : itemsChars (w :: items) ++ rest =
          ',' :: ' ' :: (valueChars w ++ (itemsChars items ++ rest)) := by
        simp
      have left : 2 * (valueChars w ++ itemsChars items).length < fuel := by
        simp at enough ⊢
        omega
      have others := ih (fun u member => each u (List.mem_cons_of_mem v member))
        (rewrittenValue v :: before) left
      rw [next] at item ⊢
      rw [elements_next item ((opens_valueChars w).append _), others]
      simp [rewrittenItems]

theorem value_bracket {text : List Char} (opens : Opens text) (fuel : Nat) :
    Toml.value (fuel + 1) ('[' :: text) = Toml.elements fuel [] text := by
  rw [Toml.value, opens.skipGaps]
  split
  · rename_i fault
    cases fault
  · rename_i closing
    cases closing
    exact absurd rfl opens.1.2.1
  · rename_i same
    cases same
    rfl

theorem reads_array {items : List Value} (each : ∀ w ∈ items, Reads w) : Reads (.array items) := by
  intro fuel rest _ enough
  cases items with
  | nil =>
      obtain ⟨fuel, rfl⟩ := (opens_valueChars (.array [])).1.fuel enough
      rfl
  | cons v items =>
      rw [valueChars_array, List.length_cons] at enough
      obtain ⟨fuel, rfl⟩ : ∃ n, fuel = n + 1 := ⟨fuel - 1, by omega⟩
      have opens := (opens_valueChars v).append (itemsChars items ++ rest)
      rw [valueChars_array, List.cons_append, List.append_assoc, value_bracket opens]
      exact elements_itemsChars each [] (by omega)

end ValueText

theorem printable_floatText (x : Float) : Json.Printable (floatText x) := by
  have digits {text : List Char} (areDigits : ∀ c ∈ text, c.isDigit = true) :
      Json.Printable text := by
    intro c member
    have bounds := Json.toNat_of_isDigit (areDigits c member)
    omega
  have shape := shape_floatText x
  generalize floatText x = text at shape ⊢
  cases shape with
  | decimal negative isWhole nonempty areDigits =>
      have sign : Json.Printable (if negative then ['-'] else []) := by cases negative <;> decide
      exact sign.append ((digits isWhole.areDigits).append (.cons (by decide) (digits areDigits)))
  | infinity | minusInfinity | notANumber => decide

mutual

/-- The text of a value holds no control character below U+0020. -/
theorem printable_valueChars : ∀ v, Json.Printable (valueChars v)
  | .bool true | .bool false => by decide
  | .int n => by
      rw [valueChars_int]
      exact Json.printable_toString n
  | .float x => by
      rw [valueChars_float]
      exact printable_floatText x
  | .str s => by
      rw [valueChars_str]
      exact Json.printable_dumpString s
  | .null | .moment _ | .object _ => by
      rw [valueChars, valueText, ← Json.dumpString_escaped]
      · exact Json.printable_dumpString _
      all_goals nofun
  | .array [] => by decide
  | .array (v :: rest) => by
      rw [valueChars_array]
      exact .cons (by decide) ((printable_valueChars v).append (printable_itemsChars rest))

theorem printable_itemsChars : ∀ items, Json.Printable (itemsChars items)
  | [] => by decide
  | v :: rest => by
      rw [itemsChars_cons]
      exact .cons (by decide) (.cons (by decide)
        ((printable_valueChars v).append (printable_itemsChars rest)))

end

mutual

/-- **What is left of a value is read**, if its strings may stand in a settings file. -/
theorem value_valueChars : ∀ v, Clean v → holdsOverlong v = false → Reads v
  | .bool b => fun _ _ => reads_bool b
  | .int _ => fun _ short => reads_int short
  | .float x => fun _ _ => reads_float x
  | .str _ => fun tidy _ => reads_text rfl rfl tidy
  | .null => fun _ _ => reads_text rfl rfl (show '\x7f' ∉ _ by decide)
  | .moment m => fun _ _ => reads_text rfl rfl (tidy_ofList m.delete_notMem_text)
  | .object fields => fun _ _ =>
      reads_text rfl rfl (tidy_ofList (Value.delete_notMem_quoted (.object fields)))
  | .array items => fun clean short => reads_array (items_itemsChars items clean short)

theorem items_itemsChars : ∀ items, CleanItems items → anyOverlong items = false →
    ∀ v ∈ items, Reads v
  | [] => fun _ _ => nofun
  | v :: rest => fun clean short => by
      rw [anyOverlong, Bool.or_eq_false_iff] at short
      rintro w (_ | ⟨_, member⟩)
      · exact value_valueChars v clean.1 short.1
      · exact items_itemsChars rest clean.2 short.2 w member

end

/-! ## Surrogates in a value -/

mutual

/-- Whether a surrogate stands in a string that is written as it is. -/
def holdsRough : Value → Bool
  | .str s => s.isRough
  | .array items => anyRough items
  | _ => false

/-- Whether one stands in one of the items. -/
def anyRough : List Value → Bool
  | [] => false
  | v :: rest => holdsRough v || anyRough rest

end

mutual

/-- A surrogate stands in the text of a value just when one stands in such a string of it: any other
value is written as a string in which a surrogate is given by its number. -/
theorem any_isSurrogate_valueText : ∀ v,
    (valueText v).any CodePoint.isSurrogate = holdsRough v
  | .bool true | .bool false => rfl
  | .int n => CodePoint.any_isSurrogate_map_char (toString n).toList
  | .float x => CodePoint.any_isSurrogate_map_char (floatText x)
  | .str s => Json.any_isSurrogate_string s
  | .null => rfl
  | .moment m => Json.any_isSurrogate_string (String.ofList m.text)
  | .object fields => Json.any_isSurrogate_string (String.ofList (Value.object fields).quoted)
  | .array [] => rfl
  | .array (v :: rest) => by
      rw [valueText, List.any_cons, List.any_append, any_isSurrogate_valueText v,
        any_isSurrogate_itemsText rest]
      rfl

theorem any_isSurrogate_itemsText : ∀ items,
    (itemsText items).any CodePoint.isSurrogate = anyRough items
  | [] => rfl
  | v :: rest => by
      rw [itemsText, List.any_cons, List.any_cons, List.any_append, any_isSurrogate_valueText v,
        any_isSurrogate_itemsText rest]
      rfl

end

mutual

theorem holdsRough_of_clean : ∀ v, Clean v → holdsRough v = false
  | .null, _ | .bool _, _ | .int _, _ | .float _, _ | .moment _, _ | .object _, _ => rfl
  | .str _, tidy => tidy.isRough
  | .array items, clean => anyRough_of_clean items clean

theorem anyRough_of_clean : ∀ items, CleanItems items → anyRough items = false
  | [], _ => rfl
  | v :: rest, clean => by
      rw [anyRough, holdsRough_of_clean v clean.1, anyRough_of_clean rest clean.2]
      rfl

end

mutual

/-- What holds no surrogate at all is written without one. -/
theorem holdsRough_of_holdsSurrogate : ∀ v, v.holdsSurrogate = false → holdsRough v = false
  | .null, _ | .bool _, _ | .int _, _ | .float _, _ | .moment _, _ | .object _, _ => rfl
  | .str _, smooth => smooth
  | .array items, smooth => anyRough_of_itemsHoldSurrogate items smooth

theorem anyRough_of_itemsHoldSurrogate : ∀ items,
    Value.itemsHoldSurrogate items = false → anyRough items = false
  | [], _ => rfl
  | v :: rest, smooth => by
      rw [Value.itemsHoldSurrogate, Bool.or_eq_false_iff] at smooth
      rw [anyRough, holdsRough_of_holdsSurrogate v smooth.1,
        anyRough_of_itemsHoldSurrogate rest smooth.2]
      rfl

end

/-- The string that a value is written as, unless it is a number or a list, holds no surrogate
then. -/
theorem isRough_text {v : Value} (smooth : holdsRough v = false) : v.text.isRough = false := by
  cases v with
  | str s => exact smooth
  | _ => rfl

mutual

/-- The text of a value holds U+007F if a string may not stand in a settings file as it is, and not
for a surrogate in it. -/
theorem delete_mem_valueChars : ∀ v, holdsRough v = false → ¬ Clean v → '\x7f' ∈ valueChars v
  | .str (.plain text), _, unclean => by
      have held : '\x7f' ∈ text.toList := not_not.mp unclean
      have kept : '\x7f' ∈ text.toList.flatMap escapedChar :=
        List.mem_flatMap.mpr ⟨'\x7f', held, by decide⟩
      rw [valueChars_str, Json.dumpString_plain]
      exact List.mem_cons_of_mem _ (List.mem_append_left _ kept)
  | .array [], _, unclean => absurd trivial unclean
  | .array (v :: rest), smooth, unclean => by
      have ⟨first, others⟩ := Bool.or_eq_false_iff.mp smooth
      rw [valueChars_array, List.mem_cons, List.mem_append]
      rcases not_and_or.mp unclean with unclean | unclean
      · exact .inr (.inl (delete_mem_valueChars v first unclean))
      · exact .inr (.inr (delete_mem_itemsChars rest others unclean))
  | .bool _, _, unclean | .int _, _, unclean | .float _, _, unclean | .null, _, unclean
  | .moment _, _, unclean | .object _, _, unclean => absurd trivial unclean

theorem delete_mem_itemsChars : ∀ items, anyRough items = false → ¬ CleanItems items →
    '\x7f' ∈ itemsChars items
  | [], _, unclean => absurd trivial unclean
  | v :: rest, smooth, unclean => by
      have ⟨first, others⟩ := Bool.or_eq_false_iff.mp smooth
      rw [itemsChars_cons, List.mem_cons, List.mem_cons, List.mem_append]
      rcases not_and_or.mp unclean with unclean | unclean
      · exact .inr (.inr (.inl (delete_mem_valueChars v first unclean)))
      · exact .inr (.inr (.inr (delete_mem_itemsChars rest others unclean)))

end

end CaptureDesk.Settings
