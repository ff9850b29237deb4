import CaptureDesk.Json.Writer

/-!
# Texts with surrogates

An encoder refuses just the strings in which a surrogate stands (`Str.exists_encode_error_iff`).
The writer of JSON neither adds surrogates nor escapes any, so a surrogate stands in the text of a
value just when one stands in a string or a key of the value (`Json.isRough_compact`).
-/

namespace CaptureDesk

/-- The characters among code points. -/
def CodePoint.chars (points : List CodePoint) : List Char :=
  points.filterMap fun
    | .char c => some c
    | .surrogate _ => none

namespace CodePoint

@[simp] theorem chars_append (a b : List CodePoint) : chars (a ++ b) = chars a ++ chars b :=
  List.filterMap_append

@[simp] theorem chars_nil : chars [] = [] := rfl

@[simp] theorem chars_cons_char (c : Char) (points : List CodePoint) :
    chars (.char c :: points) = c :: chars points := rfl

@[simp] theorem chars_map_char (text : List Char) : chars (text.map .char) = text := by
  induction text with
  | nil => rfl
  | cons c text ih => rw [List.map_cons, chars_cons_char, ih]

@[simp] theorem any_isSurrogate_map_char (text : List Char) :
    (text.map .char).any isSurrogate = false := by
  rw [List.any_eq_false]
  intro p member
  obtain ⟨c, _, rfl⟩ := List.mem_map.mp member
  exact Bool.false_ne_true

/-- Code points without surrogates are characters. -/
theorem map_char_chars {points : List CodePoint} (plain : points.any isSurrogate = false) :
    (chars points).map .char = points := by
  induction points with
  | nil => rfl
  | cons p points ih =>
      rw [List.any_cons, Bool.or_eq_false_iff] at plain
      cases p with
      | char c => rw [chars_cons_char, List.map_cons, ih plain.2]
      | surrogate n => cases plain.1

end CodePoint

namespace Str

/-- Whether a surrogate stands in a string. -/
def isRough : Str → Bool
  | plain _ => false
  | rough .. => true

theorem isRough_eq_any (s : Str) : s.isRough = s.points.any CodePoint.isSurrogate := by
  cases s with
  | plain s => rw [points_plain, CodePoint.any_isSurrogate_map_char, isRough]
  | rough before first after =>
      rw [points, List.any_append, List.any_cons, isRough]
      simp [CodePoint.isSurrogate]

@[simp] theorem isRough_ofPoints (points : List CodePoint) :
    (ofPoints points).isRough = points.any CodePoint.isSurrogate := by
  rw [isRough_eq_any, points_ofPoints]

@[simp] theorem isRough_append (a b : Str) : (a ++ b).isRough = (a.isRough || b.isRough) := by
  simp only [isRough_eq_any, points_append, List.any_append]

/-- A string in which no surrogate stands is a text. -/
theorem exists_eq_plain {s : Str} (smooth : s.isRough = false) : ∃ text, s = plain text := by
  cases s with
  | plain text => exact ⟨text, rfl⟩
  | rough => cases smooth

/-- An encoder refuses just the strings in which a surrogate stands. -/
theorem exists_encode_error_iff (s : Str) : (∃ fault, s.encode = .error fault) ↔
    s.isRough = true := by
  cases s with
  | plain text => exact iff_of_false (fun ⟨_, refused⟩ => by cases refused) Bool.false_ne_true
  | rough before first after => exact iff_of_true ⟨_, rfl⟩ rfl

end Str

namespace Value

mutual

/-- Whether a surrogate stands in a string or a key of a value. -/
def holdsSurrogate : Value → Bool
  | .str s => s.isRough
  | .array items => itemsHoldSurrogate items
  | .object fields => fieldsHoldSurrogate fields
  | _ => false

/-- Whether one stands in one of the items. -/
def itemsHoldSurrogate : List Value → Bool
  | [] => false
  | v :: rest => v.holdsSurrogate || itemsHoldSurrogate rest

/-- Whether one stands in one of the fields. -/
def fieldsHoldSurrogate : List (Str × Value) → Bool
  | [] => false
  | (key, v) :: rest => key.isRough || v.holdsSurrogate || fieldsHoldSurrogate rest

end

theorem itemsHoldSurrogate_eq_any (items : List Value) :
    itemsHoldSurrogate items = items.any holdsSurrogate := by
  induction items with
  | nil => rfl
  | cons v items ih => rw [itemsHoldSurrogate, List.any_cons, ih]

theorem fieldsHoldSurrogate_eq_any (fields : List (Str × Value)) :
    fieldsHoldSurrogate fields =
      fields.any fun field => field.1.isRough || field.2.holdsSurrogate := by
  induction fields with
  | nil => rfl
  | cons field fields ih => rw [fieldsHoldSurrogate, List.any_cons, ih]

end Value

namespace Json

/-- A surrogate is not escaped. -/
theorem escaped_surrogate (n : Surrogate) : escaped (.surrogate n) = [.surrogate n] := by
  have high : ¬ (CodePoint.surrogate n).toNat < 0x20 := by
    rw [CodePoint.toNat]
    omega
  simp [escaped, high]

theorem any_isSurrogate_escaped (p : CodePoint) :
    (escaped p).any CodePoint.isSurrogate = p.isSurrogate := by
  cases p with
  | surrogate n => rw [escaped_surrogate, List.any_cons, List.any_nil, Bool.or_false]
  | char c =>
      unfold escaped
      split
      · rfl
      iterate 5
        split
        · rfl
      split
      · exact CodePoint.any_isSurrogate_map_char ('\\' :: 'u' :: Text.hexDigits 4 c.toNat)
      · rfl

theorem any_isSurrogate_string (s : Str) :
    (string s).any CodePoint.isSurrogate = s.isRough := by
  have content : (s.points.flatMap escaped).any CodePoint.isSurrogate = s.isRough := by
    rw [Str.isRough_eq_any, List.any_flatMap]
    exact congrArg s.points.any (funext any_isSurrogate_escaped)
  rw [string, List.any_cons, List.any_append, content]
  simp [CodePoint.isSurrogate]

mutual

/-- **A surrogate stands in the text of a value just when one stands in the value.** -/
theorem any_isSurrogate_compact : ∀ v, (compact v).any CodePoint.isSurrogate = v.holdsSurrogate
  | .null | .bool true | .bool false => rfl
  | .int n => CodePoint.any_isSurrogate_map_char (toString n).toList
  | .float x => CodePoint.any_isSurrogate_map_char (Decimal.shortestText "NaN" "Infinity" x)
  | .str s => any_isSurrogate_string s
  | .moment m => any_isSurrogate_string (String.ofList m.text)
  | .array [] => rfl
  | .array (v :: rest) => by
      rw [compact, List.any_cons, List.any_append, any_isSurrogate_compact v,
        any_isSurrogate_items rest]
      rfl
  | .object [] => rfl
  | .object ((key, v) :: rest) => by
      simp only [compact, List.any_cons, List.any_append, any_isSurrogate_string,
        any_isSurrogate_compact v, any_isSurrogate_fields rest, CodePoint.isSurrogate,
        Bool.false_or, Bool.or_assoc, Value.holdsSurrogate, Value.fieldsHoldSurrogate]

theorem any_isSurrogate_items : ∀ items,
    (compactItems items).any CodePoint.isSurrogate = Value.itemsHoldSurrogate items
  | [] => rfl
  | v :: rest => by
      simp only [compactItems, List.any_cons, List.any_append, any_isSurrogate_compact v,
        any_isSurrogate_items rest, CodePoint.isSurrogate, Bool.false_or, Value.itemsHoldSurrogate]

theorem any_isSurrogate_fields : ∀ fields,
    (compactFields fields).any CodePoint.isSurrogate = Value.fieldsHoldSurrogate fields
  | [] => rfl
  | (key, v) :: rest => by
      simp only [compactFields, List.any_cons, List.any_append, any_isSurrogate_string,
        any_isSurrogate_compact v, any_isSurrogate_fields rest, CodePoint.isSurrogate,
        Bool.false_or, Bool.or_assoc, Value.fieldsHoldSurrogate]

end

theorem isRough_compact (v : Value) : (Str.ofPoints (compact v)).isRough = v.holdsSurrogate := by
  rw [Str.isRough_ofPoints, any_isSurrogate_compact]

end Json

end CaptureDesk
