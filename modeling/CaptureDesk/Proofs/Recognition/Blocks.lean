import CaptureDesk.Proofs.Decimal.Doubles
import CaptureDesk.Proofs.Steps
import CaptureDesk.Recognition

/-!
# The blocks of a document

A document is accepted when it is an array in which every item is a block, and the blocks found are
those of the items in their order.  Of the items that are none the first settles the fault, and of
the checks of that item the first that fails.
-/

namespace CaptureDesk.Recognition

/-! ## Numbers between zero and one -/

/-- `InRange v x`: the value `v` is a number between zero and one, and `x` is the double for it.
Truth values are no numbers. -/
inductive InRange : Value → Float → Prop
  | whole {n : Int} (low : 0 ≤ n) (high : n ≤ 1) : InRange (.int n) (Float.ofInt n)
  | double {x : Float} (isFinite : x.isFinite = true) (low : 0 ≤ x) (high : x ≤ 1) :
      InRange (.float x) x

/-- A value that is a whole number with no double near it. -/
def Beyond (v : Value) : Prop :=
  ∃ n : Int, v = .int n ∧ Decimal.beyondFloat ≤ n.natAbs

/-- Why there is no number between zero and one in a value. -/
inductive Unusable (reason : String) (v : Value) : Fault → Prop
  | beyond (beyond : Beyond v) : Unusable reason v .tooLarge
  | outside (bounded : ¬ Beyond v) (outside : ∀ x, ¬ InRange v x) :
      Unusable reason v (schemaFault reason)

section Numbers

variable {v : Value} {x : Float} {reason : String} {fault : Fault}

theorem InRange.unit (inRange : InRange v x) : 0 ≤ x ∧ x ≤ 1 := by
  cases inRange with
  | whole low high =>
      exact (Decimal.unit_iff_of_ofInt? (Decimal.ofInt?_of_unit low high)).2 ⟨low, high⟩
  | double _ low high => exact ⟨low, high⟩

theorem inRange_float : InRange (.float x) x ↔ 0 ≤ x ∧ x ≤ 1 :=
  ⟨InRange.unit, fun unit => .double (Decimal.isFinite_of_unit unit.1 unit.2) unit.1 unit.2⟩

theorem InRange.double_unique {y : Float} (left : InRange v x) (right : InRange v y) : x = y := by
  cases left <;> cases right <;> rfl

theorem InRange.not_beyond (inRange : InRange v x) : ¬ Beyond v := by
  rintro ⟨n, rfl, far⟩
  cases inRange with
  | whole low high =>
      have : 1 < Decimal.beyondFloat := by decide +kernel
      omega

/-- A value that is a number with a double near it is looked at through that double. -/
theorem unit?_cases (v : Value) :
    (∃ x, InRange v x ∧ unit? v = .ok (some x)) ∨
      (Beyond v ∧ unit? v = .error .tooLarge) ∨
        (¬ Beyond v ∧ (∀ x, ¬ InRange v x) ∧ unit? v = .ok none) := by
  have judged (x : Float) : (if 0 ≤ x && x ≤ 1 then some x else none) =
      if 0 ≤ x ∧ x ≤ 1 then some x else none := by simp
  cases v with
  | int n =>
      by_cases near : n.natAbs < Decimal.beyondFloat
      · obtain ⟨x, double⟩ : ∃ x, Decimal.ofInt? n = some x := ⟨_, if_pos near⟩
        have judge := Decimal.unit_iff_of_ofInt? double
        by_cases inside : 0 ≤ n ∧ n ≤ 1
        · have unit := Decimal.ofInt?_of_unit inside.1 inside.2
          obtain rfl := Option.some.inj (double.symm.trans unit)
          refine .inl ⟨_, .whole inside.1 inside.2, ?_⟩
          simp only [unit?, double, judged, if_pos (judge.2 inside)]
        · refine .inr (.inr ⟨?_, ?_, ?_⟩)
          · rintro ⟨_, ⟨⟩, far⟩
            exact absurd near (Nat.not_lt.2 far)
          · rintro _ (⟨low, high⟩ | _)
            exact inside ⟨low, high⟩
          · simp only [unit?, double, judged, if_neg (judge.not.2 inside)]
      · refine .inr (.inl ⟨⟨n, rfl, Nat.le_of_not_lt near⟩, ?_⟩)
        simp [unit?, Decimal.ofInt?, near]
  | float x =>
      by_cases inside : 0 ≤ x ∧ x ≤ 1
      · exact .inl ⟨x, inRange_float.2 inside, by simp only [unit?, judged, if_pos inside]⟩
      · refine .inr (.inr ⟨?_, ?_, by simp only [unit?, judged, if_neg inside]⟩)
        · rintro ⟨_, ⟨⟩, _⟩
        · rintro _ (_ | ⟨_, low, high⟩)
          exact inside ⟨low, high⟩
  | _ => exact .inr (.inr ⟨by rintro ⟨_, ⟨⟩, _⟩, by rintro _ ⟨⟩, rfl⟩)

theorem Unusable.not_inRange (unusable : Unusable reason v fault) : ¬ InRange v x := by
  cases unusable with
  | beyond beyond => exact fun inRange => inRange.not_beyond beyond
  | outside _ outside => exact outside x

theorem Unusable.fault_unique {other : Fault} (left : Unusable reason v fault)
    (right : Unusable reason v other) : fault = other := by
  cases left with
  | beyond beyond =>
      cases right with
      | beyond => rfl
      | outside bounded => exact absurd beyond bounded
  | outside bounded =>
      cases right with
      | beyond beyond => exact absurd beyond bounded
      | outside => rfl

/-- A number between zero and one is found in a value, or there is a reason why there is none. -/
theorem unit_cases (reason : String) (v : Value) :
    (∃ x, InRange v x ∧ unit reason v = .ok x) ∨
      ∃ fault, Unusable reason v fault ∧ unit reason v = .error fault := by
  obtain ⟨x, inRange, found⟩ | ⟨beyond, found⟩ | ⟨bounded, outside, found⟩ := unit?_cases v
  · exact .inl ⟨x, inRange, by rw [unit, found]; rfl⟩
  · exact .inr ⟨_, .beyond beyond, by rw [unit, found]; rfl⟩
  · exact .inr ⟨_, .outside bounded outside, by rw [unit, found]; rfl⟩

theorem unit_eq_ok_iff : unit reason v = .ok x ↔ InRange v x := by
  obtain ⟨y, inRange, found⟩ | ⟨fault, unusable, found⟩ := unit_cases reason v
  · rw [found, Except.ok.injEq]
    exact ⟨fun same => same ▸ inRange, inRange.double_unique⟩
  · rw [found]
    exact ⟨nofun, fun inRange => absurd inRange unusable.not_inRange⟩

theorem unit_eq_error_iff : unit reason v = .error fault ↔ Unusable reason v fault := by
  obtain ⟨x, inRange, found⟩ | ⟨other, unusable, found⟩ := unit_cases reason v
  · rw [found]
    exact ⟨nofun, fun unusable => absurd inRange unusable.not_inRange⟩
  · rw [found, Except.error.injEq]
    exact ⟨fun same => same ▸ unusable, unusable.fault_unique⟩

end Numbers

/-! ## Blocks -/

/-- The box may reach past the image by the distance from one to the next double. -/
theorem edge_eq : edge = 1 + 1 / 4503599627370496 := by decide +kernel

/-- `Headed v text`: the value `v` is an object with a text that is not blank. -/
structure Headed (v : Value) (text : Str) : Prop where
  object : ∃ fields, v = .object fields
  held : v.field "text" = .str text
  visible : ∃ p ∈ text.points, p.isBlank = false

/-- `Numbered v confidence box`: the fields of the value `v` hold these numbers. -/
structure Numbered (v : Value) (confidence : Float) (box : Box) : Prop where
  confidence : InRange (v.field "confidence") confidence
  x : InRange (v.field "x") box.x
  y : InRange (v.field "y") box.y
  w : InRange (v.field "w") box.w
  h : InRange (v.field "h") box.h

/-- A box has an extent, and does not reach past the image. -/
structure Inside (box : Box) : Prop where
  wide : 0 < box.w
  high : 0 < box.h
  right : ¬ edge < box.x + box.w
  bottom : ¬ edge < box.y + box.h

/-- `IsBlock v b`: the value `v` is a recognised text, and `b` holds it unchanged. -/
structure IsBlock (v : Value) (b : TextBlock) : Prop where
  headed : Headed v b.text
  numbered : Numbered v b.confidence b.box
  inside : Inside b.box

/-- The fields of a block that hold a number, in the order in which they are looked at. -/
def numberKeys : List String := ["confidence", "x", "y", "w", "h"]

/-- The reason for which a block is refused whose number under a key is not between zero and
one. -/
def rangeReason (key : String) : String :=
  if key = "confidence" then "confidence out of range" else "bbox out of range"

/-- The fault of the first of the numbers of a block that is not between zero and one. -/
def FirstUnusable (v : Value) (fault : Fault) : Prop :=
  ∃ before key after, numberKeys = before ++ key :: after ∧
    (∀ k ∈ before, ∃ x, InRange (v.field (.plain k)) x) ∧
    Unusable (rangeReason key) (v.field (.plain key)) fault

/-- `Refused v fault`: the value `v` is no block, and `fault` is that of the first check that it
does not pass. -/
inductive Refused (v : Value) : Fault → Prop
  | notObject (notObject : ∀ fields, v ≠ .object fields) :
      Refused v (schemaFault "block must be an object")
  | blank (object : ∃ fields, v = .object fields)
      (blank : ∀ text, v.field "text" = .str text → ∀ p ∈ text.points, p.isBlank = true) :
      Refused v (schemaFault "text cannot be empty")
  | number {text : Str} {fault : Fault} (headed : Headed v text)
      (first : FirstUnusable v fault) : Refused v fault
  | flat {text : Str} {confidence : Float} {box : Box} (headed : Headed v text)
      (numbered : Numbered v confidence box) (flat : ¬ (0 < box.w ∧ 0 < box.h)) :
      Refused v (schemaFault "bbox must be positive")
  | exceeds {text : Str} {confidence : Float} {box : Box} (headed : Headed v text)
      (numbered : Numbered v confidence box) (extended : 0 < box.w ∧ 0 < box.h)
      (exceeds : edge < box.x + box.w ∨ edge < box.y + box.h) :
      Refused v (schemaFault "bbox exceeds normalized bounds")

section Block

variable {v : Value} {b : TextBlock} {fault : Fault}

theorem require_eq_ok_iff {condition : Bool} {reason : String} {u : Unit} :
    require condition reason = .ok u ↔ condition = true := by
  cases condition <;> simp [require]

theorem require_eq_error_iff {condition : Bool} {reason : String} :
    require condition reason = .error fault ↔ condition = false ∧ schemaFault reason = fault := by
  cases condition <;> simp [require]

theorem isObject_eq_true_iff : v.isObject = true ↔ ∃ fields, v = .object fields := by
  cases v <;> simp [Value.isObject]

theorem visible_iff {text : Str} :
    (!text.isBlank) = true ↔ ∃ p ∈ text.points, p.isBlank = false := by
  simp [Str.isBlank]

theorem headed_iff :
    v.isObject = true ∧ (!((v.field "text").str?.getD "").isBlank) = true ↔
      Headed v ((v.field "text").str?.getD "") := by
  rw [isObject_eq_true_iff, visible_iff]
  constructor
  · rintro ⟨object, visible⟩
    refine ⟨object, ?_, visible⟩
    cases held : v.field "text" with
    | str text => rfl
    | _ =>
        obtain ⟨p, member, -⟩ := visible
        rw [held] at member
        cases member
  · exact fun headed => ⟨headed.object, headed.visible⟩

theorem blank_iff :
    (!((v.field "text").str?.getD "").isBlank) = false ↔
      ∀ text, v.field "text" = .str text → ∀ p ∈ text.points, p.isBlank = true := by
  cases v.field "text" <;> simp [Value.str?, Str.isBlank]

theorem Headed.text_eq {text : Str} (headed : Headed v text) :
    (v.field "text").str?.getD "" = text := by
  rw [headed.held]
  rfl

theorem fits_iff {confidence : Float} {box : Box} (numbered : Numbered v confidence box) :
    (decide (box.x + box.w ≤ edge) && decide (box.y + box.h ≤ edge)) = true ↔
      ¬ edge < box.x + box.w ∧ ¬ edge < box.y + box.h := by
  have number : (Decimal.parts edge).isNaN = false := by decide +kernel
  rw [Bool.and_eq_true, decide_eq_true_iff, decide_eq_true_iff,
    Decimal.add_le_iff_not_lt numbered.x.unit numbered.w.unit number,
    Decimal.add_le_iff_not_lt numbered.y.unit numbered.h.unit number]

theorem block_eq_ok_iff : block v = .ok b ↔ IsBlock v b := by
  simp only [block, bind_eq_ok_iff, require_eq_ok_iff, unit_eq_ok_iff, pure, Except.pure,
    Except.ok.injEq]
  constructor
  · rintro ⟨-, object, -, visible, c, confidence, x, hx, y, hy, w, hw, h, hh, -, extended, -, fits,
      rfl⟩
    have numbered : Numbered v c ⟨x, y, w, h⟩ := ⟨confidence, hx, hy, hw, hh⟩
    obtain ⟨right, bottom⟩ := (fits_iff numbered).1 fits
    simp only [Bool.and_eq_true, decide_eq_true_eq] at extended
    exact ⟨headed_iff.1 ⟨object, visible⟩, numbered, extended.1, extended.2, right, bottom⟩
  · rintro ⟨headed, numbered, inside⟩
    obtain ⟨object, visible⟩ := headed_iff.2 (headed.text_eq.symm ▸ headed)
    have fits := (fits_iff numbered).2 ⟨inside.right, inside.bottom⟩
    have extended : (decide (0 < b.box.w) && decide (0 < b.box.h)) = true := by
      simp [inside.wide, inside.high]
    exact ⟨(), object, (), visible, _, numbered.confidence, _, numbered.x, _, numbered.y, _,
      numbered.w, _, numbered.h, (), extended, (), fits, by rw [headed.text_eq]⟩

/-- A text is kept with its white space, and a box may reach the edge of the image. -/
example :
    let v := Value.object
      [("text", .str " a "), ("confidence", .int 1), ("x", .int 0), ("y", .float 0.5),
        ("w", .int 1), ("h", .float 0.5)]
    let box : Box := { x := 0, y := 0.5, w := 1, h := 0.5 }
    block v = .ok { text := " a ", confidence := 1, box } := by
  decide +kernel

/-- The numbers are looked at one after the other. -/
theorem firstUnusable_iff :
    FirstUnusable v fault ↔
      Unusable "confidence out of range" (v.field "confidence") fault ∨
        ∃ c, InRange (v.field "confidence") c ∧
          (Unusable "bbox out of range" (v.field "x") fault ∨
            ∃ x, InRange (v.field "x") x ∧
              (Unusable "bbox out of range" (v.field "y") fault ∨
                ∃ y, InRange (v.field "y") y ∧
                  (Unusable "bbox out of range" (v.field "w") fault ∨
                    ∃ w, InRange (v.field "w") w ∧
                      Unusable "bbox out of range" (v.field "h") fault))) := by
  have steps : FirstUnusable v fault ↔
      numberKeys.mapM (fun key => unit (rangeReason key) (v.field key)) = .error fault := by
    rw [mapM_eq_error_iff]
    simp only [FirstUnusable, unit_eq_ok_iff, unit_eq_error_iff]
  rw [steps]
  simp [numberKeys, rangeReason, bind_eq_error_iff, unit_eq_error_iff, unit_eq_ok_iff, pure,
    Except.pure]

theorem extended_eq_false_iff {box : Box} :
    (decide (0 < box.w) && decide (0 < box.h)) = false ↔ ¬ (0 < box.w ∧ 0 < box.h) := by
  rw [← Bool.not_eq_true, Bool.and_eq_true, decide_eq_true_iff, decide_eq_true_iff]

theorem exceeds_iff {confidence : Float} {box : Box} (numbered : Numbered v confidence box) :
    (decide (box.x + box.w ≤ edge) && decide (box.y + box.h ≤ edge)) = false ↔
      edge < box.x + box.w ∨ edge < box.y + box.h := by
  rw [← Bool.not_eq_true, fits_iff numbered, not_and_or, not_not, not_not]

/-- What follows the numbers is looked at when they are all there. -/
theorem numbers_iff {rest : Float → Float → Float → Float → Float → Prop} :
    (Unusable "confidence out of range" (v.field "confidence") fault ∨
        ∃ c, InRange (v.field "confidence") c ∧
          (Unusable "bbox out of range" (v.field "x") fault ∨
            ∃ x, InRange (v.field "x") x ∧
              (Unusable "bbox out of range" (v.field "y") fault ∨
                ∃ y, InRange (v.field "y") y ∧
                  (Unusable "bbox out of range" (v.field "w") fault ∨
                    ∃ w, InRange (v.field "w") w ∧
                      (Unusable "bbox out of range" (v.field "h") fault ∨
                        ∃ h, InRange (v.field "h") h ∧ rest c x y w h))))) ↔
      FirstUnusable v fault ∨
        ∃ c x y w h, Numbered v c { x, y, w, h } ∧ rest c x y w h := by
  rw [firstUnusable_iff]
  constructor
  · rintro (bad | ⟨c, hc, bad | ⟨x, hx, bad | ⟨y, hy, bad | ⟨w, hw, bad | ⟨h, hh, rest⟩⟩⟩⟩⟩)
    case inr.inr.inr.inr.inr => exact .inr ⟨c, x, y, w, h, ⟨hc, hx, hy, hw, hh⟩, rest⟩
    all_goals grind
  · rintro (first | ⟨c, x, y, w, h, ⟨hc, hx, hy, hw, hh⟩, rest⟩)
    · grind
    · grind

theorem block_eq_error_iff : block v = .error fault ↔ Refused v fault := by
  simp only [block, bind_eq_error_iff, require_eq_ok_iff, require_eq_error_iff, unit_eq_ok_iff,
    unit_eq_error_iff, pure, Except.pure, reduceCtorEq, numbers_iff]
  constructor
  · rintro (⟨notObject, rfl⟩ | ⟨-, object, ⟨blank, rfl⟩ | ⟨-, visible, numbers⟩⟩)
    · exact .notObject (by rintro fields rfl; cases notObject)
    · exact .blank (isObject_eq_true_iff.1 object) (blank_iff.1 blank)
    · have headed := headed_iff.1 ⟨object, visible⟩
      obtain first | ⟨c, x, y, w, h, numbered, ⟨flat, rfl⟩ | ⟨-, extended, exceeds⟩⟩ := numbers
      · exact .number headed first
      · exact .flat headed numbered (extended_eq_false_iff.1 flat)
      · obtain ⟨exceeds, rfl⟩ | ⟨-, -, ⟨⟩⟩ := exceeds
        simp only [Bool.and_eq_true, decide_eq_true_eq] at extended
        exact .exceeds headed numbered extended ((exceeds_iff numbered).1 exceeds)
  · intro refused
    cases refused with
    | notObject notObject =>
        refine .inl ⟨?_, rfl⟩
        rw [← Bool.not_eq_true, isObject_eq_true_iff, not_exists]
        exact notObject
    | blank object blank =>
        exact .inr ⟨(), isObject_eq_true_iff.2 object, .inl ⟨blank_iff.2 blank, rfl⟩⟩
    | number headed first =>
        obtain ⟨object, visible⟩ := headed_iff.2 (headed.text_eq.symm ▸ headed)
        exact .inr ⟨(), object, .inr ⟨(), visible, .inl first⟩⟩
    | flat headed numbered flat =>
        obtain ⟨object, visible⟩ := headed_iff.2 (headed.text_eq.symm ▸ headed)
        exact .inr ⟨(), object, .inr ⟨(), visible, .inr ⟨_, _, _, _, _, numbered,
          .inl ⟨extended_eq_false_iff.2 flat, rfl⟩⟩⟩⟩
    | exceeds headed numbered extended exceeds =>
        obtain ⟨object, visible⟩ := headed_iff.2 (headed.text_eq.symm ▸ headed)
        exact .inr ⟨(), object, .inr ⟨(), visible, .inr ⟨_, _, _, _, _, numbered,
          .inr ⟨(), by simpa using extended, .inl ⟨(exceeds_iff numbered).2 exceeds, rfl⟩⟩⟩⟩⟩

end Block

/-! ## Documents -/

section Document

variable {v : Value} {document : Value} {fault : Fault}

theorem blocks_eq_error_iff :
    blocks document = .error fault ↔
      ((∀ items, document ≠ .array items) ∧
          fault = schemaFault "expected a JSON array of blocks") ∨
        ∃ before bad after, document = .array (before ++ bad :: after) ∧
          (∀ v ∈ before, ∃ b, IsBlock v b) ∧ Refused bad fault := by
  cases document with
  | array items =>
      rw [blocks, mapM_eq_error_iff]
      simp [block_eq_ok_iff, block_eq_error_iff]
  | _ => simp [blocks, eq_comm]

end Document

end CaptureDesk.Recognition
