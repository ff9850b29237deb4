import CaptureDesk.Moment
import CaptureDesk.Table

/-!
# Values

What documents hold: the answers of the backend and the lines of the push channels are JSON, the
settings are TOML, and both are read into one type.  JSON has no moments and TOML no null.  Whole
and floating-point numbers stay apart, and an object keeps its fields in order.
-/

namespace CaptureDesk

/-- A value of a document. -/
inductive Value where
  | null
  | bool (b : Bool)
  | int (n : Int)
  | float (x : Float)
  | str (s : Str)
  | moment (m : Moment)
  | array (items : List Value)
  | object (fields : List (Str × Value))
  deriving Repr, Inhabited

namespace Value

mutual

/-- Whether two values are the same. -/
def decEq (a b : Value) : Decidable (a = b) :=
  match a, b with
  | .null, .null => isTrue rfl
  | .bool a, .bool b => decidable_of_iff (a = b) (by rw [Value.bool.injEq])
  | .int a, .int b => decidable_of_iff (a = b) (by rw [Value.int.injEq])
  | .float a, .float b => decidable_of_iff (a = b) (by rw [Value.float.injEq])
  | .str a, .str b => decidable_of_iff (a = b) (by rw [Value.str.injEq])
  | .moment a, .moment b => decidable_of_iff (a = b) (by rw [Value.moment.injEq])
  | .array a, .array b =>
      match decEqItems a b with
      | isTrue h => isTrue (by rw [h])
      | isFalse h => isFalse fun e => h (Value.array.inj e)
  | .object a, .object b =>
      match decEqFields a b with
      | isTrue h => isTrue (by rw [h])
      | isFalse h => isFalse fun e => h (Value.object.inj e)
  | .null, .bool _ | .null, .int _ | .null, .float _ | .null, .str _
  | .null, .moment _ | .null, .array _ | .null, .object _ => isFalse nofun
  | .bool _, .null | .bool _, .int _ | .bool _, .float _ | .bool _, .str _
  | .bool _, .moment _ | .bool _, .array _ | .bool _, .object _ => isFalse nofun
  | .int _, .null | .int _, .bool _ | .int _, .float _ | .int _, .str _
  | .int _, .moment _ | .int _, .array _ | .int _, .object _ => isFalse nofun
  | .float _, .null | .float _, .bool _ | .float _, .int _ | .float _, .str _
  | .float _, .moment _ | .float _, .array _ | .float _, .object _ => isFalse nofun
  | .str _, .null | .str _, .bool _ | .str _, .int _ | .str _, .float _
  | .str _, .moment _ | .str _, .array _ | .str _, .object _ => isFalse nofun
  | .moment _, .null | .moment _, .bool _ | .moment _, .int _ | .moment _, .float _
  | .moment _, .str _ | .moment _, .array _ | .moment _, .object _ => isFalse nofun
  | .array _, .null | .array _, .bool _ | .array _, .int _ | .array _, .float _
  | .array _, .str _ | .array _, .moment _ | .array _, .object _ => isFalse nofun
  | .object _, .null | .object _, .bool _ | .object _, .int _ | .object _, .float _
  | .object _, .str _ | .object _, .moment _ | .object _, .array _ => isFalse nofun

/-- Whether two lists of values are the same. -/
def decEqItems (a b : List Value) : Decidable (a = b) :=
  match a, b with
  | [], [] => isTrue rfl
  | a :: as, b :: bs =>
      match decEq a b, decEqItems as bs with
      | isTrue h, isTrue t => isTrue (by rw [h, t])
      | isFalse h, _ => isFalse fun e => h (List.cons.inj e).1
      | _, isFalse t => isFalse fun e => t (List.cons.inj e).2
  | [], _ :: _ | _ :: _, [] => isFalse nofun

/-- Whether two lists of fields are the same. -/
def decEqFields (a b : List (Str × Value)) : Decidable (a = b) :=
  match a, b with
  | [], [] => isTrue rfl
  | (k, a) :: as, (l, b) :: bs =>
      match decEq a b, decEqFields as bs with
      | isTrue h, isTrue t =>
          if e : k = l then isTrue (by rw [e, h, t])
          else isFalse fun c => e (Prod.mk.inj (List.cons.inj c).1).1
      | isFalse h, _ => isFalse fun e => h (Prod.mk.inj (List.cons.inj e).1).2
      | _, isFalse t => isFalse fun e => t (List.cons.inj e).2
  | [], _ :: _ | _ :: _, [] => isFalse nofun

end

instance : DecidableEq Value := decEq

/-- The fields of an object, and none for any other value. -/
def fields : Value → Table Value
  | .object fields => fields
  | _ => []

/-- The field of an object under a key; other values have no fields. -/
def field? (v : Value) (key : Str) : Option Value :=
  v.fields.get? key

/-- The field of an object under a key, null when it is not there. -/
def field (v : Value) (key : Str) : Value :=
  (v.field? key).getD .null

/-- Whether a value is an object. -/
def isObject : Value → Bool
  | .object _ => true
  | _ => false

/-- A string. -/
def str? : Value → Option Str
  | .str s => some s
  | _ => none

/-- A whole number; truth values are none. -/
def int? : Value → Option Int
  | .int n => some n
  | _ => none

/-- A truth value. -/
def bool? : Value → Option Bool
  | .bool b => some b
  | _ => none

/-- The items of an array, and none for any other value. -/
def items : Value → List Value
  | .array items => items
  | _ => []

/-- The array under a key of an object, and the empty one when there is none. -/
def itemsAt (v : Value) (key : Str) : List Value :=
  (v.field key).items

/-- A string that is not empty. -/
def nonEmptyStr? : Value → Option Str
  | .str s => if s = "" then none else some s
  | _ => none

/-- Whether a value counts as true: null, false, zero and whatever is empty do not. -/
def truthy : Value → Bool
  | .null => false
  | .bool b => b
  | .int n => n != 0
  | .float x => x != 0
  | .str s => s != ""
  | .moment _ => true
  | .array items => !items.isEmpty
  | .object fields => !fields.isEmpty

/-- The name of a value's kind, as messages give it. -/
def kind : Value → String
  | .null => "NoneType"
  | .bool _ => "bool"
  | .int _ => "int"
  | .float _ => "float"
  | .str _ => "str"
  | .moment m => "datetime." ++ m.kind
  | .array _ => "list"
  | .object _ => "dict"

/-- A string, or null where there is none. -/
def ofText? : Option Str → Value
  | some s => .str s
  | none => .null

end Value

end CaptureDesk
