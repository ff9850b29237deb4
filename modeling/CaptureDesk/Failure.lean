import CaptureDesk.Value.Text

/-!
# Failures

The structured error that an operation answers with: a code from a closed list, a message for the
user, and what can be done about it.  A failure travels as an object; whatever is not such an object
is turned into a failure with the code `INTERNAL`.
-/

namespace CaptureDesk

/-- The codes of failures. -/
inductive ErrorCode where
  | permissionDenied
  | validationFailed
  | notFound
  | conflict
  | policyBlocked
  | networkBlocked
  | exportGateFailed
  | providerSchemaInvalid
  | io
  | db
  | jobCancelled
  | unsupported
  | internal
  deriving DecidableEq, Repr

namespace ErrorCode

/-- All codes. -/
def all : List ErrorCode :=
  [permissionDenied, validationFailed, notFound, conflict, policyBlocked, networkBlocked,
    exportGateFailed, providerSchemaInvalid, io, db, jobCancelled, unsupported, internal]

/-- A code as it is written. -/
def name : ErrorCode → String
  | permissionDenied => "PERMISSION_DENIED"
  | validationFailed => "VALIDATION_FAILED"
  | notFound => "NOT_FOUND"
  | conflict => "CONFLICT"
  | policyBlocked => "POLICY_BLOCKED"
  | networkBlocked => "NETWORK_BLOCKED"
  | exportGateFailed => "EXPORT_GATE_FAILED"
  | providerSchemaInvalid => "PROVIDER_SCHEMA_INVALID"
  | io => "IO"
  | db => "DB"
  | jobCancelled => "JOB_CANCELLED"
  | unsupported => "UNSUPPORTED"
  | internal => "INTERNAL"

/-- The code that is written so. -/
def ofName? (name : Str) : Option ErrorCode :=
  all.find? fun code => .plain code.name == name

theorem mem_all (code : ErrorCode) : code ∈ all := by
  cases code <;> decide

theorem ofName?_name (code : ErrorCode) : ofName? code.name = some code := by
  cases code <;> rfl

end ErrorCode

/-- A structured error. -/
structure Failure where
  code : ErrorCode
  message : Str
  details : Option Str := none
  recoverable : Bool := false
  actionHint : Option Str := none
  deriving DecidableEq, Repr

namespace Failure

/-- A failure of the program itself. -/
def internal (message : Str) (details : Option Str := none) : Failure :=
  { code := .internal, message, details }

/-- A failure as an object, without the fields that are absent. -/
def toValue (f : Failure) : Value :=
  let required : List (Str × Value) :=
    [("code", .str f.code.name), ("message", .str f.message), ("recoverable", .bool f.recoverable)]
  let present (key : Str) (s : Option Str) : List (Str × Value) := (s.map ((key, .str ·))).toList
  .object (required ++ present "details" f.details ++ present "action_hint" f.actionHint)

/-- A failure as it is printed: its code and message, and a line each for what else is known. -/
def printed (f : Failure) : Str :=
  let line (label : String) : Option Str → Str
    | none | some "" => ""
    | some text => "\n  " ++ label ++ ": " ++ text
  f.code.name ++ ": " ++ f.message ++ line "details" f.details ++ line "hint" f.actionHint

/-- The failure that an object stands for.  It needs a code and a message that are strings; an
unknown code is read as `INTERNAL`, and a further field of the wrong kind as absent. -/
def ofValue? (v : Value) : Option Failure :=
  match v.field "code", v.field "message" with
  | .str code, .str message =>
      some
        { code := (ErrorCode.ofName? code).getD .internal
          message
          details := (v.field "details").str?
          recoverable := (v.field "recoverable").bool?.getD false
          actionHint := (v.field "action_hint").str? }
  | _, _ => none

end Failure

/-- Any value as a failure: an object may stand for one, and anything else is shown in the message
of an internal failure. -/
def Failure.ofValue (v : Value) : Failure :=
  match Failure.ofValue? v with
  | some f => f
  | none => Failure.internal (if v = .null then "Unknown gateway error" else v.text)

end CaptureDesk
