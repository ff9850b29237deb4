import CaptureDesk.Failure
import CaptureDesk.Json.Reader
import CaptureDesk.SystemFault

/-!
# Faults

An operation that cannot answer at all ends in a fault.  Each constructor is a cause; the words for
it are computed from it.
-/

namespace CaptureDesk

/-- Why a capture or recognition helper did not deliver. -/
structure HelperFault where
  message : Str
  code : ErrorCode := .io
  helper : String
  exitCode : Option Int := none
  recoverable : Bool := true
  deriving DecidableEq, Repr

/-- A helper's fault as a structured error. -/
def HelperFault.failure (f : HelperFault) : Failure :=
  { code := f.code, message := f.message, recoverable := f.recoverable }

/-- Why a settings document was not accepted. -/
inductive SettingsFault where
  /-- The document is not TOML. -/
  | unreadable (path : Str) (detail : String)
  /-- A section is no table but a value of some other kind. -/
  | notTable (record kind : String)
  /-- A section has a key that names no setting. -/
  | unknownKey (record : String) (key : Str)
  /-- A section has the key `self`, which is reserved. -/
  | reservedKey (record : String)
  deriving DecidableEq, Repr

/-- The words for a fault in a settings document. -/
def SettingsFault.message : SettingsFault → Str
  | unreadable path detail => "Could not parse " ++ path ++ ": " ++ detail
  | notTable record kind =>
      "Invalid configuration: conductor.config." ++ record ++
        "() argument after ** must be a mapping, not " ++ kind
  | unknownKey record key =>
      "Invalid configuration: " ++ record ++ ".__init__() got an unexpected keyword argument '" ++
        key ++ "'"
  | reservedKey record =>
      "Invalid configuration: " ++ record ++
        ".__init__() got multiple values for argument 'self'"

/-- The causes for which an operation ends without an answer. -/
inductive Fault where
  /-- The operating system refused something. -/
  | system (fault : SystemFault)
  /-- A report of the operating system cannot be made of its values. -/
  | unreportable (flaw : SystemFault.Flaw)
  /-- A path holds the character that ends a path for the operating system. -/
  | brokenPath
  | helper (fault : HelperFault)
  | settings (fault : SettingsFault)
  /-- Octets that should be a text are none. -/
  | undecodable (fault : Text.DecodeFault)
  /-- A string with a surrogate in it is to be written as octets. -/
  | unencodable (fault : EncodeFault)
  | unknownRoute (name : Str)
  /-- A whole number that is read has more digits than are converted. -/
  | tooManyDigits (count : Nat)
  /-- A value cannot be written. -/
  | unwritable (refusal : Json.Refusal)
  /-- A value of this kind is in no closed list of words, nor can it be looked up in one. -/
  | unhashable (kind : String)
  /-- A value of this kind has no order with whole numbers. -/
  | unordered (kind : String)
  /-- A whole number has no floating-point number near it. -/
  | tooLarge
  deriving DecidableEq, Repr

/-- The words for a fault. -/
def Fault.message : Fault → Str
  | system f => f.message
  | unreportable flaw => flaw.message
  | brokenPath => "embedded null byte"
  | helper f => f.message
  | settings f => f.message
  | undecodable f => f.message
  | unencodable f => f.message
  | unknownRoute name => "Unknown route: " ++ name
  | tooManyDigits count => (Json.Fault.tooManyDigits count).message []
  | unwritable refusal => refusal.message
  | unhashable kind => "unhashable type: '" ++ kind ++ "'"
  | unordered kind => "'>' not supported between instances of '" ++ kind ++ "' and 'int'"
  | tooLarge => "int too large to convert to float"

end CaptureDesk
