import CaptureDesk.Fault
import CaptureDesk.Json.Writer

/-!
# Settings

The settings stand in four sections.  A setting may hold any value: it is not checked before it is
used.  A document gives some of the settings, and the others keep their defaults; a key that names
no setting is refused.
-/

namespace CaptureDesk

/-- The settings. -/
inductive Setting where
  | gatewayBinary
  | gatewayTimeout
  | captureBinary
  | recognitionBinary
  | helperTimeout
  | outputDir
  | labelPrefix
  | initialRoute
  deriving DecidableEq, Repr

/-- The sections. -/
inductive Division where
  | gateway
  | helpers
  | workflow
  | ui
  deriving DecidableEq, Repr

namespace Setting

/-- The key of a setting in its section. -/
def key : Setting → String
  | gatewayBinary => "binary"
  | gatewayTimeout => "timeout_seconds"
  | captureBinary => "capture_binary"
  | recognitionBinary => "recognition_binary"
  | helperTimeout => "timeout_seconds"
  | outputDir => "output_dir"
  | labelPrefix => "session_label_prefix"
  | initialRoute => "initial_route"

/-- The value of a setting that is not given. -/
def default : Setting → Value
  | gatewayBinary => .str "conductor-backend"
  | gatewayTimeout => .float 120.0
  | captureBinary => .str "conductor-capture"
  | recognitionBinary => .str "conductor-recognize"
  | helperTimeout => .float 60.0
  | outputDir => .str "exports"
  | labelPrefix => .str "handoff"
  | initialRoute => .str "permissions"

end Setting

namespace Division

/-- All sections in their order. -/
def all : List Division := [gateway, helpers, workflow, ui]

/-- The name of a section. -/
def name : Division → String
  | gateway => "gateway"
  | helpers => "helpers"
  | workflow => "workflow"
  | ui => "ui"

/-- The name of a section in messages. -/
def recordName : Division → String
  | gateway => "GatewayConfig"
  | helpers => "HelpersConfig"
  | workflow => "WorkflowConfig"
  | ui => "UiConfig"

/-- The settings of a section in their order. -/
def settings : Division → List Setting
  | gateway => [.gatewayBinary, .gatewayTimeout]
  | helpers => [.captureBinary, .recognitionBinary, .helperTimeout]
  | workflow => [.outputDir, .labelPrefix]
  | ui => [.initialRoute]

/-- The setting of a section under a key. -/
def setting? (d : Division) (key : Str) : Option Setting :=
  d.settings.find? fun k => .plain k.key == key

end Division

/-- A value for each setting. -/
structure Settings where
  value : Setting → Value := Setting.default

namespace Settings

@[ext] theorem ext {s t : Settings} (h : ∀ k, s.value k = t.value k) : s = t := by
  cases s; cases t; simpa using funext h

/-- Gives a setting a value. -/
def set (s : Settings) (k : Setting) (v : Value) : Settings :=
  ⟨fun other => if other = k then v else s.value other⟩

@[simp] theorem value_set (s : Settings) (k other : Setting) (v : Value) :
    (s.set k v).value other = if other = k then v else s.value other := rfl

/-- Takes in the entries of a section.  The first key that names no setting of it is refused. -/
def takeEntries (d : Division) (s : Settings) : List (Str × Value) → Except Fault Settings
  | [] => .ok s
  | (key, v) :: rest =>
      match d.setting? key with
      | some k => takeEntries d (s.set k v) rest
      | none =>
          .error <| .settings <|
            if key = "self" then .reservedKey d.recordName else .unknownKey d.recordName key

/-- Takes in a section of a document, which has to be a table if it is there. -/
def takeSection (table : Table Value) (s : Settings) (d : Division) : Except Fault Settings :=
  match table.get? d.name with
  | none => .ok s
  | some (.object entries) => takeEntries d s entries
  | some v => .error (.settings (.notTable d.recordName v.kind))

/-- The settings that a document gives. -/
def ofTable (table : Table Value) : Except Fault Settings :=
  Division.all.foldlM (takeSection table) {}

/-- The entries of a section. -/
def entries (s : Settings) (d : Division) : List (Str × Value) :=
  d.settings.map fun k => (k.key, s.value k)

/-- The settings as an object. -/
def toValue (s : Settings) : Value :=
  .object (Division.all.map fun d => (d.name, .object (s.entries d)))

end Settings

end CaptureDesk
