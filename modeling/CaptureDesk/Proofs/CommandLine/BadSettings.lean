import CaptureDesk.Proofs.CommandLine.Init
import CaptureDesk.Proofs.Settings.Legible

/-!
# Commands and a settings file that is not accepted

A command whose words are sound loads its settings before it does anything else, so a fault in the
settings file stops it with nothing printed and nothing changed (`Invocation.stops_perform`).  The
user is told what is wrong with the document.  Octets that are not legible are no such fault, and
break the command instead (`run_of_octets`).
-/

namespace CaptureDesk.CommandLine

variable {σ α β : Type} {c d e : Console σ}

/-! ## Parts of a command that stop it -/

/-- How a command is stopped by a fault in its settings file. -/
def Stop.ofFault : Fault → Stop
  | .settings fault => .failed fault.message
  | fault => .broken fault

namespace Run

variable {x : Run σ α} {f : α → Run σ β} {a : α} {stop : Stop} {fault : Fault}

theorem stops_settings {path : Path} {binary : Option Str}
    (refused : Settings.load c.workplace.files path binary = .error fault) :
    (settings path binary).Stops c (.ofFault fault) c := by
  refine (ends_files c).bind_stops ?_
  rw [refused]
  cases fault <;> rfl

theorem stops_load {s : Surroundings σ} {setup : Setup} {place : Place}
    (resolved : c.workplace.files.resolve (Path.ofText setup.config) = .ok place)
    (refused : Settings.load c.workplace.files (Path.ofPlace place) s.binary = .error fault) :
    (load s setup).Stops c (.ofFault fault) c :=
  (ends_settingsPath resolved).bind_stops (stops_settings refused)

end Run

/-! ## Commands that load settings -/

namespace Invocation

/-- The settings file that a command is given, if it has any use for one. -/
def config? : Invocation → Option Str
  | .init _ config => some config
  | .run _ _ setup | .edit _ _ _ setup | .view _ _ setup | .capture _ setup | .recognise _ setup =>
      some setup.config
  | .ingest _ => none

/-- What is looked at before settings are loaded is sound: an edit is an object, a capture is not
put in the place of a directory, and an image is a file. -/
def Sound (files : Files) : Invocation → Prop
  | .edit _ _ op _ => ∃ fields, Json.read op.points = .ok (.object fields)
  | .capture output _ => ∃ kind, files.lookAt output = .ok kind ∧ kind ≠ .directory
  | .recognise image _ => files.lookAt image = .ok .file
  | _ => True

/-- **A fault in the settings file stops the command before anything else.** -/
theorem stops_perform (s : Surroundings σ) {invocation : Invocation} {config : Str}
    (given : invocation.config? = some config) (sound : invocation.Sound c.workplace.files)
    {place : Place} (resolved : c.workplace.files.resolve (Path.ofText config) = .ok place)
    {fault : Fault} (refused : ∀ binary,
      Settings.load c.workplace.files (Path.ofPlace place) binary = .error fault) :
    (invocation.perform s).Stops c (.ofFault fault) c := by
  cases invocation with
  | ingest source => cases given
  | init binary config =>
      cases given
      exact (Run.ends_settingsPath resolved).bind_stops (Run.stops_settings (refused none)).bind
  | run label outputDir setup =>
      cases given
      exact (Run.stops_load resolved (refused s.binary)).bind
  | edit session base op setup =>
      cases given
      obtain ⟨fields, read⟩ := sound
      have operation : (editOperation op : Run σ Value).Ends c (.object fields) c := by
        rw [editOperation, read]
        exact Run.ends_pure _ c
      exact operation.bind_stops (Run.stops_load resolved (refused s.binary)).bind
  | view route session setup =>
      cases given
      exact (Run.stops_load resolved (refused s.binary)).bind
  | capture output setup =>
      cases given
      obtain ⟨kind, looked, noDirectory⟩ := sound
      refine (Run.ends_files c).bind_stops ?_
      refine (Run.ends_ofExcept looked c).bind_stops ?_
      rw [if_neg noDirectory]
      exact (Run.stops_load resolved (refused s.binary)).bind
  | recognise image setup =>
      cases given
      refine (Run.ends_files c).bind_stops ?_
      refine (Run.ends_ofExcept sound c).bind_stops ?_
      rw [if_neg (by decide)]
      exact (Run.stops_load resolved (refused s.binary)).bind

end Invocation

/-- The words ask for a command that loads its settings from a path. -/
def Loads (files : Files) (words : List Str) (p : Path) : Prop :=
  ∃ invocation config place, Invocation.ofWords? words = some invocation ∧
    invocation.config? = some config ∧ invocation.Sound files ∧
    files.resolve (Path.ofText config) = .ok place ∧ p = Path.ofPlace place

/-- The user is told what is wrong with the settings document, and nothing else happens. -/
structure Told (e : Ending σ) (w : Workplace σ) (fault : SettingsFault) : Prop where
  stop : e.stop = some (.failed fault.message)
  exitCode : e.exitCode = 1
  stderr : e.stderr = (Run.lineText ("Error: " ++ fault.message)).shown
  stdout : e.console.stdout = ""
  workplace : e.console.workplace = w

section Run

variable {w : Workplace σ} {words : List Str} {p : Path} {octets : List UInt8} {fault : Fault}

/-- A command line is stopped by a fault in its settings file. -/
theorem run_of_refused (s : Surroundings σ) (loads : Loads w.files words p)
    (refused : ∀ binary, Settings.load w.files p binary = .error fault) :
    run s w words =
      { stop := some (Stop.ofFault fault).settled, console := { workplace := w } } := by
  rcases loads with ⟨invocation, config, place, asked, given, sound, resolved, rfl⟩
  exact run_of_stops asked (Invocation.stops_perform s given sound resolved refused)

theorem told_of_refused (s : Surroundings σ) (loads : Loads w.files words p)
    {fault : SettingsFault}
    (refused : ∀ binary, Settings.load w.files p binary = .error (.settings fault)) :
    Told (run s w words) w fault := by
  rw [run_of_refused s loads refused]
  refine ⟨rfl, rfl, ?_, rfl, rfl⟩
  exact String.empty_append

/-- **What any octets of a settings file come to.**  They are loaded, or the fault is one of the
document, just if they are legible; a text without a numeral that is too long is.  A command that
loads them tells the user about a fault of the document.  If they are not legible it is broken by
the fault, and nobody is told. -/
theorem run_of_octets (s : Surroundings σ) (w : Workplace σ)
    (found : w.files.read p = .ok octets) :
    (∀ binary, Settings.Answered (Settings.load w.files p binary) ↔ Settings.Legible octets) ∧
    (∀ text, octets = Text.Utf8.encode text → ¬ Toml.HoldsLong (Text.unifyLines text) →
      Settings.Legible octets) ∧
    ∀ words, Loads w.files words p →
      (∀ fault, Settings.load w.files p none = .error (.settings fault) →
        Told (run s w words) w fault) ∧
      (¬ Settings.Legible octets → ∃ fault, Settings.load w.files p none = .error fault ∧
        run s w words = { stop := some (.broken fault), console := { workplace := w } }) := by
  have everywhere {fault : Fault} (refused : Settings.load w.files p none = .error fault)
      (binary : Option Str) : Settings.load w.files p binary = .error fault := by
    rw [Settings.load_eq_error_iff found] at refused ⊢
    exact refused
  refine ⟨Settings.answered_load_iff found, ?_, fun words loads => ⟨?_, ?_⟩⟩
  · intro text same short
    rw [same]
    exact Settings.legible_of_not_holdsLong short
  · intro fault refused
    exact told_of_refused s loads (everywhere refused)
  · intro illegible
    rcases Settings.ofOctets_of_not_legible illegible with ⟨fault, refused⟩ | ⟨count, refused⟩
    all_goals
      rw [← Settings.load_eq_error_iff found none] at refused
      exact ⟨_, refused, run_of_refused s loads (everywhere refused)⟩

/-- The user is told about a table without an end. -/
theorem run_of_octets_table_end :
    let w : Workplace Unit := { supply := (), files := home "[gateway" }
    let octets := Text.Utf8.encode "[gateway".toList
    let fault : SettingsFault := .unreadable "/home/conductor.toml"
      "Expected ']' at the end of a table declaration (at end of document)"
    w.files.read homeSettings = .ok octets ∧ Loads w.files ["view", "steps"] homeSettings ∧
      Settings.load w.files homeSettings none = .error (.settings fault) ∧
      Settings.Legible octets ∧ Told (run alone w ["view", "steps"]) w fault := by
  intro w octets fault
  obtain ⟨_, found, _⟩ := writable_empty_home.read_of_write octets
  have read : Toml.read (Text.unifyLines "[gateway".toList) = .error (.malformed .tableEnd []) := by
    decide +kernel
  have told : SettingsFault.unreadable homeSettings.text
      (Toml.Complaint.tableEnd.at (Text.unifyLines "[gateway".toList) []) = fault := by
    decide +kernel
  have refused : Settings.load w.files homeSettings none = .error (.settings fault) := by
    refine (Settings.load_eq_error_iff found none).mpr ?_
    rw [Settings.ofOctets, Text.Utf8.decode_encode]
    dsimp only
    rw [Settings.ofText, read, ← told]
  have loads : Loads w.files ["view", "steps"] homeSettings :=
    ⟨.view .steps none {}, "conductor.toml", _, by decide +kernel, rfl, trivial, resolve_home _,
      rfl⟩
  obtain ⟨answered, _, command⟩ := run_of_octets alone w found
  exact ⟨found, loads, refused, (answered none).mp (.inr ⟨fault, refused⟩),
    (command _ loads).1 fault refused⟩

/-- A single octet that begins no character breaks a command. -/
theorem not_answered_stray_octet :
    let w : Workplace Unit :=
      { supply := ()
        files := Files.put ⟨["", "home"], []⟩ ["", "home", "conductor.toml"] [0xFF] }
    let fault : Text.DecodeFault :=
      { encoding := "utf-8", first := 0xFF, start := 0, size := 1, reason := .start }
    w.files.read homeSettings = .ok [0xFF] ∧
      (∀ binary, ¬ Settings.Answered (Settings.load w.files homeSettings binary)) ∧
      run alone w ["init"] =
        { stop := some (.broken (.undecodable fault)), console := { workplace := w } } := by
  intro w fault
  obtain ⟨_, found, _⟩ := writable_empty_home.read_of_write [0xFF]
  have refused (binary : Option Str) :
      Settings.load w.files homeSettings binary = .error (.undecodable fault) := by
    rw [Settings.load_eq_error_iff found, Settings.ofOctets,
      show Text.Utf8.decode [0xFF] = .error fault by decide +kernel]
  have loads : Loads w.files ["init"] homeSettings :=
    ⟨.init none "conductor.toml", "conductor.toml", _, by decide +kernel, rfl, trivial,
      resolve_usual rfl, rfl⟩
  refine ⟨found, fun binary => ?_, run_of_refused alone loads refused⟩
  rw [refused, Settings.answered_error_iff]
  simp

end Run

end CaptureDesk.CommandLine
