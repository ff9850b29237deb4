import CaptureDesk.Proofs.Settings.Saved
import CaptureDesk.Proofs.Steps
import CaptureDesk.Proofs.Toml.Keyed

/-!
# Settings that are saved are loaded, or not

Settings can be saved just if no number in them is too long to be written and no surrogate stands in
a string that is written as it is (`exists_save_iff`).  The file is then loaded as what is left of
the settings if no string in them holds U+007F, and is refused otherwise (`load_saved`): the
character is written as it is, and no document may hold it.  The environment has no part in this.
-/

namespace CaptureDesk.Settings

variable {s : Settings} {f saved : Files} {p : Path} {place : Place}

/-! ## Settings that may be saved -/

theorem AllShort.set {v : Value} (short : s.AllShort) (k : Setting)
    (own : holdsOverlong v = false) : (s.set k v).AllShort := by
  intro other
  rw [value_set]
  split
  · exact own
  · exact short other

theorem AllClean.set {v : Value} (clean : s.AllClean) (k : Setting) (own : Clean v) :
    (s.set k v).AllClean := by
  intro other
  rw [value_set]
  split
  · exact own
  · exact clean other

theorem AllSmooth.withBackend (smooth : s.AllSmooth) {binary : Option Str}
    (plain : ∀ name ∈ binary, name.isRough = false) : (s.withBackend binary).AllSmooth := by
  unfold Settings.withBackend
  split
  · exact smooth
  · exact smooth
  · intro other
    rw [value_set]
    split
    · exact plain _ rfl
    · exact smooth other

/-- A backend whose name cannot be encoded makes settings that cannot be. -/
theorem not_smooth_withBackend (s : Settings) {name : Str} (rough : name.isRough = true) :
    ¬ (s.withBackend (some name)).AllSmooth := by
  cases name with
  | plain => cases rough
  | rough => exact fun smooth => Bool.noConfusion (smooth .gatewayBinary)

theorem AllShort.withBackend (short : s.AllShort) (binary : Option Str) :
    (s.withBackend binary).AllShort := by
  unfold Settings.withBackend
  split
  · exact short
  · exact short
  · exact short.set _ rfl

theorem short_default : AllShort {} := by
  intro k
  cases k <;> rfl

theorem clean_default : AllClean {} := by
  intro k
  cases k with
  | gatewayTimeout | helperTimeout => trivial
  | _ => exact show _ ∉ _ by decide

/-! ## Saving and loading -/

/-- What is loaded is read from a document. -/
theorem read_of_load {octets : List UInt8} {text : List Char} {binary : Option Str}
    {t : Settings} (there : f.exists? p = .ok true) (octetsRead : f.read p = .ok octets)
    (decoded : Text.Utf8.decode octets = .ok text) (loaded : load f p binary = .ok t) :
    ∃ document, Toml.read (Text.unifyLines text) = .ok document := by
  rw [load_of_text there octetsRead decoded] at loaded
  obtain ⟨u, given, _⟩ := map_eq_ok_iff.mp loaded
  rw [ofText] at given
  split at given
  · rename_i document read
    exact ⟨document, read⟩
  · cases given
  · cases given

/-- A file with the document of settings is not loaded when a string in them holds U+007F. -/
theorem not_load_text (smooth : s.AllSmooth) (unclean : ¬ s.AllClean)
    (there : f.exists? p = .ok true) (octets : f.read p = .ok (Text.Utf8.encode s.text))
    (binary : Option Str) : ¬ ∃ t, load f p binary = .ok t := by
  rintro ⟨t, loaded⟩
  obtain ⟨document, read⟩ := read_of_load there octets (Text.Utf8.decode_encode s.text) loaded
  rw [Text.unifyLines_of_notMem s.return_notMem_text] at read
  exact (Toml.clean_of_read read).1 (delete_mem_text smooth unclean)

/-- Settings with a number that is too long are not saved. -/
theorem short_of_save (found : s.save f p = .ok saved) : s.AllShort := by
  intro k
  by_contra long
  have inSection : (k.division.settings.any fun k => holdsOverlong (s.value k)) = true :=
    List.any_eq_true.mpr ⟨k, mem_settings_iff.mpr rfl, by simpa using long⟩
  have refused : s.write? = .error (.unwritable .digits) :=
    if_pos (List.any_eq_true.mpr ⟨k.division, k.division.mem_all, inSection⟩)
  rw [save, refused] at found
  cases found

/-- Settings with a string that cannot be encoded are not saved. -/
theorem smooth_of_save (writable : f.Writable p place) (found : s.save f p = .ok saved) :
    s.AllSmooth := by
  by_contra rough
  obtain ⟨fault, refused⟩ := save_of_rough (short_of_save found) rough writable
  rw [refused] at found
  cases found

/-- Settings are saved where a file may be written, just if no number in them is too long and every
string can be encoded. -/
theorem exists_save_iff (writable : f.Writable p place) :
    (∃ saved, s.save f p = .ok saved) ↔ s.AllShort ∧ s.AllSmooth := by
  constructor
  · rintro ⟨saved, found⟩
    exact ⟨short_of_save found, smooth_of_save writable found⟩
  · rintro ⟨short, smooth⟩
    refine ⟨f.put place (Text.Utf8.encode s.text), ?_⟩
    rw [save_of_smooth short smooth, writable.write]
    rfl

/-- **What is loaded of settings that were saved.**  It is what is left of them, if no string in
them holds U+007F, and nothing otherwise. -/
theorem load_saved (writable : f.Writable p place) (found : s.save f p = .ok saved)
    (binary : Option Str) :
    ((∃ t, load saved p binary = .ok t) ↔ s.AllClean) ∧
      (s.AllClean → load saved p binary = .ok (s.rewritten.override binary)) := by
  have short := short_of_save found
  have smooth := smooth_of_save writable found
  rw [save_of_smooth short smooth, writable.write] at found
  cases found
  obtain ⟨there, octets, _⟩ := writable.read_of_write (Text.Utf8.encode s.text)
  have loads (clean : s.AllClean) := load_text clean short there octets binary
  refine ⟨⟨fun loaded => ?_, fun clean => ⟨_, loads clean⟩⟩, loads⟩
  by_contra unclean
  exact not_load_text smooth unclean there octets binary loaded

/-- A file that is left empty is loaded as the defaults. -/
theorem load_of_empty (writable : f.Writable p place) (binary : Option Str) :
    load (f.put place []) p binary = .ok (override {} binary) := by
  obtain ⟨there, octets, _⟩ := writable.read_of_write []
  rw [load_of_text there octets rfl]
  rfl

end CaptureDesk.Settings
