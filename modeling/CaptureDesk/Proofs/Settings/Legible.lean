import CaptureDesk.Proofs.Settings.Given
import CaptureDesk.Proofs.Text.Decoding
import CaptureDesk.Proofs.Toml.Overlong

/-!
# Loading settings from any octets

A settings file may hold any octets.  What is loaded from it is settings, or what is wrong with the
document, just if the octets are a text that is not given up for a whole number that is too long
(`answered_load_iff`).  All other octets end in another fault: they are no text, or hold such a
number (`ofOctets_of_not_legible`).
-/

namespace CaptureDesk

/-- A path from which something is read leads to something. -/
theorem Files.exists?_of_read {f : Files} {p : Path} {octets : List UInt8}
    (found : f.read p = .ok octets) : f.exists? p = .ok true := by
  unfold Files.read at found
  cases leads : f.locate p with
  | error fault =>
      rw [leads] at found
      cases found
  | ok place =>
      rw [leads] at found
      dsimp only [bind, Except.bind] at found
      have there : (f.entry? place).isSome := by
        cases entry : f.entry? place with
        | none =>
            rw [entry] at found
            cases found
        | some e => rfl
      rw [Files.exists?, leads]
      simp [Except.map, Files.kind, there]

namespace Settings

/-- What is loaded is settings, or what is wrong with the document. -/
def Answered (loaded : Except Fault Settings) : Prop :=
  (∃ t, loaded = .ok t) ∨ ∃ fault, loaded = .error (.settings fault)

/-- Octets are a text that is not given up for a whole number that is too long. -/
def Legible (octets : List UInt8) : Prop :=
  ∃ text, octets = Text.Utf8.encode text ∧ Toml.Plain (Toml.read (Text.unifyLines text))

variable {name : Str} {text : List Char} {octets : List UInt8}

theorem answered_error_iff {fault : Fault} :
    Answered (.error fault) ↔ ∃ flaw, fault = .settings flaw := by
  simp [Answered]

theorem legible_encode_iff :
    Legible (Text.Utf8.encode text) ↔ Toml.Plain (Toml.read (Text.unifyLines text)) := by
  constructor
  · intro ⟨other, same, plain⟩
    rw [← Text.Utf8.decode_eq_ok_iff, Text.Utf8.decode_encode] at same
    cases same
    exact plain
  · exact fun plain => ⟨text, rfl, plain⟩

/-- A text without a numeral that is too long is legible. -/
theorem legible_of_not_holdsLong (short : ¬ Toml.HoldsLong (Text.unifyLines text)) :
    Legible (Text.Utf8.encode text) :=
  legible_encode_iff.mpr fun _ found => short (Toml.holdsLong_of_read found)

/-- A document is answered: its faults are faults of the document. -/
theorem answered_ofText_iff : Answered (ofText name text) ↔ Toml.Plain (Toml.read text) := by
  unfold ofText
  cases read : Toml.read text with
  | ok document =>
      refine iff_of_true ?_ (Toml.Plain.ok document)
      rcases ofTable_cases (Toml.clean_of_read read).2 with ⟨_, taken⟩ | ⟨fault, _, refused⟩
      · exact .inl ⟨_, taken⟩
      · exact .inr ⟨fault, refused⟩
  | error fault =>
      cases fault with
      | malformed complaint rest => exact iff_of_true (.inr ⟨_, rfl⟩) (Toml.Plain.refuse _ _)
      | tooManyDigits count =>
          refine iff_of_false ?_ fun plain => plain count rfl
          simp [answered_error_iff]

theorem answered_ofOctets_iff : Answered (ofOctets name octets) ↔ Legible octets := by
  unfold ofOctets
  cases decoded : Text.Utf8.decode octets with
  | ok text =>
      rw [Text.Utf8.decode_eq_ok_iff.mp decoded, legible_encode_iff]
      exact answered_ofText_iff
  | error fault =>
      refine iff_of_false ?_ ?_
      · simp [answered_error_iff]
      · intro ⟨text, same, _⟩
        rw [Text.Utf8.decode_eq_ok_iff.mpr same] at decoded
        cases decoded

/-- Octets that are not legible are no text, or hold a whole number that is too long. -/
theorem ofOctets_of_not_legible (illegible : ¬ Legible octets) :
    (∃ fault, ofOctets name octets = .error (.undecodable fault)) ∨
      ∃ count, ofOctets name octets = .error (.tooManyDigits count) := by
  unfold ofOctets
  cases decoded : Text.Utf8.decode octets with
  | error fault => exact .inl ⟨fault, rfl⟩
  | ok text =>
      rw [Text.Utf8.decode_eq_ok_iff.mp decoded, legible_encode_iff] at illegible
      obtain ⟨count, given⟩ : ∃ count, Toml.read (Text.unifyLines text) =
          .error (.tooManyDigits count) := by
        simpa [Toml.Plain] using illegible
      exact .inr ⟨count, by simp only [ofText, given]⟩

section Load

variable {f : Files} {p : Path}

/-- What is loaded is what the octets of the file give, perhaps with another backend. -/
theorem load_of_read (found : f.read p = .ok octets) (binary : Option Str) :
    load f p binary = (ofOctets p.text octets).map (·.override binary) := by
  rw [load, Files.exists?_of_read found, found]

/-- A fault is loaded just if the octets end in it, whatever backend is named. -/
theorem load_eq_error_iff (found : f.read p = .ok octets) {fault : Fault}
    (binary : Option Str) :
    load f p binary = .error fault ↔ ofOctets p.text octets = .error fault := by
  rw [load_of_read found]
  cases ofOctets p.text octets with
  | ok t => exact iff_of_false nofun nofun
  | error other => rfl

/-- **What is loaded from a file is settings, or what is wrong with the document, just if its octets
are legible.** -/
theorem answered_load_iff (found : f.read p = .ok octets) (binary : Option Str) :
    Answered (load f p binary) ↔ Legible octets := by
  rw [← @answered_ofOctets_iff p.text, load_of_read found]
  cases ofOctets p.text octets with
  | ok t => exact iff_of_true (.inl ⟨_, rfl⟩) (.inl ⟨t, rfl⟩)
  | error fault => exact answered_error_iff.trans answered_error_iff.symm

end Load

end Settings

end CaptureDesk
