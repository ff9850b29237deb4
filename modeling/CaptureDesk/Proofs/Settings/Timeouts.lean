import CaptureDesk.Proofs.Child.Bounds
import CaptureDesk.Proofs.Decimal.Thousandths
import CaptureDesk.Proofs.Settings.Given
import CaptureDesk.Proofs.Settings.Rewritten

/-!
# Timeouts that are saved

A timeout is saved with three places.  What is loaded of it is the timeout rounded to thousandths of
a second, so that one below half a thousandth is a bound no longer (`timeout_saved`).
-/

namespace CaptureDesk.Settings

open Decimal (nearest rounded)

variable {s : Settings} {f : Files} {p : Path} {place : Place} {k : Setting} {t : Float}

/-- A number is a bound just if it is positive. -/
theorem bound?_float (x : Float) : bound? (.float x) = .ok (if 0 < x then some x else none) := rfl

/-- **What becomes of a timeout.**  Settings with a timeout survive a save just if no number in them
is too long and no string holds U+007F or a surrogate.  Then the timeout is rounded to thousandths:
it is the same as before just if it was the double nearest to a number of thousandths, and a bound
just if it was at least the double `0.0005`. -/
theorem timeout_saved (timeout : s.value k = .float t) (finite : t.isFinite = true)
    (writable : f.Writable p place) :
    ((∃ saved reloaded, s.save f p = .ok saved ∧ load saved p none = .ok reloaded) ↔
      s.AllShort ∧ s.AllClean) ∧
    ∀ saved reloaded, s.save f p = .ok saved → load saved p none = .ok reloaded →
      reloaded.value k = .float (rounded t) ∧
      (reloaded.value k = s.value k ↔ ∃ n, t = nearest n (-3) ∨ t = -nearest n (-3)) ∧
      bound? (reloaded.value k) = .ok (if 0.0005 ≤ t then some (rounded t) else none) := by
  constructor
  · constructor
    · rintro ⟨saved, reloaded, found, loaded⟩
      exact ⟨short_of_save found, (load_saved writable found none).1.mp ⟨reloaded, loaded⟩⟩
    · rintro ⟨short, clean⟩
      obtain ⟨saved, found⟩ := (exists_save_iff writable).mpr ⟨short, clean.smooth⟩
      exact ⟨saved, _, found, (load_saved writable found none).2 clean⟩
  · intro saved reloaded found loaded
    have left : reloaded.value k = .float (rounded t) := by
      obtain ⟨loads, rewrites⟩ := load_saved writable found none
      rw [rewrites (loads.mp ⟨reloaded, loaded⟩)] at loaded
      cases loaded
      show rewrittenValue (s.value k) = _
      rw [timeout]
      rfl
    refine ⟨left, ?_, ?_⟩
    · rw [left, timeout, Value.float.injEq]
      exact Decimal.rounded_eq_self_iff finite
    · rw [left, bound?_float]
      simp only [Decimal.rounded_pos_iff]

/-- Two minutes are saved as they are. -/
theorem timeout_saved_two_minutes :
    let s : Settings := {}
    s.value .gatewayTimeout = .float 120 ∧ (120 : Float).isFinite = true ∧
      Files.Writable ⟨["", "home"], []⟩ ⟨"", ["settings.toml"]⟩ ["", "home", "settings.toml"] ∧
      ∃ saved reloaded, s.save ⟨["", "home"], []⟩ ⟨"", ["settings.toml"]⟩ = .ok saved ∧
        load saved ⟨"", ["settings.toml"]⟩ none = .ok reloaded ∧
        reloaded.value .gatewayTimeout = .float 120 := by
  intro s
  have timeout : s.value .gatewayTimeout = .float 120 := by decide
  have survives := timeout_saved timeout (by decide) Files.writable_home
  obtain ⟨saved, reloaded, found, loaded⟩ := survives.1.mpr ⟨short_default, clean_default⟩
  obtain ⟨rewritten, _⟩ := survives.2 saved reloaded found loaded
  have same : rounded 120 = 120 := by decide +kernel
  rw [same] at rewritten
  exact ⟨timeout, by decide, Files.writable_home, saved, reloaded, found, loaded, rewritten⟩

/-- A timeout of less than half a thousandth of a second is a bound before settings are saved, and
none afterwards. -/
theorem not_bounded_after_save :
    let f : Files := Files.put ⟨["", "home"], []⟩ ["", "home", "settings.toml"]
      (Text.Utf8.encode "[gateway]\ntimeout_seconds = 0.0004\n".toList)
    ∃ s saved reloaded, load f ⟨"", ["settings.toml"]⟩ none = .ok s ∧
      s.value .gatewayTimeout = .float 0.0004 ∧
      bound? (s.value .gatewayTimeout) = .ok (some 0.0004) ∧
      s.save f ⟨"", ["settings.toml"]⟩ = .ok saved ∧
      load saved ⟨"", ["settings.toml"]⟩ none = .ok reloaded ∧
      reloaded.value .gatewayTimeout = .float 0 ∧
      bound? (reloaded.value .gatewayTimeout) = .ok none := by
  intro f
  have holds : Holds f ⟨"", ["settings.toml"]⟩
      [("gateway", .object [("timeout_seconds", .float 0.0004)])] :=
    holds_put Files.writable_home (by decide +kernel)
  have short : AllShort (set {} .gatewayTimeout (.float 0.0004)) := short_default.set _ rfl
  have clean : AllClean (set {} .gatewayTimeout (.float 0.0004)) := clean_default.set _ trivial
  have writable : f.Writable ⟨"", ["settings.toml"]⟩ ["", "home", "settings.toml"] :=
    Files.writable_home.put _
  obtain ⟨saved, found⟩ := (exists_save_iff writable).mpr ⟨short, clean.smooth⟩
  have lost : rounded 0.0004 = 0 := by decide +kernel
  refine ⟨_, saved, _, ?_, rfl, by decide, found, (load_saved writable found none).2 clean, ?_, ?_⟩
  · rw [load_of_holds holds]
    rfl
  · exact congrArg Value.float lost
  · show bound? (.float (rounded 0.0004)) = _
    rw [lost]
    decide

end CaptureDesk.Settings
