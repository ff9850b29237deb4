import CaptureDesk.Files

/-!
# What is written to a file

Octets that are written to a path are what is read from it afterwards, and writing them again
changes nothing, unless the path leads to a directory or a device (`Writable.read_of_write`).  A
path leads to the same place after the write, because a directory stays one.
-/

namespace CaptureDesk.Files

section Put

variable {f : Files} {place : Place} {octets : List UInt8}

/-- An entry with other octets, if it stands at a place. -/
def refilled (place : Place) (octets : List UInt8) (e : Place × Entry) : Place × Entry :=
  if e.1 == place then (place, .file octets) else e

theorem refilled_fst (e : Place × Entry) : (refilled place octets e).1 = e.1 := by
  unfold refilled
  split
  · rename_i here
    exact (beq_iff_eq.mp here).symm
  · rfl

theorem refilled_refilled (e : Place × Entry) :
    refilled place octets (refilled place octets e) = refilled place octets e := by
  by_cases here : e.1 = place <;> simp [refilled, here]

/-- What octets are put at, if it is no device: a file that is there, or a new one. -/
theorem put_cases (noDevice : f.entry? place ≠ some .sink) (octets : List UInt8) :
    (∃ e, f.entries.find? (·.1 == place) = some e ∧
      f.put place octets = { f with entries := f.entries.map (refilled place octets) }) ∨
    f.entry? place = none ∧
      f.put place octets = { f with entries := f.entries ++ [(place, .file octets)] } := by
  unfold put
  split
  · rename_i device
    exact absurd device noDevice
  · rename_i found
    obtain ⟨e, found, _⟩ := Option.map_eq_some_iff.mp found
    exact .inl ⟨e, found, rfl⟩
  · rename_i nothing
    exact .inr ⟨nothing, rfl⟩

/-- What is found at a place after octets were put there. -/
theorem entry?_put (noDevice : f.entry? place ≠ some .sink) (octets : List UInt8) :
    Files.entry? (f.put place octets) place = some (.file octets) := by
  rcases put_cases noDevice octets with ⟨e, found, same⟩ | ⟨nothing, same⟩
  · have here := List.find?_some (p := fun e : Place × Entry => e.1 == place) found
    have keys : ((·.1 == place) ∘ refilled place octets : Place × Entry → Bool) = (·.1 == place) :=
      funext fun e => by rw [Function.comp_apply, refilled_fst]
    rw [same, entry?, List.find?_map, keys, found]
    rw [Option.map_some, Option.map_some, refilled, if_pos here]
  · unfold entry? at nothing
    rw [Option.map_eq_none_iff] at nothing
    rw [same, entry?, List.find?_append, nothing]
    simp

/-- Putting the same octets again changes nothing. -/
theorem put_put (noDevice : f.entry? place ≠ some .sink) (octets : List UInt8) :
    (f.put place octets).put place octets = f.put place octets := by
  have found := entry?_put noDevice octets
  have noDevice' : Files.entry? (f.put place octets) place ≠ some .sink := by
    rw [found]
    nofun
  rcases put_cases noDevice' octets with ⟨_, _, again⟩ | ⟨nothing, _⟩
  · rw [again]
    have kept : (f.put place octets).entries.map (refilled place octets) =
        (f.put place octets).entries := by
      rcases put_cases noDevice octets with ⟨_, _, same⟩ | ⟨nothing, same⟩
      · rw [same]
        simp [refilled_refilled]
      · have others : ∀ e ∈ f.entries, refilled place octets e = e := by
          unfold entry? at nothing
          rw [Option.map_eq_none_iff, List.find?_eq_none] at nothing
          exact fun e member => if_neg (nothing e member)
        rw [same, List.map_append, List.map_congr_left others]
        simp [refilled]
    rw [kept]
  · rw [found] at nothing
    cases nothing

/-- At most one place is new. -/
theorem places_put (noDevice : f.entry? place ≠ some .sink) (octets : List UInt8) :
    (f.put place octets).directory = f.directory ∧
      ((f.put place octets).entries.map (·.1) = f.entries.map (·.1) ∨
        (f.put place octets).entries.map (·.1) = f.entries.map (·.1) ++ [place]) := by
  rcases put_cases noDevice octets with ⟨_, _, same⟩ | ⟨_, same⟩
  · rw [same]
    refine ⟨rfl, .inl ?_⟩
    rw [List.map_map]
    exact List.map_congr_left fun e _ => refilled_fst e
  · rw [same]
    exact ⟨rfl, .inr (by rw [List.map_append]; rfl)⟩

theorem isDirectory_eq (f : Files) (place : Place) :
    f.isDirectory place = (place == .root || place.isPrefixOf f.directory ||
      (f.entries.map (·.1)).any fun other => place.isPrefixOf other && other != place) := by
  rw [isDirectory, List.any_map]
  rfl

/-- A directory stays one. -/
theorem isDirectory_put (noDevice : f.entry? place ≠ some .sink) (octets : List UInt8)
    {other : Place} (directory : f.isDirectory other = true) :
    (f.put place octets).isDirectory other = true := by
  obtain ⟨start, places | places⟩ := places_put noDevice octets
  · rw [isDirectory_eq, start, places, ← isDirectory_eq, directory]
  · rw [isDirectory_eq] at directory ⊢
    rw [start, places, List.any_append, ← Bool.or_assoc, directory, Bool.true_or]

/-- The place that octets are put at does not become a directory. -/
theorem isDirectory_put_self (noDevice : f.entry? place ≠ some .sink) (octets : List UInt8)
    (noDirectory : f.isDirectory place = false) :
    (f.put place octets).isDirectory place = false := by
  obtain ⟨start, places | places⟩ := places_put noDevice octets
  · rw [isDirectory_eq, start, places, ← isDirectory_eq, noDirectory]
  · rw [isDirectory_eq] at noDirectory ⊢
    rw [start, places, List.any_append, ← Bool.or_assoc, noDirectory]
    simp

/-- A path leads to the same place as before. -/
theorem follow_put (noDevice : f.entry? place ≠ some .sink) (octets : List UInt8) {shown : Str}
    {names : List Str} {start goal : Place} (leads : f.follow shown start names = .ok goal) :
    (f.put place octets).follow shown start names = .ok goal := by
  induction names generalizing start with
  | nil => exact leads
  | cons name rest ih =>
      rw [follow] at leads ⊢
      split
      · rename_i long
        rw [if_pos long] at leads
        cases leads
      · rename_i short
        rw [if_neg short] at leads
        dsimp only at leads ⊢
        split at leads
        · rename_i way
          rw [if_pos (way.imp_right (isDirectory_put noDevice octets))]
          exact ih leads
        · split at leads <;> cases leads

end Put

/-! ## Writing and reading -/

section Write

variable {f : Files} {p : Path} {place : Place}

theorem locate_put (noDevice : f.entry? place ≠ some .sink) (octets : List UInt8) {goal : Place}
    (leads : f.locate p = .ok goal) : (f.put place octets).locate p = .ok goal := by
  have start : (f.put place octets).start p = f.start p := by
    rw [Files.start, Files.start, (places_put noDevice octets).1]
  unfold locate locateAs at leads ⊢
  cases asked : unaskable? p.text with
  | some fault =>
      rw [asked] at leads
      cases leads
  | none =>
      simp only [asked] at leads ⊢
      split
      · rename_i long
        rw [if_pos long] at leads
        cases leads
      · rename_i short
        rw [if_neg short] at leads
        cases way : f.follow p.text (f.start p) p.names with
        | error report =>
            rw [way] at leads
            cases leads
        | ok found =>
            rw [way] at leads
            rw [start, follow_put noDevice octets way]
            exact leads

/-- A path leads to a place at which a file may be written. -/
structure Writable (f : Files) (p : Path) (place : Place) : Prop where
  leads : f.locate p = .ok place
  noDirectory : f.isDirectory place = false
  noDevice : f.entry? place ≠ some .sink

theorem Writable.write (writable : f.Writable p place) (octets : List UInt8) :
    f.write p octets = .ok (f.put place octets) := by
  rw [Files.write, writable.leads]
  simp only [bind, Except.bind, writable.noDirectory]
  rfl

/-- It stays so. -/
theorem Writable.put (writable : f.Writable p place) (octets : List UInt8) :
    (f.put place octets).Writable p place where
  leads := locate_put writable.noDevice octets writable.leads
  noDirectory := isDirectory_put_self writable.noDevice octets writable.noDirectory
  noDevice := by
    rw [entry?_put writable.noDevice]
    nofun

/-- **What is written is read.**  The path leads to something, the octets are found there, and
writing them again changes nothing. -/
theorem Writable.read_of_write (writable : f.Writable p place) (octets : List UInt8) :
    (f.put place octets).exists? p = .ok true ∧ (f.put place octets).read p = .ok octets ∧
      (f.put place octets).write p octets = .ok (f.put place octets) := by
  have leads := (writable.put octets).leads
  have found := entry?_put writable.noDevice octets
  refine ⟨?_, ?_, ?_⟩
  · rw [exists?, leads]
    simp [Except.map, kind, found]
  · rw [read, leads]
    dsimp only [bind, Except.bind]
    rw [found]
    rfl
  · rw [(writable.put octets).write, put_put writable.noDevice]

end Write

/-- A file may be written in a directory that is empty. -/
theorem writable_home :
    Writable ⟨["", "home"], []⟩ ⟨"", ["settings.toml"]⟩ ["", "home", "settings.toml"] := by
  refine ⟨?_, by decide, by decide⟩
  have asked : unaskable? (Path.text ⟨"", ["settings.toml"]⟩) = none := by decide
  rw [locate, locateAs, asked]
  rfl

end CaptureDesk.Files
