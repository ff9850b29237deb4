import CaptureDesk.Proofs.Settings.Saved
import CaptureDesk.Proofs.Steps
import CaptureDesk.Proofs.Toml.Keyed

/-!
# What a document gives to the settings

A document is refused just if one of the four sections is no table, or has a key that names none of
its settings (`Refused`).  Otherwise each entry of each section is the value of its setting, and a
setting without an entry has its default (`Taken`).  Entries under any other name are dropped
without a word, so that the settings account for the whole document just if there are none
(`Accounted`).
-/

namespace CaptureDesk

/-- A key of a section names a setting. -/
def Division.Knows (d : Division) (key : Str) : Prop :=
  ∃ k ∈ d.settings, .plain k.key = key

namespace Division

variable {d : Division} {key : Str} {k : Setting}

theorem key_of_setting? (found : d.setting? key = some k) :
    k ∈ d.settings ∧ .plain k.key = key :=
  ⟨List.mem_of_find?_eq_some found, by simpa using List.find?_some found⟩

theorem setting?_of_knows (knows : d.Knows key) :
    ∃ k ∈ d.settings, .plain k.key = key ∧ d.setting? key = some k := by
  rcases knows with ⟨k, own, rfl⟩
  exact ⟨k, own, rfl, Settings.setting?_key d k own⟩

theorem setting?_of_not_knows (unknown : ¬ d.Knows key) : d.setting? key = none := by
  cases found : d.setting? key with
  | none => rfl
  | some k => exact absurd ⟨k, key_of_setting? found⟩ unknown

theorem key_injective {l : Setting} (own : k ∈ d.settings) (own' : l ∈ d.settings)
    (same : k.key = l.key) : k = l := by
  have found := Settings.setting?_key d k own
  rw [same, Settings.setting?_key d l own'] at found
  exact (Option.some.inj found).symm

end Division

namespace Settings

open Toml (Keyed)

/-! ## Sections -/

/-- What is wrong with the value under the name of a section.  Of the keys that name no setting the
first is reported. -/
inductive Offends (d : Division) : Value → SettingsFault → Prop
  | kind {v : Value} (noTable : ∀ entries, v ≠ .object entries) :
      Offends d v (.notTable d.recordName v.kind)
  | key {before after : Table Value} {key : Str} {v : Value}
      (known : ∀ entry ∈ before, d.Knows entry.1) (unknown : ¬ d.Knows key) :
      Offends d (.object (before ++ (key, v) :: after))
        (if key = "self" then .reservedKey d.recordName else .unknownKey d.recordName key)

/-- A table whose keys all name settings of a section. -/
def Suits (d : Division) (v : Value) : Prop :=
  ∃ entries, v = .object entries ∧ ∀ entry ∈ entries, d.Knows entry.1

/-- The entries of a section as the values of its settings. -/
def takes (d : Division) (entries : Table Value) (s : Settings) : Settings :=
  ⟨fun k => if k ∈ d.settings then (entries.get? k.key).getD (s.value k) else s.value k⟩

section Sections

variable {d : Division} {s : Settings} {entries : Table Value} {v : Value}

/-- Something is wrong with a value that does not suit a section. -/
theorem suits_or_offends (d : Division) (v : Value) : Suits d v ∨ ∃ fault, Offends d v fault := by
  by_cases table : ∃ entries, v = .object entries
  · rcases table with ⟨entries, rfl⟩
    rcases forall_or_first (fun entry => d.Knows entry.1) entries with
      known | ⟨before, ⟨key, v⟩, after, rfl, known, unknown⟩
    · exact Or.inl ⟨entries, rfl, known⟩
    · exact Or.inr ⟨_, .key known unknown⟩
  · exact Or.inr ⟨_, .kind fun entries same => table ⟨entries, same⟩⟩

theorem Offends.not_suits {fault : SettingsFault} (offends : Offends d v fault) : ¬ Suits d v := by
  rintro ⟨entries, same, known⟩
  cases offends with
  | kind noTable => exact noTable entries same
  | key _ unknown =>
      cases same
      exact unknown (known _ List.mem_append_cons_self)

/-- Entries of a section under distinct keys are all taken in. -/
theorem takeEntries_of_known (known : ∀ entry ∈ entries, d.Knows entry.1)
    (distinct : (entries.map (·.1)).Nodup) (s : Settings) :
    takeEntries d s entries = .ok (takes d entries s) := by
  induction entries generalizing s with
  | nil =>
      refine congrArg Except.ok (Settings.ext fun k => ?_)
      simp [takes]
  | cons entry entries ih =>
      rcases entry with ⟨key, v⟩
      rcases List.forall_mem_cons.mp known with ⟨first, others⟩
      rw [List.map_cons, List.nodup_cons] at distinct
      rcases Division.setting?_of_knows first with ⟨k, own, rfl, found⟩
      rw [takeEntries, found]
      show takeEntries d (s.set k v) entries = _
      rw [ih others distinct.2]
      refine congrArg Except.ok (Settings.ext fun other => ?_)
      by_cases same : other = k
      · subst same
        simp [takes, own, Table.get?_cons, Table.get?_of_notMem distinct.1]
      · by_cases inSection : other ∈ d.settings
        · have apart : ¬ k.key = other.key := fun eq =>
            same (Division.key_injective own inSection eq).symm
          simp [takes, inSection, same, Table.get?_cons, apart]
        · simp [takes, inSection, same]

/-- The first key that names no setting is reported. -/
theorem takeEntries_of_unknown {before after : Table Value} {key : Str}
    (known : ∀ entry ∈ before, d.Knows entry.1) (unknown : ¬ d.Knows key) (s : Settings) :
    takeEntries d s (before ++ (key, v) :: after) = .error (.settings
      (if key = "self" then .reservedKey d.recordName else .unknownKey d.recordName key)) := by
  induction before generalizing s with
  | nil => rw [List.nil_append, takeEntries, Division.setting?_of_not_knows unknown]
  | cons entry before ih =>
      rcases List.forall_mem_cons.mp known with ⟨first, others⟩
      rcases Division.setting?_of_knows first with ⟨k, _, _, found⟩
      rw [List.cons_append, takeEntries, found]
      exact ih others _

end Sections

/-! ## Documents -/

/-- The section of a document suits, if it is there. -/
def Fits (document : Table Value) (d : Division) : Prop :=
  ∀ v, (.plain d.name, v) ∈ document → Suits d v

/-- What is wrong with the first section that does not suit. -/
def Refused (document : Table Value) (fault : SettingsFault) : Prop :=
  ∃ before d after v, Division.all = before ++ d :: after ∧ (∀ e ∈ before, Fits document e) ∧
    (.plain d.name, v) ∈ document ∧ Offends d v fault

/-- The value that a document gives to a setting. -/
def given? (document : Table Value) (k : Setting) : Option Value :=
  (document.get? k.division.name).bind (·.field? k.key)

/-- Settings in which some sections are as a document gives them. -/
def informed (document : Table Value) (ds : List Division) (s : Settings) : Settings :=
  ⟨fun k => if k.division ∈ ds then (given? document k).getD (s.value k) else s.value k⟩

section Documents

variable {document : Table Value} {d : Division} {s : Settings}

/-- A section that suits is taken in. -/
theorem takeSection_of_fits (keyed : Keyed (.object document)) (fits : Fits document d)
    (s : Settings) : takeSection document s d = .ok (informed document [d] s) := by
  cases found : document.get? d.name with
  | none =>
      rw [takeSection, found]
      refine congrArg Except.ok (Settings.ext fun k => ?_)
      by_cases own : k.division = d
      · simp [informed, given?, own, found]
      · simp [informed, own]
  | some v =>
      rcases fits v (Table.mem_of_get? found) with ⟨entries, rfl, known⟩
      rw [takeSection, found]
      show takeEntries d s entries = _
      rw [takeEntries_of_known known (keyed.get? found).distinct]
      refine congrArg Except.ok (Settings.ext fun k => ?_)
      by_cases own : k.division = d
      · simp [takes, informed, given?, mem_settings_iff, own, found, Value.field?, Value.fields]
      · simp [takes, informed, mem_settings_iff, own]

/-- What is wrong with a section is reported. -/
theorem takeSection_of_offends (keyed : Keyed (.object document)) {v : Value}
    (there : (.plain d.name, v) ∈ document) {fault : SettingsFault} (offends : Offends d v fault)
    (s : Settings) : takeSection document s d = .error (.settings fault) := by
  rw [takeSection, Table.get?_of_mem keyed.distinct there]
  cases offends with
  | kind noTable =>
      split
      · contradiction
      · rename_i same
        exact absurd (Option.some.inj same) (noTable _)
      · rename_i same
        cases same
        rfl
  | key known unknown => exact takeEntries_of_unknown known unknown s

/-- Sections that suit are taken in one after another. -/
theorem foldlM_takeSection (keyed : Keyed (.object document)) {ds : List Division}
    (fit : ∀ d ∈ ds, Fits document d) (distinct : ds.Nodup) (s : Settings) :
    ds.foldlM (takeSection document) s = .ok (informed document ds s) := by
  induction ds generalizing s with
  | nil =>
      rw [List.foldlM_nil]
      refine congrArg Except.ok (Settings.ext fun k => ?_)
      simp [informed]
  | cons d ds ih =>
      rcases List.forall_mem_cons.mp fit with ⟨first, others⟩
      rw [List.nodup_cons] at distinct
      rw [List.foldlM_cons, takeSection_of_fits keyed first]
      show ds.foldlM (takeSection document) (informed document [d] s) = _
      rw [ih others distinct.2]
      refine congrArg Except.ok (Settings.ext fun k => ?_)
      by_cases own : k.division = d
      · simp [informed, own, distinct.1]
      · simp [informed, own]

/-- What a document comes to: settings, if all sections suit, or what is wrong with the first that
does not. -/
theorem ofTable_cases (keyed : Keyed (.object document)) :
    ((∀ d, Fits document d) ∧
        ofTable document = .ok ⟨fun k => (given? document k).getD k.default⟩) ∨
      ∃ fault, Refused document fault ∧ ofTable document = .error (.settings fault) := by
  rcases forall_or_first (Fits document) Division.all with
    fit | ⟨before, d, after, all, fit, unfit⟩
  · refine Or.inl ⟨fun d => fit d d.mem_all, ?_⟩
    rw [ofTable, foldlM_takeSection keyed fit (by decide)]
    refine congrArg Except.ok (Settings.ext fun k => ?_)
    simp [informed, Division.mem_all]
  · obtain ⟨v, there, unsuited⟩ : ∃ v, (.plain d.name, v) ∈ document ∧ ¬ Suits d v := by
      simpa [Fits] using unfit
    rcases suits_or_offends d v with suits | ⟨fault, offends⟩
    · exact absurd suits unsuited
    · refine Or.inr ⟨fault, ⟨before, d, after, v, all, fit, there, offends⟩, ?_⟩
      have distinct : before.Nodup := by
        have all' : (before ++ d :: after).Nodup := all ▸ (by decide : Division.all.Nodup)
        exact (List.nodup_append.mp all').1
      rw [ofTable, all, List.foldlM_append, foldlM_takeSection keyed fit distinct]
      show (d :: after).foldlM (takeSection document) _ = _
      rw [List.foldlM_cons, takeSection_of_offends keyed there offends]
      rfl

end Documents

/-! ## Settings files -/

/-- The value `v` stands under a key of a section. -/
def Stands (document : Table Value) (name key : Str) (v : Value) : Prop :=
  ∃ entries, (name, .object entries) ∈ document ∧ (key, v) ∈ entries

/-- The value of a setting among those of all settings. -/
def shown? (s : Settings) (d : Division) (key : Str) : Option Value :=
  (s.toValue.field d.name).field? key

/-- Settings are what the four sections of a document give: each of their keys names a setting that
has just the value under it, and settings without a key have their defaults. -/
structure Taken (document : Table Value) (s : Settings) : Prop where
  fits : ∀ d, Fits document d
  kept : ∀ d : Division, ∀ key v, Stands document d.name key v → s.shown? d key = some v
  absent : ∀ d : Division, ∀ k ∈ d.settings, (∀ v, ¬ Stands document d.name k.key v) →
    s.shown? d k.key = some k.default

/-- Settings account for everything in a document. -/
structure Accounted (document : Table Value) (s : Settings) : Prop extends Taken document s where
  named : ∀ entry ∈ document, ∃ d : Division, entry.1 = d.name

/-- The file at a path holds a document. -/
def Holds (f : Files) (p : Path) (document : Table Value) : Prop :=
  f.exists? p = .ok true ∧ ∃ octets text, f.read p = .ok octets ∧
    Text.Utf8.decode octets = .ok text ∧ Toml.read (Text.unifyLines text) = .ok document

section Load

variable {document : Table Value} {f : Files} {p : Path}

theorem shown?_key (s : Settings) {d : Division} {k : Setting} (own : k ∈ d.settings) :
    s.shown? d k.key = some (s.value k) := by
  have distinct : ((s.entries d).map (·.1)).Nodup := by
    have keys := Toml.nodup_plain (s.nodup_named d)
    rw [named, List.map_map] at keys
    rwa [entries, List.map_map]
  have there : (.plain k.key, s.value k) ∈ s.entries d := List.mem_map.mpr ⟨k, own, rfl⟩
  have section' : s.toValue.field d.name = .object (s.entries d) := by
    rw [Value.field, Value.field?, get?_name]
    rfl
  rw [shown?, section']
  exact Table.get?_of_mem distinct there

/-- What a document gives to a setting is what stands under its key. -/
theorem given?_of_stands (keyed : Keyed (.object document)) {k : Setting} {v : Value}
    (stands : Stands document k.division.name k.key v) : given? document k = some v := by
  rcases stands with ⟨entries, there, inside⟩
  have found := Table.get?_of_mem keyed.distinct there
  rw [given?, found]
  exact Table.get?_of_mem (keyed.get? found).distinct inside

theorem stands_of_given? {k : Setting} {v : Value} (given : given? document k = some v) :
    Stands document k.division.name k.key v := by
  rcases Option.bind_eq_some_iff.mp given with ⟨table, found, inside⟩
  cases table with
  | object entries => exact ⟨entries, Table.mem_of_get? found, Table.mem_of_get? inside⟩
  | _ => cases inside

/-- What settings of a document show is what it gives to them. -/
theorem taken_of_fits (keyed : Keyed (.object document)) (fits : ∀ d, Fits document d) :
    Taken document ⟨fun k => (given? document k).getD k.default⟩ where
  fits := fits
  kept d key v stands := by
    rcases stands with ⟨entries, there, inside⟩
    rcases fits d _ there with ⟨_, same, known⟩
    cases same
    rcases known _ inside with ⟨k, own, rfl⟩
    obtain rfl := mem_settings_iff.mp own
    rw [shown?_key _ own]
    show some ((given? document k).getD k.default) = _
    rw [given?_of_stands keyed ⟨entries, there, inside⟩]
    rfl
  absent d k own free := by
    obtain rfl := mem_settings_iff.mp own
    rw [shown?_key _ own]
    cases given : given? document k with
    | none => simp [given]
    | some v => exact absurd (stands_of_given? given) (free v)

theorem load_of_holds (holds : Holds f p document) : load f p none = ofTable document := by
  rcases holds with ⟨there, octets, text, octetsRead, decoded, read⟩
  rw [load_of_text there octetsRead decoded, ofText, read]
  show (ofTable document).map (fun s => s) = _
  cases ofTable document <;> rfl

/-- No surrogate stands in what a document gives to settings. -/
theorem smooth_of_ofTable (keyed : Keyed (.object document)) {s : Settings}
    (found : ofTable document = .ok s) : s.AllSmooth := by
  rcases ofTable_cases keyed with ⟨_, given⟩ | ⟨_, _, refused⟩
  · rw [given] at found
    cases found
    intro k
    show holdsRough ((given? document k).getD k.default) = false
    cases own : given? document k with
    | none => cases k <;> rfl
    | some v =>
        obtain ⟨entries, there, inside⟩ := stands_of_given? own
        exact holdsRough_of_holdsSurrogate v ((keyed.fields _ there).fields _ inside).holdsSurrogate
  · rw [refused] at found
    cases found

theorem smooth_of_ofOctets {name : Str} {octets : List UInt8} {s : Settings}
    (found : ofOctets name octets = .ok s) : s.AllSmooth := by
  rw [ofOctets] at found
  split at found
  · rw [ofText] at found
    split at found
    · rename_i read
      exact smooth_of_ofTable (Toml.clean_of_read read).2 found
    · cases found
    · cases found
  · cases found

/-- No surrogate stands in settings that are loaded, unless the environment brings one in. -/
theorem smooth_of_load {s : Settings} (loaded : load f p none = .ok s) : s.AllSmooth := by
  rw [load] at loaded
  split at loaded
  · cases loaded
  · cases loaded
    intro k
    cases k <;> rfl
  · split at loaded
    · cases loaded
    · obtain ⟨_, found, rfl⟩ := map_eq_ok_iff.mp loaded
      exact smooth_of_ofOctets found

/-- **What is made of a document.**  It is refused just for what is wrong with the first section
that does not suit; otherwise each entry of the four sections is taken over as it is, and nothing
else, so that everything is accounted for just if there is nothing beside the four sections. -/
theorem load_takes (holds : Holds f p document) :
    ((∀ d, Fits document d) → ∃ s, load f p none = .ok s ∧ Taken document s ∧
      (Accounted document s ↔ ∀ entry ∈ document, ∃ d : Division, entry.1 = d.name)) ∧
    ((¬ ∀ d, Fits document d) → ∃ fault, Refused document fault ∧
      load f p none = .error (.settings fault)) := by
  have keyed : Keyed (.object document) := by
    rcases holds with ⟨_, _, _, _, _, read⟩
    exact (Toml.clean_of_read read).2
  rw [load_of_holds holds]
  rcases ofTable_cases keyed with ⟨fits, found⟩ | ⟨fault, refused, found⟩
  · have taken := taken_of_fits keyed fits
    exact ⟨fun _ => ⟨_, found, taken, Accounted.named, fun named => ⟨taken, named⟩⟩,
      fun unfit => absurd fits unfit⟩
  · refine ⟨fun fits => ?_, fun _ => ⟨fault, refused, found⟩⟩
    rcases refused with ⟨_, d, _, v, _, _, there, offends⟩
    exact absurd (fits d v there) offends.not_suits

/-- A text that is written to a file is what the file holds. -/
theorem holds_put {place : Place} (writable : f.Writable p place) {text : List Char}
    (read : Toml.read (Text.unifyLines text) = .ok document) :
    Holds (f.put place (Text.Utf8.encode text)) p document := by
  obtain ⟨there, octets, _⟩ := writable.read_of_write (Text.Utf8.encode text)
  exact ⟨there, _, text, octets, Text.Utf8.decode_encode text, read⟩

/-- A document with one setting is accounted for. -/
theorem load_takes_initial_route :
    let f : Files := Files.put ⟨["", "home"], []⟩ ["", "home", "settings.toml"]
      (Text.Utf8.encode "[ui]\ninitial_route = 'steps'\n".toList)
    let document : Table Value := [("ui", .object [("initial_route", .str "steps")])]
    Holds f ⟨"", ["settings.toml"]⟩ document ∧ (∀ d, Fits document d) ∧
      ∃ s, load f ⟨"", ["settings.toml"]⟩ none = .ok s ∧ Accounted document s := by
  intro f document
  have holds : Holds f ⟨"", ["settings.toml"]⟩ document :=
    holds_put Files.writable_home (by decide +kernel)
  have fits : ∀ d, Fits document d := by
    intro d v there
    obtain ⟨name, rfl⟩ := Prod.mk.inj (List.mem_singleton.mp there)
    cases d with
    | ui => exact ⟨_, rfl, by simp [Division.Knows, Division.settings, Setting.key]⟩
    | _ => exact absurd name (by decide)
  obtain ⟨s, loaded, _, accounted⟩ := (load_takes holds).1 fits
  exact ⟨holds, fits, s, loaded, accounted.mpr (by simp [document]; exact ⟨.ui, rfl⟩)⟩

/-- A section whose name is misspelt is dropped without a word. -/
theorem not_accounted_misspelt_section :
    let f : Files := Files.put ⟨["", "home"], []⟩ ["", "home", "settings.toml"]
      (Text.Utf8.encode "[gatway]\nbinary = 'x'\n".toList)
    let document : Table Value := [("gatway", .object [("binary", .str "x")])]
    Holds f ⟨"", ["settings.toml"]⟩ document ∧ load f ⟨"", ["settings.toml"]⟩ none = .ok {} ∧
      ¬ Accounted document {} := by
  intro f document
  have holds : Holds f ⟨"", ["settings.toml"]⟩ document :=
    holds_put Files.writable_home (by decide +kernel)
  refine ⟨holds, by rw [load_of_holds holds]; rfl, fun accounted => ?_⟩
  obtain ⟨d, same⟩ := accounted.named _ List.mem_cons_self
  cases d <;> exact absurd same (by decide)

end Load

end Settings

end CaptureDesk
