import CaptureDesk.Proofs.Files.Written
import CaptureDesk.Proofs.Settings.Values
import CaptureDesk.Proofs.Text.Encoding
import CaptureDesk.Proofs.Toml.Lines

/-!
# Saved settings

The document of settings whose strings may all stand in a settings file is read as what is left of
their values (`read_text`); any other holds U+007F (`delete_mem_text`) or a surrogate, and in this
case nothing of it is written (`save_of_rough`).  Without numbers with a point nothing but the kind
of some values is lost, so that settings are loaded as they are stored (`load_save`): every setting
is found under its own key, whatever the others hold.
-/

namespace CaptureDesk

/-! ## Lines of a text -/

namespace Text

section Lines

variable {α : Type} {mark : α}

/-- Joining lines, the last of them empty, ends each of the others. -/
theorem intercalate_concat_nil (mark : α) (lines : List (List α)) :
    [mark].intercalate (lines ++ [[]]) = lines.flatMap (· ++ [mark]) := by
  induction lines with
  | nil => rfl
  | cons line lines ih =>
      rw [List.cons_append, List.intercalate_cons_of_ne_nil (by simp), ih, List.flatMap_cons]

/-- Dropping what is blank around lines and ending the last of them again changes nothing. -/
theorem stripBy_lines {blank : α → Bool} {lines : List (List α)} {first last : List α} {c d : α}
    (blankMark : blank mark = true) (head : lines.head? = some first)
    (begins : first.head? = some c) (visible : blank c = false)
    (final : lines.getLast? = some last) (ends : last.getLast? = some d)
    (visible' : blank d = false) :
    stripBy blank (lines.flatMap (· ++ [mark])) ++ [mark] = lines.flatMap (· ++ [mark]) := by
  obtain ⟨front, rfl⟩ := List.getLast?_eq_some_iff.mp final
  have whole : (front ++ [last]).flatMap (· ++ [mark]) =
      (front.flatMap (· ++ [mark]) ++ last) ++ [mark] := by simp
  have start : (front.flatMap (· ++ [mark]) ++ last).head? = some c := by
    cases front with
    | nil =>
        cases head
        exact begins
    | cons line front =>
        cases head
        rw [List.flatMap_cons]
        simp [begins]
  have stop : (front.flatMap (· ++ [mark]) ++ last).getLast? = some d := by
    rw [List.getLast?_append, ends]
    rfl
  have stripped : stripBy blank ([] ++ ((front.flatMap (· ++ [mark]) ++ last) ++ [mark])) =
      front.flatMap (· ++ [mark]) ++ last :=
    stripBy_margins nofun (by simp [blankMark]) start stop visible visible'
  rw [whole]
  exact congrArg (· ++ [mark]) stripped

end Lines

/-- A text without carriage returns has its lines ended by line feeds already. -/
theorem unifyLines_of_notMem {text : List Char} (noReturn : '\r' ∉ text) :
    unifyLines text = text := by
  induction text with
  | nil => rfl
  | cons c text ih =>
      rw [List.mem_cons, not_or] at noReturn
      rw [unifyLines, ih noReturn.2]
      · rintro rest rfl
        exact absurd rfl noReturn.1
      · rintro rfl
        exact absurd rfl noReturn.1

end Text

/-- The characters of lines. -/
theorem CodePoint.chars_lines (lines : List (List CodePoint)) :
    chars (lines.flatMap (· ++ [.char '\n'])) = (lines.map chars).flatMap (· ++ ['\n']) := by
  induction lines with
  | nil => rfl
  | cons line lines ih =>
      rw [List.flatMap_cons, chars_append, chars_append, ih, List.map_cons, List.flatMap_cons]
      rfl

/-- Ending lines brings no surrogate in. -/
theorem CodePoint.any_isSurrogate_lines (lines : List (List CodePoint)) :
    (lines.flatMap (· ++ [.char '\n'])).any isSurrogate = lines.any (·.any isSurrogate) := by
  rw [List.any_flatMap]
  congr 1
  funext line
  rw [List.any_append]
  exact Bool.or_false _

/-! ## The sections -/

/-- The section of a setting. -/
def Setting.division : Setting → Division
  | .gatewayBinary | .gatewayTimeout => .gateway
  | .captureBinary | .recognitionBinary | .helperTimeout => .helpers
  | .outputDir | .labelPrefix => .workflow
  | .initialRoute => .ui

theorem mem_settings_iff {d : Division} {k : Setting} : k ∈ d.settings ↔ k.division = d := by
  cases d <;> cases k <;> decide

theorem Division.mem_all (d : Division) : d ∈ Division.all := by
  cases d <;> decide

namespace Settings

open CodePoint (chars chars_append chars_map_char)

/-! ## What a table gives -/

section OfTable

/-- Settings with some of the values of others. -/
def adopt (s t : Settings) (ks : List Setting) : Settings :=
  ks.foldl (fun t k => t.set k (s.value k)) t

theorem value_adopt (s t : Settings) (ks : List Setting) (other : Setting) :
    (s.adopt t ks).value other = if other ∈ ks then s.value other else t.value other := by
  induction ks generalizing t with
  | nil => simp [adopt]
  | cons k ks ih =>
      rw [adopt, List.foldl_cons, ← adopt, ih]
      by_cases same : other = k
      · subst same
        simp
      · simp [same]

theorem setting?_key : ∀ d : Division, ∀ k ∈ d.settings, d.setting? k.key = some k := by
  intro d
  cases d <;> decide

/-- The entries of settings of a section are taken in. -/
theorem takeEntries_map {d : Division} {s t : Settings} {ks : List Setting}
    (known : ∀ k ∈ ks, k ∈ d.settings) :
    takeEntries d t (ks.map fun k => (.plain k.key, s.value k)) = .ok (s.adopt t ks) := by
  induction ks generalizing t with
  | nil => rfl
  | cons k ks ih =>
      have own := setting?_key d k (known k List.mem_cons_self)
      rw [List.map_cons, takeEntries, own]
      exact ih fun other member => known other (List.mem_cons_of_mem k member)

theorem get?_name (s : Settings) (d : Division) :
    s.toValue.fields.get? d.name = some (.object (s.entries d)) := by
  cases d <;> rfl

/-- The table of settings gives them back. -/
theorem ofTable_toValue (s : Settings) : ofTable s.toValue.fields = .ok s := by
  have sections : ∀ (ds : List Division) (t : Settings),
      ds.foldlM (takeSection s.toValue.fields) t =
        .ok (s.adopt t (ds.flatMap Division.settings)) := by
    intro ds
    induction ds with
    | nil => exact fun t => rfl
    | cons d ds ih =>
        intro t
        have taken : takeSection s.toValue.fields t d = .ok (s.adopt t d.settings) := by
          rw [takeSection, get?_name]
          exact takeEntries_map fun k member => member
        rw [List.foldlM_cons, taken]
        show ds.foldlM (takeSection s.toValue.fields) (s.adopt t d.settings) = _
        rw [ih, List.flatMap_cons, adopt, adopt, adopt, List.foldl_append]
  have every (k : Setting) : k ∈ Division.all.flatMap Division.settings :=
    List.mem_flatMap.mpr ⟨k.division, k.division.mem_all, mem_settings_iff.mpr rfl⟩
  rw [ofTable, sections]
  congr 1
  ext k
  rw [value_adopt, if_pos (every k)]

end OfTable

/-! ## The document -/

/-- What is left of settings when they are saved and loaded. -/
def rewritten (s : Settings) : Settings :=
  ⟨fun k => rewrittenValue (s.value k)⟩

/-- Settings whose strings may all stand in a settings file. -/
def AllClean (s : Settings) : Prop := ∀ k, Clean (s.value k)

/-- Settings without a number that is too long to be written. -/
def AllShort (s : Settings) : Prop := ∀ k, holdsOverlong (s.value k) = false

/-- Settings without a string that cannot be encoded. -/
def AllSmooth (s : Settings) : Prop := ∀ k, holdsRough (s.value k) = false

theorem AllClean.smooth {s : Settings} (clean : s.AllClean) : s.AllSmooth := fun k =>
  holdsRough_of_clean _ (clean k)

section Document

variable {s : Settings}

/-- The values of a section under the names of their keys. -/
def named (s : Settings) (d : Division) : List (String × Value) :=
  d.settings.map fun k => (k.key, s.value k)

/-- The lines of a section as code points, without the empty one after it. -/
def points (s : Settings) (d : Division) : List (List CodePoint) :=
  ('[' :: (d.name.toList ++ [']'])).map .char ::
    d.settings.map fun k => (k.key.toList ++ [' ', '=', ' ']).map .char ++ valueText (s.value k)

/-- The lines of a section, without the empty one after it. -/
def lines (s : Settings) (d : Division) : List (List Char) :=
  Toml.block valueChars d.name (s.named d)

/-- The characters of the document. -/
def text (s : Settings) : List Char := chars s.render

theorem map_chars_points (s : Settings) (d : Division) : (s.points d).map chars = s.lines d := by
  have header : chars (('[' :: (d.name.toList ++ [']'])).map .char) =
      '[' :: (d.name.toList ++ [']']) := chars_map_char _
  have line (k : Setting) :
      chars ((k.key.toList ++ [' ', '=', ' ']).map .char ++ valueText (s.value k)) =
        Toml.entryLine k.key (valueChars (s.value k)) := by
    rw [chars_append, chars_map_char]
    rfl
  rw [points, List.map_cons, header, List.map_map, lines, Toml.block, named, List.map_map]
  exact congrArg _ (List.map_congr_left fun k _ => line k)

/-- An empty line after each section but the last, or before each but the first, is the same. -/
theorem flatMap_sectionLines (s : Settings) (ds : List Division) :
    [] :: ds.flatMap s.sectionLines = (ds.flatMap fun d => [] :: s.points d) ++ [[]] := by
  induction ds with
  | nil => rfl
  | cons d ds ih =>
      have split : s.sectionLines d = s.points d ++ [[]] := rfl
      rw [List.flatMap_cons, List.flatMap_cons, List.append_assoc, ← ih, split]
      simp

/-- What is left of a value is read where it ends a line. -/
theorem gives_valueChars {v : Value} (clean : Clean v) (short : holdsOverlong v = false) :
    Toml.Gives (valueChars v) (rewrittenValue v) := by
  intro fuel rest enough
  rw [((opens_valueChars v).append _).dropWhile.2]
  exact value_valueChars v clean short fuel _ (.line rest) enough

theorem bare_name (d : Division) : Toml.Bare d.name := by
  cases d <;> decide

theorem bare_key (k : Setting) : Toml.Bare k.key := by
  cases k <;> decide

theorem nodup_named (s : Settings) (d : Division) : ((s.named d).map (·.1)).Nodup := by
  have keys : (d.settings.map Setting.key).Nodup := by cases d <;> decide
  rwa [named, List.map_map]

theorem legible_named (clean : s.AllClean) (short : s.AllShort) (d : Division) :
    Toml.Legible valueChars rewrittenValue d.name (s.named d) where
  bare := bare_name d
  distinct := s.nodup_named d
  each := by
    intro entry member
    obtain ⟨k, _, rfl⟩ := List.mem_map.mp member
    exact ⟨bare_key k, gives_valueChars (clean k) (short k)⟩

/-- A document begins with a header and ends with the end of a line. -/
theorem render_eq (s : Settings) :
    .char '\n' :: s.render =
      (Division.all.flatMap fun d => [] :: s.points d).flatMap (· ++ [.char '\n']) := by
  obtain ⟨p, ends, visible⟩ := getLast?_valueText (s.value .initialRoute)
  obtain ⟨rest, split, head, final⟩ : ∃ rest,
      (Division.all.flatMap fun d => [] :: s.points d) = [] :: rest ∧
      rest.head? = some (('[' :: (Division.gateway.name.toList ++ [']'])).map .char) ∧
      rest.getLast? = some ((Setting.initialRoute.key.toList ++ [' ', '=', ' ']).map .char ++
        valueText (s.value .initialRoute)) := ⟨_, rfl, rfl, rfl⟩
  have lines : Division.all.flatMap s.sectionLines = rest ++ [[]] := by
    have rotated := flatMap_sectionLines s Division.all
    rw [split] at rotated
    exact (List.cons.inj rotated).2
  have last : ((Setting.initialRoute.key.toList ++ [' ', '=', ' ']).map CodePoint.char ++
      valueText (s.value .initialRoute)).getLast? = some p := by
    rw [List.getLast?_append, ends]
    rfl
  rw [split, render, lines, Text.intercalate_concat_nil,
    Text.stripBy_lines rfl head rfl rfl final last visible]
  rfl

theorem text_eq (s : Settings) :
    '\n' :: s.text = (Division.all.flatMap fun d => [] :: s.lines d).flatMap (· ++ ['\n']) := by
  have whole := congrArg chars s.render_eq
  have each (d : Division) : ([] :: s.points d).map chars = [] :: s.lines d := by
    rw [List.map_cons, map_chars_points, CodePoint.chars_nil]
  rw [CodePoint.chars_lines, List.map_flatMap] at whole
  simp only [each] at whole
  exact whole

theorem any_isSurrogate_points (s : Settings) (d : Division) :
    (s.points d).any (·.any CodePoint.isSurrogate) =
      d.settings.any fun k => holdsRough (s.value k) := by
  have header : (('[' :: (d.name.toList ++ [']'])).map .char).any CodePoint.isSurrogate = false :=
    CodePoint.any_isSurrogate_map_char _
  rw [points, List.any_cons, header, Bool.false_or, List.any_map]
  congr 1
  funext k
  rw [Function.comp_apply, List.any_append, CodePoint.any_isSurrogate_map_char,
    any_isSurrogate_valueText, Bool.false_or]

theorem any_isSurrogate_render (s : Settings) : s.render.any CodePoint.isSurrogate =
    Division.all.any fun d => d.settings.any fun k => holdsRough (s.value k) := by
  have part (d : Division) :
      (([] :: s.points d).flatMap (· ++ [CodePoint.char '\n'])).any CodePoint.isSurrogate =
        d.settings.any fun k => holdsRough (s.value k) := by
    rw [CodePoint.any_isSurrogate_lines, List.any_cons, any_isSurrogate_points]
    rfl
  have whole := congrArg (List.any · CodePoint.isSurrogate) s.render_eq
  rw [List.flatMap_assoc, List.any_flatMap, funext part] at whole
  exact whole

/-- A surrogate stands in the document unless none stands in a string that is written as it is. -/
theorem render_smooth_iff (s : Settings) :
    s.render.any CodePoint.isSurrogate = false ↔ s.AllSmooth := by
  rw [any_isSurrogate_render, List.any_eq_false]
  constructor
  · intro none k
    have part := none k.division k.division.mem_all
    rw [List.any_eq_true, not_exists] at part
    exact Bool.eq_false_iff.mpr fun rough => part k ⟨mem_settings_iff.mpr rfl, rough⟩
  · intro smooth d _
    rw [List.any_eq_true]
    rintro ⟨k, _, rough⟩
    rw [smooth k] at rough
    cases rough

/-- The document stands for what is left of the settings. -/
theorem read_text (clean : s.AllClean) (short : s.AllShort) :
    Toml.read s.text = .ok s.rewritten.toValue.fields := by
  have sections : Toml.read s.text =
      .ok ((Division.all.map fun d => (d.name, s.named d)).map (Toml.given rewrittenValue)) := by
    have distinct : ((Division.all.map fun d => (d.name, s.named d)).map (·.1)).Nodup := by
      show (Division.all.map Division.name).Nodup
      decide
    have legible : ∀ part ∈ Division.all.map fun d => (d.name, s.named d),
        Toml.Legible valueChars rewrittenValue part.1 part.2 := by
      intro part member
      obtain ⟨d, _, rfl⟩ := List.mem_map.mp member
      exact legible_named clean short d
    refine Toml.read_sections distinct legible ?_
    rw [text_eq, List.flatMap_map]
    rfl
  exact sections

/-- A line holds no control character below U+0020. -/
theorem printable_lines (s : Settings) (d : Division) :
    ∀ line ∈ s.lines d, Json.Printable line := by
  have name : Json.Printable d.name.toList := by cases d <;> decide
  have key (k : Setting) : Json.Printable k.key.toList := by cases k <;> decide
  rintro line (_ | ⟨_, member⟩)
  · exact .cons (by decide) (name.append (by decide))
  · obtain ⟨entry, own, rfl⟩ := List.mem_map.mp member
    obtain ⟨k, _, rfl⟩ := List.mem_map.mp own
    exact ((key k).append (by decide)).append (printable_valueChars (s.value k))

theorem return_notMem_text (s : Settings) : '\r' ∉ s.text := by
  intro member
  have member' : '\r' ∈ '\n' :: s.text := List.mem_cons_of_mem _ member
  rw [s.text_eq] at member'
  obtain ⟨line, place, member'⟩ := List.mem_flatMap.mp member'
  obtain ⟨d, _, place⟩ := List.mem_flatMap.mp place
  rcases List.mem_append.mp member' with inLine | ended
  · rcases place with _ | ⟨_, place⟩
    · cases inLine
    · exact absurd (s.printable_lines d line place _ inLine) (by decide)
  · exact absurd ended (by decide)

/-- A document with a string that may not stand in it, though not for a surrogate, holds U+007F. -/
theorem delete_mem_text (smooth : s.AllSmooth) (unclean : ¬ s.AllClean) : '\x7f' ∈ s.text := by
  obtain ⟨k, unclean⟩ := not_forall.mp unclean
  have own : k ∈ k.division.settings := mem_settings_iff.mpr rfl
  have line : Toml.entryLine k.key (valueChars (s.value k)) ∈ s.lines k.division :=
    List.mem_cons_of_mem _ (List.mem_map.mpr ⟨_, List.mem_map.mpr ⟨k, own, rfl⟩, rfl⟩)
  have member : '\x7f' ∈ '\n' :: s.text := by
    rw [s.text_eq]
    refine List.mem_flatMap.mpr ⟨_, List.mem_flatMap.mpr
      ⟨k.division, k.division.mem_all, List.mem_cons_of_mem _ line⟩, ?_⟩
    exact List.mem_append_left _
      (List.mem_append_right _ (delete_mem_valueChars _ (smooth k) unclean))
  exact (List.mem_cons.mp member).resolve_left (by decide)

end Document

/-! ## Saving and loading -/

/-- Settings all of whose values are of a kind that a settings file knows, and can be stored. -/
structure Kept (s : Settings) : Prop where
  native : ∀ k, Native (s.value k)
  storable : ∀ k, Storable (s.value k)

/-- Settings as they stand in a settings file. -/
def stored (s : Settings) : Settings :=
  ⟨fun k => storedValue (s.value k)⟩

section Save

variable {s : Settings} {f : Files} {p : Path} {place : Place}

theorem kept_stored (storable : ∀ k, Storable (s.value k)) : s.stored.Kept where
  native k := native_storedValue (s.value k)
  storable k := storable_storedValue (s.value k) (storable k)

theorem render_stored (s : Settings) : s.stored.render = s.render := by
  have lines (d : Division) : s.stored.sectionLines d = s.sectionLines d := by
    simp [sectionLines, stored, valueText_storedValue]
  rw [render, render, funext lines]

theorem text_stored (s : Settings) : s.stored.text = s.text := congrArg chars s.render_stored

theorem write?_of_short (short : s.AllShort) : s.write? = .ok (.ofPoints s.render) := by
  have each (d : Division) : (d.settings.any fun k => holdsOverlong (s.value k)) = false := by
    rw [List.any_eq_false]
    intro k _
    simp [short k]
  rw [write?, if_neg]
  simp [each]

/-- Without surrogates the document is a text. -/
theorem write?_of_smooth (short : s.AllShort) (smooth : s.AllSmooth) :
    s.write? = .ok (.plain (String.ofList s.text)) := by
  rw [write?_of_short short, ← Str.ofPoints_map_char, text,
    CodePoint.map_char_chars (s.render_smooth_iff.mpr smooth)]

theorem save_of_smooth (short : s.AllShort) (smooth : s.AllSmooth) (f : Files) (p : Path) :
    s.save f p = (f.write p (Text.Utf8.encode s.text)).mapError (·, f) := by
  rw [save, write?_of_smooth short smooth]
  show (f.write p (Text.Utf8.encode (String.ofList s.text).toList)).mapError (·, f) = _
  rw [String.toList_ofList]

/-- A document that cannot be encoded leaves an empty file. -/
theorem save_of_rough (short : s.AllShort) (rough : ¬ s.AllSmooth) (writable : f.Writable p place) :
    ∃ fault, s.save f p = .error (.unencodable fault, f.put place []) := by
  have refused : (Str.ofPoints s.render).isRough = true := by
    rw [Str.isRough_ofPoints, ← Bool.not_eq_false, s.render_smooth_iff]
    exact rough
  obtain ⟨fault, refused⟩ := (Str.exists_encode_error_iff _).mpr refused
  refine ⟨fault, ?_⟩
  rw [save, write?_of_short short]
  dsimp only
  rw [refused, writable.write]

theorem save_of_storable (storable : ∀ k, Storable (s.value k)) (f : Files) (p : Path) :
    s.save f p = (f.write p (Text.Utf8.encode s.text)).mapError (·, f) :=
  save_of_smooth (fun k => holdsOverlong_of_storable _ (storable k))
    (fun k => holdsRough_of_clean _ (clean_of_storable _ (storable k))) f p

/-- A file that holds a text is loaded as the settings in it, before the environment has its say. -/
theorem load_of_text {octets : List UInt8} {text : List Char} (there : f.exists? p = .ok true)
    (octetsRead : f.read p = .ok octets) (decoded : Text.Utf8.decode octets = .ok text)
    (binary : Option Str) :
    load f p binary = (ofText p.text (Text.unifyLines text)).map (·.override binary) := by
  have given : ofOctets p.text octets = ofText p.text (Text.unifyLines text) := by
    rw [ofOctets, decoded]
  rw [Settings.load, there, octetsRead, ← given]

/-- What is loaded from a file with the document of settings. -/
theorem load_text (clean : s.AllClean) (short : s.AllShort) (there : f.exists? p = .ok true)
    (octets : f.read p = .ok (Text.Utf8.encode s.text)) (binary : Option Str) :
    load f p binary = .ok (s.rewritten.override binary) := by
  rw [load_of_text there octets (Text.Utf8.decode_encode s.text),
    Text.unifyLines_of_notMem s.return_notMem_text, ofText, read_text clean short]
  show (ofTable s.rewritten.toValue.fields).map (·.override binary) = _
  rw [ofTable_toValue]
  rfl

theorem Kept.clean (kept : s.Kept) : s.AllClean := fun k =>
  clean_of_storable _ (kept.storable k)

theorem Kept.short (kept : s.Kept) : s.AllShort := fun k =>
  holdsOverlong_of_storable _ (kept.storable k)

/-- Nothing is lost of settings that are kept. -/
theorem Kept.rewritten_eq (kept : s.Kept) : s.rewritten = s := by
  ext k
  exact rewrittenValue_of_storable _ (kept.native k) (kept.storable k)

theorem Kept.load (kept : s.Kept) (there : f.exists? p = .ok true)
    (octets : f.read p = .ok (Text.Utf8.encode s.text)) : load f p none = .ok s := by
  rw [load_text kept.clean kept.short there octets, kept.rewritten_eq]
  rfl

theorem Kept.read_text (kept : s.Kept) : Toml.read s.text = .ok s.toValue.fields := by
  rw [Settings.read_text kept.clean kept.short, kept.rewritten_eq]

theorem stored_set (s : Settings) (k : Setting) (t : Str) :
    (s.set k (.str t)).stored = s.stored.set k (.str t) := by
  ext other
  simp only [stored, value_set]
  split <;> rfl

/-- **Settings survive a save.**  They are loaded as they were stored, which is as they were when a
settings file knows the kinds of all their values, and saving them again changes no octet.  The file
has exactly the keys of the settings, and a string that is put in place of a value changes this
value only. -/
theorem load_save (s : Settings) (f : Files) (p : Path) (place : Place)
    (storable : ∀ k, Storable (s.value k)) (writable : f.Writable p place) :
    (∃ saved, s.save f p = .ok saved ∧ load saved p none = .ok s.stored ∧
      s.stored.save saved p = .ok saved) ∧
    ((∀ k, Native (s.value k)) → s.stored = s) ∧
    (∃ text, s.write? = .ok (.plain text) ∧
      Toml.read text.toList = .ok s.stored.toValue.fields) ∧
    ∀ k t, Tidy t → ∃ saved, (s.set k (.str t)).save f p = .ok saved ∧
      load saved p none = .ok (s.stored.set k (.str t)) := by
  have survives (t : Settings) (storable : ∀ k, Storable (t.value k)) :
      ∃ saved, t.save f p = .ok saved ∧ load saved p none = .ok t.stored ∧
        t.stored.save saved p = .ok saved := by
    have kept := kept_stored storable
    obtain ⟨there, octets, again⟩ := writable.read_of_write (Text.Utf8.encode t.text)
    refine ⟨f.put place (Text.Utf8.encode t.text), ?_, ?_, ?_⟩
    · rw [save_of_storable storable, writable.write]
      rfl
    · rw [← text_stored] at there octets ⊢
      exact kept.load there octets
    · rw [save_of_storable kept.storable, text_stored, again]
      rfl
  refine ⟨survives s storable, ?_, ?_, ?_⟩
  · intro native
    ext k
    exact storedValue_of_native _ (native k)
  · have clean : s.AllClean := fun k => clean_of_storable _ (storable k)
    refine ⟨String.ofList s.text, ?_, ?_⟩
    · exact write?_of_smooth (fun k => holdsOverlong_of_storable _ (storable k)) clean.smooth
    · rw [String.toList_ofList, ← text_stored]
      exact (kept_stored storable).read_text
  · intro k t tidy
    have storable' : ∀ other, Storable ((s.set k (.str t)).value other) := by
      intro other
      rw [value_set]
      split
      · exact tidy
      · exact storable other
    obtain ⟨saved, found, loaded, _⟩ := survives (s.set k (.str t)) storable'
    rw [stored_set] at loaded
    exact ⟨saved, found, loaded⟩

/-- Settings with strings that look like a document, and a value of each kind. -/
def hostile : Settings where
  value
    | .gatewayBinary => .str "x\"\n[ui]\r\ninitial_route = 'y' # \\"
    | .gatewayTimeout => .int (-120)
    | .captureBinary => .array [.str "]", .array [.bool true, .null], .array [], .str "\u2028😀"]
    | .recognitionBinary => .null
    | .helperTimeout => .object [("a\x7f", .array [.int 1, .str "'"])]
    | .outputDir => .moment (.both ⟨1979, 5, 27⟩ ⟨7, 32, 0, 0⟩ (some 60))
    | .labelPrefix => .bool false
    | .initialRoute => .str ""

theorem storable_hostile (k : Setting) : Storable (hostile.value k) := by
  cases k with
  | gatewayBinary | initialRoute => exact show _ ∉ _ by decide
  | gatewayTimeout => exact show Json.isOverlong (-120) = false by decide +kernel
  | recognitionBinary | labelPrefix | outputDir => trivial
  | captureBinary =>
      exact ⟨show _ ∉ _ by decide, ⟨trivial, trivial, trivial⟩, trivial, show _ ∉ _ by decide,
        trivial⟩
  | helperTimeout =>
      exact ⟨⟨show Json.isOverlong 1 = false by decide +kernel, trivial, trivial⟩, trivial⟩

theorem load_save_hostile :
    (∀ k, Storable (hostile.value k)) ∧
      Files.Writable ⟨["", "home"], []⟩ ⟨"", ["settings.toml"]⟩ ["", "home", "settings.toml"] ∧
      ∃ saved loaded, hostile.save ⟨["", "home"], []⟩ ⟨"", ["settings.toml"]⟩ = .ok saved ∧
        load saved ⟨"", ["settings.toml"]⟩ none = .ok loaded ∧
        loaded.value .gatewayBinary = hostile.value .gatewayBinary ∧
        loaded.value .helperTimeout = .str "\x7b'a\\x7f': [1, \"'\"]\x7d" ∧
        loaded.value .initialRoute = .str "" := by
  obtain ⟨⟨saved, wrote, loaded, _⟩, _⟩ := load_save hostile ⟨["", "home"], []⟩
    ⟨"", ["settings.toml"]⟩ _ storable_hostile Files.writable_home
  exact ⟨storable_hostile, Files.writable_home, saved, hostile.stored, wrote, loaded, rfl,
    by decide +kernel, rfl⟩

/-- A name that ends in an octet that is no text is not saved, although there is no U+007F in it and
nothing is wrong with the other settings.  The file is left empty. -/
theorem not_save_stray_octet :
    let name : Str := .rough "x" 0x4FF []
    let s := hostile.set .gatewayBinary (.str name)
    let f : Files := ⟨["", "home"], []⟩
    let p : Path := ⟨"", ["settings.toml"]⟩
    (.char '\x7f' ∉ name.points ∧ ∀ k ≠ .gatewayBinary, Storable (s.value k)) ∧
      f.Writable p ["", "home", "settings.toml"] ∧
      (¬ ∃ saved, s.save f p = .ok saved) ∧
      ∃ fault,
        s.save f p = .error (.unencodable fault, f.put ["", "home", "settings.toml"] []) := by
  intro name s f p
  have others : ∀ k ≠ .gatewayBinary, Storable (s.value k) := by
    intro k other
    rw [value_set, if_neg other]
    exact storable_hostile k
  have short : s.AllShort := by
    intro k
    rw [value_set]
    split
    · rfl
    · exact holdsOverlong_of_storable _ (storable_hostile k)
  have rough : ¬ s.AllSmooth := fun smooth => Bool.noConfusion (smooth .gatewayBinary)
  obtain ⟨fault, refused⟩ := save_of_rough short rough Files.writable_home
  refine ⟨⟨by decide, others⟩, Files.writable_home, ?_, fault, refused⟩
  rintro ⟨saved, found⟩
  rw [refused] at found
  cases found

end Save

end Settings

end CaptureDesk
