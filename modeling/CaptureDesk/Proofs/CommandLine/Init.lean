import CaptureDesk.CommandLine.Execution
import CaptureDesk.Proofs.Settings.Given
import CaptureDesk.Proofs.Settings.Rewritten

/-!
# Writing the settings file anew

The settings file is loaded and saved again in its place (`workplace_initialise`).  The new file is
what is left of the settings that were loaded, with the backend that was asked for, if no string
among these holds U+007F; otherwise no settings can be loaded any more (`load_of_init`).  A backend
whose name cannot be encoded stops the command, and leaves an empty file.
-/

namespace CaptureDesk.CommandLine

variable {σ α β : Type} {c d e : Console σ}

/-! ## Parts of a command -/

/-- A part of a command comes to its end with a result, and leaves the console `d`. -/
def Run.Ends (x : Run σ α) (c : Console σ) (a : α) (d : Console σ) : Prop :=
  x.run c = (Except.ok a, d)

/-- A part of a command stops it, and leaves the console `d`. -/
def Run.Stops (x : Run σ α) (c : Console σ) (stop : Stop) (d : Console σ) : Prop :=
  x.run c = (Except.error stop, d)

/-- A part of a command does nothing to the workplace, whether it comes to its end or not. -/
def Run.Spares (x : Run σ α) : Prop :=
  ∀ c, (x.run c).2.workplace = c.workplace

namespace Run

section Parts

variable {x : Run σ α} {f : α → Run σ β} {a : α} {b : β} {stop : Stop}

theorem run_bind (x : Run σ α) (f : α → Run σ β) (c : Console σ) :
    (x >>= f).run c = ExceptT.bindCont f (x.run c).1 (x.run c).2 := rfl

/-- A part that comes to its end is followed by the next. -/
theorem Ends.bind (first : x.Ends c a d) (next : (f a).Ends d b e) : (x >>= f).Ends c b e := by
  unfold Ends at first next ⊢
  rw [run_bind, first]
  exact next

/-- What comes after a part that stops is not carried out. -/
theorem Stops.bind (stops : x.Stops c stop d) : (x >>= f).Stops c stop d := by
  unfold Stops at stops ⊢
  rw [run_bind, stops]
  rfl

theorem Ends.bind_stops (first : x.Ends c a d) (next : (f a).Stops d stop e) :
    (x >>= f).Stops c stop e := by
  unfold Ends at first
  unfold Stops at next ⊢
  rw [run_bind, first]
  exact next

theorem Ends.bind_workplace (first : x.Ends c a d) (spares : (f a).Spares) :
    ((x >>= f).run c).2.workplace = d.workplace := by
  unfold Ends at first
  rw [run_bind, first]
  exact spares d

theorem Spares.bind (first : x.Spares) (next : ∀ a, (f a).Spares) : (x >>= f).Spares := by
  intro c
  rw [run_bind]
  have own := first c
  generalize x.run c = outcome at own ⊢
  rcases outcome with ⟨_ | a, d⟩
  · exact own
  · exact (next a d).trans own

theorem ends_pure (a : α) (c : Console σ) : Ends (pure a : Run σ α) c a c := rfl

theorem ends_ofExcept {result : Except Fault α} (found : result = .ok a) (c : Console σ) :
    (ofExcept result).Ends c a c := by
  rw [found]
  exact ends_pure a c

theorem ends_files (c : Console σ) : files.Ends c c.workplace.files c := rfl

theorem spares_files : Spares (files : Run σ Files) := fun _ => rfl

theorem spares_print (text : Str) : Spares (print text : Run σ Unit) := by
  intro c
  unfold print
  cases lineText text <;> rfl

/-- A text without surrogates is printed. -/
theorem ends_print {text : Str} (smooth : text.isRough = false) (c : Console σ) :
    (print text).Ends c () { c with stdout := c.stdout ++ (lineText text).shown } := by
  have line : (lineText text).isRough = false := by
    rw [lineText, Str.isRough_append, Str.isRough_ofPoints, List.any_eq_false.mpr]
    · rfl
    · intro p member
      rw [Str.isRough_eq_any, List.any_eq_false] at smooth
      exact smooth p ((Text.ControlSequence.drop_sublist _).mem member)
  obtain ⟨shown, same⟩ := Str.exists_eq_plain line
  rw [print, same]
  rfl

end Parts

theorem ends_settingsPath {config : Str} {place : Place}
    (resolved : c.workplace.files.resolve (Path.ofText config) = .ok place) :
    (settingsPath config).Ends c (Path.ofPlace place) c :=
  (ends_files c).bind ((ends_ofExcept resolved c).bind (ends_pure _ c))

theorem ends_settings {path : Path} {binary : Option Str} {t : Settings}
    (loaded : Settings.load c.workplace.files path binary = .ok t) :
    (settings path binary).Ends c t c := by
  refine (ends_files c).bind ?_
  rw [loaded]
  exact ends_pure t c

end Run

/-- Settings that are saved leave their files. -/
theorem ends_store {path : Path} {t : Settings} {saved : Files}
    (found : t.save c.workplace.files path = .ok saved) :
    (store t path).Ends c () { c with workplace := { c.workplace with files := saved } } := by
  refine (Run.ends_files c).bind ?_
  rw [found]
  rfl

/-- Settings that are not saved break the command, with the files that are left of it. -/
theorem stops_store {path : Path} {t : Settings} {fault : Fault} {left : Files}
    (refused : t.save c.workplace.files path = .error (fault, left)) :
    (store t path).Stops c (.broken fault)
      { c with workplace := { c.workplace with files := left } } := by
  refine (Run.ends_files c).bind_stops ?_
  rw [refused]
  rfl

/-! ## A home directory -/

/-- A home directory with the settings file that is loaded when no other is named. -/
def home (text : String) : Files :=
  Files.put ⟨["", "home"], []⟩ ["", "home", "conductor.toml"] (Text.Utf8.encode text.toList)

/-- The settings file in the home directory. -/
def homeSettings : Path := Path.ofPlace ["", "home", "conductor.toml"]

theorem ofText_usual : Path.ofText "conductor.toml" = ⟨"", ["conductor.toml"]⟩ := by decide

/-- Where the usual settings file is found from the home directory. -/
theorem resolve_usual {f : Files} (directory : f.directory = [Str.plain "", "home"]) :
    f.resolve (Path.ofText "conductor.toml") = .ok ["", "home", "conductor.toml"] := by
  have start : f.start ⟨"", ["conductor.toml"]⟩ = [Str.plain "", "home"] := directory
  rw [ofText_usual, Files.resolve, start]
  decide

theorem resolve_home (text : String) :
    (home text).resolve (Path.ofText "conductor.toml") = .ok ["", "home", "conductor.toml"] :=
  resolve_usual rfl

theorem writable_empty_home :
    Files.Writable ⟨["", "home"], []⟩ homeSettings ["", "home", "conductor.toml"] := by
  refine ⟨?_, by decide, by decide⟩
  have asked : Files.unaskable? homeSettings.text = none := by decide
  rw [Files.locate, Files.locateAs, asked]
  rfl

theorem writable_home (text : String) :
    (home text).Writable homeSettings ["", "home", "conductor.toml"] :=
  writable_empty_home.put _

/-- What is loaded in a home directory. -/
theorem load_home {text : String} {document : Table Value}
    (read : Toml.read (Text.unifyLines text.toList) = .ok document) :
    Settings.load (home text) homeSettings none = Settings.ofTable document :=
  Settings.load_of_holds (Settings.holds_put writable_empty_home read)

/-- Surroundings in which a child has nothing to say. -/
def alone : Surroundings Unit :=
  { supply := fun _ left => ({}, left), now := Instant.ofSeconds 0 }

/-! ## The command -/

section Init

variable {binary : Option Str} {config : Str} {place : Place} {t : Settings} {saved : Files}

/-- What is printed when the settings file has been written. -/
def greet (path : Path) (t : Settings) : Run σ Unit := do
  Run.print ("Initialized Conductor in " ++ Place.text (← Run.files).directory)
  Run.print ("Config: " ++ path.text)
  Run.print ("Gateway: " ++ (t.value .gatewayBinary).text)

/-- The settings file is loaded without the environment and saved again; then the user is told. -/
theorem initialise_eq (binary : Option Str) (config : Str) :
    (initialise binary config : Run σ Unit) = (do
      let path ← Run.settingsPath config
      let t ← Run.settings path none
      store (t.withBackend binary) path
      greet path (t.withBackend binary)) := rfl

theorem spares_greet (path : Path) (t : Settings) : (greet path t : Run σ Unit).Spares :=
  Run.spares_files.bind fun _ => (Run.spares_print _).bind fun _ =>
    (Run.spares_print _).bind fun _ => Run.spares_print _

theorem ends_greet {path : Path} {c : Console σ}
    (directory : (Place.text c.workplace.files.directory).isRough = false)
    (named : path.text.isRough = false)
    (backend : (t.value .gatewayBinary).text.isRough = false) :
    ∃ d, (greet path t).Ends c () d := by
  have line (start : String) {text : Str} (smooth : text.isRough = false) :
      (Str.plain start ++ text).isRough = false := by
    rw [Str.isRough_append, smooth]
    rfl
  exact ⟨_, (Run.ends_files c).bind <| (Run.ends_print (line _ directory) _).bind <|
    (Run.ends_print (line _ named) _).bind (Run.ends_print (line _ backend) _)⟩

/-- What the command does to the workplace, whether its words can be printed or not. -/
theorem workplace_initialise (c : Console σ)
    (resolved : c.workplace.files.resolve (Path.ofText config) = .ok place)
    (loaded : Settings.load c.workplace.files (Path.ofPlace place) none = .ok t)
    (found : (t.withBackend binary).save c.workplace.files (Path.ofPlace place) = .ok saved) :
    ((initialise binary config).run c).2.workplace = { c.workplace with files := saved } := by
  have path := Run.ends_settingsPath (c := c) resolved
  have settings := Run.ends_settings loaded
  have stored := ends_store (c := c) found
  rw [initialise_eq, Run.run_bind, path, ExceptT.bindCont]
  show ((Run.settings _ none >>= _).run c).2.workplace = _
  rw [Run.run_bind, settings, ExceptT.bindCont]
  exact stored.bind_workplace (spares_greet _ _)

/-- The command comes to its end if the paths that it names can be printed. -/
theorem ends_initialise (c : Console σ)
    (resolved : c.workplace.files.resolve (Path.ofText config) = .ok place)
    (loaded : Settings.load c.workplace.files (Path.ofPlace place) none = .ok t)
    (found : (t.withBackend binary).save c.workplace.files (Path.ofPlace place) = .ok saved)
    (directory : (Place.text saved.directory).isRough = false)
    (named : (Path.ofPlace place).text.isRough = false)
    (backend : ((t.withBackend binary).value .gatewayBinary).text.isRough = false) :
    ∃ d, (initialise binary config).Ends c () d := by
  obtain ⟨d, ends⟩ := ends_greet (c := { c with workplace := { c.workplace with files := saved } })
    directory named backend
  exact ⟨d, (Run.ends_settingsPath resolved).bind <| (Run.ends_settings loaded).bind <|
    (ends_store found).bind ends⟩

/-- The command stops when the settings are not saved. -/
theorem stops_initialise (c : Console σ) {fault : Fault} {left : Files}
    (resolved : c.workplace.files.resolve (Path.ofText config) = .ok place)
    (loaded : Settings.load c.workplace.files (Path.ofPlace place) none = .ok t)
    (refused : (t.withBackend binary).save c.workplace.files (Path.ofPlace place) =
      .error (fault, left)) :
    (initialise binary config).Stops c (.broken fault)
      { c with workplace := { c.workplace with files := left } } :=
  (Run.ends_settingsPath resolved).bind_stops <| (Run.ends_settings loaded).bind_stops
    (stops_store refused).bind

/-- A command line ends as its command does. -/
theorem run_of_ends {s : Surroundings σ} {w : Workplace σ} {words : List Str}
    {invocation : Invocation} (asked : Invocation.ofWords? words = some invocation)
    (ends : (invocation.perform s).Ends { workplace := w } () d) :
    run s w words = { stop := none, console := d } := by
  unfold Run.Ends at ends
  rw [run, asked]
  dsimp only
  rw [ends]

/-- A command line stops as its command does. -/
theorem run_of_stops {s : Surroundings σ} {w : Workplace σ} {words : List Str}
    {invocation : Invocation} {stop : Stop} (asked : Invocation.ofWords? words = some invocation)
    (stops : (invocation.perform s).Stops { workplace := w } stop d) :
    run s w words = { stop := some stop.settled, console := d } := by
  unfold Run.Stops at stops
  rw [run, asked]
  dsimp only
  rw [stops]

theorem workplace_run {s : Surroundings σ} {w : Workplace σ} {words : List Str}
    {invocation : Invocation} (asked : Invocation.ofWords? words = some invocation) :
    (run s w words).console.workplace =
      ((invocation.perform s).run { workplace := w }).2.workplace := by
  rw [run, asked]
  dsimp only
  generalize (invocation.perform s).run { workplace := w } = outcome
  rcases outcome with ⟨_ | ⟨⟩, _⟩ <;> rfl

/-- How a command line leaves a settings file that it has written anew, with the settings `t`.  It
ends well if the paths that it names can be printed.  From then on settings are loaded, whatever the
environment says, just if no string among these holds U+007F. -/
structure Renewed (e : Ending σ) (w : Workplace σ) (p : Path) (t : Settings) : Prop where
  ended : (Place.text w.files.directory).isRough = false → p.text.isRough = false → e.stop = none
  saved : t.save w.files p = .ok e.console.workplace.files
  loads : ∀ other, (∃ u, Settings.load e.console.workplace.files p other = .ok u) ↔ t.AllClean
  loaded : t.AllClean → ∀ other,
    Settings.load e.console.workplace.files p other = .ok (t.rewritten.override other)

/-- How a command line leaves a settings file whose new text cannot be encoded.  It is broken, and
the file that is left empty is loaded as the defaults. -/
structure Emptied (e : Ending σ) (w : Workplace σ) (p : Path) (goal : Place) : Prop where
  broken : ∃ fault, e.stop = some (.broken (.unencodable fault))
  emptied : e.console.workplace.files = w.files.put goal []
  loaded : ∀ other,
    Settings.load e.console.workplace.files p other = .ok (Settings.override {} other)

/-- What was loaded is saved with the backend that was asked for. -/
theorem save_of_init (s : Surroundings σ) (w : Workplace σ) {words : List Str} {goal : Place}
    (asked : Invocation.ofWords? words = some (.init binary config))
    (resolved : w.files.resolve (Path.ofText config) = .ok place)
    (writable : w.files.Writable (Path.ofPlace place) goal)
    (loaded : Settings.load w.files (Path.ofPlace place) none = .ok t) (short : t.AllShort)
    (plain : ∀ name ∈ binary, name.isRough = false) :
    ((Place.text w.files.directory).isRough = false → (Path.ofPlace place).text.isRough = false →
      (run s w words).stop = none) ∧
    (t.withBackend binary).save w.files (Path.ofPlace place) =
      .ok (run s w words).console.workplace.files := by
  have smooth := (Settings.smooth_of_load loaded).withBackend plain
  have found := Settings.save_of_smooth (short.withBackend binary) smooth w.files
    (Path.ofPlace place)
  rw [writable.write] at found
  refine ⟨fun directory named => ?_, ?_⟩
  · have start := (Files.places_put writable.noDevice
      (Text.Utf8.encode (t.withBackend binary).text)).1
    have backend := Settings.isRough_text (smooth .gatewayBinary)
    obtain ⟨d, ends⟩ := ends_initialise { workplace := w } resolved loaded found
      (start ▸ directory) named backend
    rw [run_of_ends asked ends]
  · rw [workplace_run asked]
    show _ = Except.ok ((initialise binary config).run _).2.workplace.files
    rw [workplace_initialise { workplace := w } resolved loaded found]
    exact found

/-- **What is left of a settings file that is written anew.**  It holds the settings that were
loaded before, with the backend that was asked for; and if the name of the backend cannot be
encoded, it is empty. -/
theorem load_of_init (s : Surroundings σ) (w : Workplace σ) {words : List Str} {goal : Place}
    (asked : Invocation.ofWords? words = some (.init binary config))
    (resolved : w.files.resolve (Path.ofText config) = .ok place)
    (writable : w.files.Writable (Path.ofPlace place) goal)
    (loaded : Settings.load w.files (Path.ofPlace place) none = .ok t) (short : t.AllShort) :
    ((∀ name ∈ binary, name.isRough = false) →
      Renewed (run s w words) w (Path.ofPlace place) (t.withBackend binary)) ∧
    ∀ name ∈ binary, name.isRough = true →
      Emptied (run s w words) w (Path.ofPlace place) goal := by
  constructor
  · intro plain
    obtain ⟨ended, found⟩ := save_of_init s w asked resolved writable loaded short plain
    exact
      { ended
        saved := found
        loads := fun other => (Settings.load_saved writable found other).1
        loaded := fun clean other => (Settings.load_saved writable found other).2 clean }
  · intro name given rough
    cases given
    obtain ⟨fault, refused⟩ := Settings.save_of_rough (short.withBackend (some name))
      (t.not_smooth_withBackend rough) writable
    rw [run_of_stops asked (stops_initialise { workplace := w } resolved loaded refused)]
    exact
      { broken := ⟨fault, rfl⟩
        emptied := rfl
        loaded := Settings.load_of_empty writable }

/-- A settings file with a route is left with it, and with the backend that was asked for. -/
theorem load_of_init_route :
    let w : Workplace Unit := { supply := (), files := home "[ui]\ninitial_route = 'steps'\n" }
    let t : Settings := Settings.set {} .initialRoute (.str "steps")
    let words : List Str := ["init", "--gateway-binary", "x"]
    Invocation.ofWords? words = some (.init (some "x") "conductor.toml") ∧
      w.files.resolve (Path.ofText "conductor.toml") = .ok ["", "home", "conductor.toml"] ∧
      w.files.Writable homeSettings ["", "home", "conductor.toml"] ∧
      Settings.load w.files homeSettings none = .ok t ∧ t.AllShort ∧
      (run alone w words).stop = none ∧
      Settings.load (run alone w words).console.workplace.files homeSettings none =
        .ok (t.set .gatewayBinary (.str "x")).rewritten := by
  intro w t words
  have asked : Invocation.ofWords? words = some (.init (some "x") "conductor.toml") := by
    decide +kernel
  have read : Toml.read (Text.unifyLines "[ui]\ninitial_route = 'steps'\n".toList) =
      .ok [("ui", .object [("initial_route", .str "steps")])] := by
    decide +kernel
  have loaded : Settings.load w.files homeSettings none = .ok t := (load_home read).trans rfl
  have short : t.AllShort := Settings.short_default.set _ rfl
  have clean : (t.set .gatewayBinary (.str "x")).AllClean := by
    refine (Settings.clean_default.set .initialRoute ?_).set .gatewayBinary ?_
    · exact (by decide : '\x7f' ∉ "steps".toList)
    · exact (by decide : '\x7f' ∉ "x".toList)
  have renewed := (load_of_init alone w asked (resolve_home _) (writable_home _) loaded short).1
    fun name given => by cases given; rfl
  exact ⟨asked, resolve_home _, writable_home _, loaded, short, renewed.ended rfl rfl,
    renewed.loaded clean none⟩

/-- A settings file that is loaded, and from which nothing is loaded any more after it was written
anew. -/
theorem not_load_of_init_delete :
    let w : Workplace Unit := { supply := (), files := home "[gateway]\nbinary = \"\\u007f\"\n" }
    (∃ t, Settings.load w.files homeSettings none = .ok t ∧ t.AllShort) ∧
      (run alone w ["init"]).stop = none ∧
      ∀ other, ¬ ∃ u, Settings.load (run alone w ["init"]).console.workplace.files homeSettings
        other = .ok u := by
  intro w
  have read : Toml.read (Text.unifyLines "[gateway]\nbinary = \"\\u007f\"\n".toList) =
      .ok [("gateway", .object [("binary", .str "\x7f")])] := by
    decide +kernel
  have loaded : Settings.load w.files homeSettings none =
      .ok (Settings.set {} .gatewayBinary (.str "\x7f")) := (load_home read).trans rfl
  have short : (Settings.set {} .gatewayBinary (.str "\x7f")).AllShort :=
    Settings.short_default.set _ rfl
  have unclean : ¬ (Settings.set {} .gatewayBinary (.str "\x7f")).AllClean := by
    intro clean
    exact absurd (by decide : '\x7f' ∈ "\x7f".toList) (clean .gatewayBinary)
  have asked : Invocation.ofWords? ["init"] = some (.init none "conductor.toml") := by
    decide +kernel
  obtain ⟨ended, found⟩ :=
    save_of_init alone w asked (resolve_home _) (writable_home _) loaded short nofun
  refine ⟨⟨_, loaded, short⟩, ended rfl rfl, fun other accepted => ?_⟩
  exact unclean ((Settings.load_saved (writable_home _) found other).1.mp accepted)

end Init

end CaptureDesk.CommandLine
