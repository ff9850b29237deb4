import CaptureDesk.Toml.Document

/-!
# Documents line by line

A document that has one header for each section, and after it a line for each entry, is read as the
table of its sections (`read_sections`).  The keys are bare, and no section and no key within a
section is there twice; of the texts of the values it is only used that the reader of values takes
them (`Gives`).

What a line does to the draft of a document does not depend on the lines after it (`Draft.Leads`),
so the lines are followed one by one (`Draft.Course`).
-/

namespace CaptureDesk.Toml

/-! ## Lines -/

namespace Draft

/-- `Leads d line e`: reading a line takes the draft `d` to `e`, whatever follows the line. -/
def Leads (d : Draft) (line : List Char) (e : Draft) : Prop :=
  ∀ fuel rest, d.readAll (fuel + 1) (line ++ '\n' :: rest) = e.readAll fuel rest

/-- `Course d lines e`: reading lines one after another takes the draft `d` to `e`. -/
inductive Course : Draft → List (List Char) → Draft → Prop
  | nil (d : Draft) : Course d [] d
  | cons {d e f : Draft} {line : List Char} {lines : List (List Char)} :
      Leads d line e → Course e lines f → Course d (line :: lines) f

section Course

variable {d e f : Draft} {line : List Char} {lines more : List (List Char)}

theorem Course.append (first : Course d lines e) (second : Course e more f) :
    Course d (lines ++ more) f := by
  induction first with
  | nil => exact second
  | cons leads _ ih => exact .cons leads (ih second)

/-- Fuel for each line and the end of the text is enough. -/
theorem Course.readAll (course : Course d lines e) {fuel : Nat} (enough : lines.length < fuel) :
    d.readAll fuel (lines.flatMap (· ++ ['\n'])) = .ok e := by
  induction course generalizing fuel with
  | nil d =>
      obtain ⟨fuel, rfl⟩ : ∃ n, fuel = n + 1 := ⟨fuel - 1, by omega⟩
      rfl
  | cons leads _ ih =>
      obtain ⟨fuel, rfl⟩ : ∃ n, fuel = n + 1 := ⟨fuel - 1, by omega⟩
      rw [List.flatMap_cons, List.append_assoc, List.singleton_append, leads]
      exact ih (by simpa using enough)

/-- Each line takes a character of a text at least. -/
theorem length_le_text (lines : List (List Char)) :
    lines.length ≤ (lines.flatMap (· ++ ['\n'])).length := by
  induction lines with
  | nil => exact Nat.le_refl 0
  | cons line lines ih =>
      rw [List.flatMap_cons, List.length_append, List.length_append, List.length_cons]
      simp only [List.length_singleton]
      omega

theorem leads_blank (d : Draft) : Leads d [] d := fun _ _ => rfl

/-- What begins with no gap is a statement, and after it at most a comment on its line. -/
theorem readAll_of_visible {c : Char} (visible : isGap c = false) (d : Draft) (fuel : Nat)
    (rest : List Char) :
    d.readAll (fuel + 1) (c :: rest) =
      (do
        let (e, rest) ← d.readStatement (c :: rest)
        match ← skipComment (skipSpace rest) with
        | [] => pure e
        | '\n' :: rest => e.readAll fuel rest
        | rest => refuse .lineEnd rest) := by
  have text : skipSpace (c :: rest) = c :: rest := by
    simp only [isGap, Bool.or_eq_false_iff] at visible
    simp [skipSpace, visible.1]
  have other : c ≠ '\n' := by
    intro same
    rw [same] at visible
    cases visible
  rw [readAll, text]
  split
  · rename_i nothing
    cases nothing
  · rename_i same
    cases same
    exact absurd rfl other
  · rfl

/-- A line that is one statement does what the statement does. -/
theorem leads_of_statement {c : Char} (visible : isGap c = false)
    (statement : ∀ rest, d.readStatement (c :: line ++ '\n' :: rest) = .ok (e, '\n' :: rest)) :
    Leads d (c :: line) e := by
  intro fuel rest
  rw [List.cons_append, readAll_of_visible visible, ← List.cons_append, statement rest]
  rfl

end Course

end Draft

/-! ## Keys -/

/-- A key that stands without quotes. -/
def Bare (key : String) : Prop :=
  key.toList ≠ [] ∧ ∀ c ∈ key.toList, isBareKey c = true

instance (key : String) : Decidable (Bare key) :=
  @instDecidableAnd _ _ inferInstance (List.decidableBAll (fun c => isBareKey c = true) key.toList)

section Keys

variable {name : String} {rest : List Char}

/-- A bare key begins with a character that opens nothing else. -/
theorem Bare.head (bare : Bare name) :
    ∃ c more, name.toList = c :: more ∧ isBareKey c = true := by
  cases chars : name.toList with
  | nil => exact absurd chars bare.1
  | cons c more => exact ⟨c, more, rfl, bare.2 c (chars ▸ List.mem_cons_self)⟩

theorem Bare.skipSpace (bare : Bare name) (rest : List Char) :
    skipSpace (name.toList ++ rest) = name.toList ++ rest := by
  obtain ⟨c, more, chars, isBare⟩ := bare.head
  have visible : isSpace c = false := by
    rw [isSpace, Bool.or_eq_false_iff, decide_eq_false_iff_not, decide_eq_false_iff_not]
    constructor <;>
    · rintro rfl
      cases isBare
  rw [chars, List.cons_append, Toml.skipSpace, List.dropWhile_cons, if_neg (by simp [visible])]

theorem keyPart_of_bare (bare : Bare name) {d : Char} (stop : isBareKey d = false) :
    keyPart (name.toList ++ d :: rest) = .ok (name, d :: rest) := by
  obtain ⟨c, more, chars, isBare⟩ := bare.head
  have all : ∀ e ∈ name.toList, isBareKey e = true := bare.2
  have front : (name.toList ++ d :: rest).takeWhile isBareKey = name.toList := by
    rw [List.takeWhile_append_of_pos all, List.takeWhile_cons, if_neg (by simp [stop]),
      List.append_nil]
  have back : (name.toList ++ d :: rest).dropWhile isBareKey = d :: rest := by
    rw [List.dropWhile_append_of_pos all, List.dropWhile_cons, if_neg (by simp [stop])]
  rw [keyPart.eq_def]
  split
  · rename_i quote
    rw [chars] at quote
    cases quote
    cases isBare
  · rename_i quote
    rw [chars] at quote
    cases quote
    cases isBare
  · rw [front, back]
    split
    · rename_i nothing
      exact absurd nothing bare.1
    · rw [String.ofList_toList]
      rfl

/-- A bare key stands alone when no dot follows it. -/
theorem key_of_bare (bare : Bare name) {d : Char} (stop : isBareKey d = false)
    (noDot : ∀ more, skipSpace (d :: rest) ≠ '.' :: more) (fuel : Nat) :
    key (fuel + 1) (name.toList ++ d :: rest) = .ok ([name], skipSpace (d :: rest)) := by
  rw [key, keyPart_of_bare bare stop]
  dsimp only [bind, Except.bind]
  split
  · rename_i dot
    exact absurd dot (noDot _)
  · rfl

end Keys

/-! ## Values on a line -/

/-- `Gives text v`: where it ends a line, a text is read as a value. -/
def Gives (text : List Char) (v : Value) : Prop :=
  ∀ fuel rest, 2 * text.length ≤ fuel →
    value fuel (skipSpace (text ++ '\n' :: rest)) = .ok (v, '\n' :: rest)

/-- The line of an entry. -/
def entryLine (key : String) (text : List Char) : List Char :=
  key.toList ++ [' ', '=', ' '] ++ text

/-- The line of an entry begins with no gap, and opens neither a header nor a comment. -/
theorem entryLine_opens {key : String} (bare : Bare key) (text : List Char) :
    ∃ c line, entryLine key text = c :: line ∧ isGap c = false ∧ startsKey c = true ∧
      c ≠ '[' ∧ c ≠ '#' := by
  obtain ⟨c, more, chars, isBare⟩ := bare.head
  have other (d : Char) (notBare : isBareKey d = false) : c ≠ d := by
    intro same
    rw [same, notBare] at isBare
    cases isBare
  refine ⟨c, more ++ [' ', '=', ' '] ++ text, ?_, ?_, by simp [startsKey, isBare],
    other '[' (by decide), other '#' (by decide)⟩
  · rw [entryLine, chars]
    rfl
  · simp [isGap, isSpace, other ' ' (by decide), other '\t' (by decide), other '\n' (by decide)]

/-- The line of an entry is read as the key and what its text is read as. -/
theorem entry_entryLine {key : String} (bare : Bare key) (text rest : List Char) (fuel : Nat) :
    entry (fuel + 1) (entryLine key text ++ '\n' :: rest) =
      (value fuel (skipSpace (text ++ '\n' :: rest))).map fun found =>
        (([key], found.1), found.2) := by
  have line : entryLine key text ++ '\n' :: rest =
      key.toList ++ ' ' :: '=' :: ' ' :: (text ++ '\n' :: rest) := by simp [entryLine]
  have noDot (after : List Char) :
      skipSpace (' ' :: '=' :: ' ' :: (text ++ '\n' :: rest)) ≠ '.' :: after := by
    show '=' :: ' ' :: (text ++ '\n' :: rest) ≠ _
    simp
  have found : ∀ fuel,
      Toml.key (fuel + 1) (key.toList ++ ' ' :: '=' :: ' ' :: (text ++ '\n' :: rest)) =
        .ok ([key], '=' :: ' ' :: (text ++ '\n' :: rest)) := key_of_bare bare (by decide) noDot
  obtain ⟨n, length⟩ :
      ∃ n, (key.toList ++ ' ' :: '=' :: ' ' :: (text ++ '\n' :: rest)).length = n + 1 :=
    ⟨_, List.length_append⟩
  have skipped : skipSpace (' ' :: (text ++ '\n' :: rest)) = skipSpace (text ++ '\n' :: rest) := rfl
  rw [line, entry, length, found]
  simp only [skipped]
  cases value fuel (skipSpace (text ++ '\n' :: rest)) <;> rfl

/-- An entry is entered under its key. -/
theorem readStatement_entryLine {key : String} (bare : Bare key) (d : Draft)
    (text rest : List Char) :
    d.readStatement (entryLine key text ++ '\n' :: rest) =
      (do
        let (v, rest) ← value (2 * (entryLine key text ++ '\n' :: rest).length + 1)
          (skipSpace (text ++ '\n' :: rest))
        let e ← d.enter [key] v rest
        pure (e, rest)) := by
  have found := entry_entryLine bare text rest (2 * (entryLine key text ++ '\n' :: rest).length + 1)
  obtain ⟨c, line, same, _, starts, noHeader, noComment⟩ := entryLine_opens bare text
  generalize value _ (skipSpace (text ++ '\n' :: rest)) = reading at found ⊢
  rw [same, List.cons_append] at found ⊢
  rw [Draft.readStatement, if_pos starts, found]
  · cases reading <;> rfl
  · exact noHeader
  · exact noComment

/-! ## Headers and entries -/

namespace Draft

/-- A draft has read a document.  Only the names of sections are declared, and only values are
frozen. -/
structure Holds (d : Draft) (document : Table Value) : Prop where
  tables : d.tables = document
  pending : d.pending = []
  declared : ∀ key ∈ d.declared, ∃ name, .plain name ∈ document.map (·.1) ∧ key = [name]
  frozen : ∀ key ∈ d.frozen, key.length = 2

theorem holds_empty : Holds {} [] :=
  ⟨rfl, rfl, nofun, nofun⟩

section Header

variable {d : Draft} {document : Table Value} {name : String}

/-- No key waits for a header. -/
theorem Holds.settle_eq (holds : d.Holds document) : d.settle = d := by
  have pending := holds.pending
  cases d
  cases pending
  rfl

/-- A section is not frozen. -/
theorem Holds.isFrozen (holds : d.Holds document) (name : String) : d.isFrozen [name] = false := by
  have apart : isUnder d.frozen [name] = false := by
    rw [isUnder, List.any_eq_false]
    intro key member
    match key, holds.frozen key member with
    | [_, _], _ => simp [List.isPrefixOf]
  rw [Draft.isFrozen, apart, Bool.and_false]

/-- A draft in which a section has been begun. -/
def begun (d : Draft) (name : String) : Draft :=
  { d with
    tables := d.tables ++ [(.plain name, .object [])], declared := [name] :: d.declared,
    header := [name] }

theorem Holds.begun (holds : d.Holds document) (name : String) :
    (d.begun name).Holds (document ++ [(.plain name, .object [])]) where
  tables := congrArg (· ++ [(Str.plain name, Value.object [])]) holds.tables
  pending := holds.pending
  declared := by
    rintro key (_ | ⟨_, member⟩)
    · exact ⟨name, by simp, rfl⟩
    · obtain ⟨other, known, same⟩ := holds.declared key member
      exact ⟨other, by simp only [List.map_append]; exact List.mem_append_left _ known, same⟩
  frozen := holds.frozen

/-- A section that was not there is begun. -/
theorem Holds.beginTable (holds : d.Holds document) (fresh : .plain name ∉ document.map (·.1))
    (rest : List Char) : d.beginTable [name] rest = .ok (d.begun name) := by
  have undeclared : d.declared.contains [name] = false := by
    rw [Bool.eq_false_iff]
    intro declared
    obtain ⟨other, member, same⟩ := holds.declared _ (List.contains_iff_mem.mp declared)
    cases same
    exact fresh member
  have made (blocked : Fault) : descend true .ok blocked [name] d.tables =
      .ok (d.tables ++ [(.plain name, .object [])]) := by
    rw [← holds.tables] at fresh
    rw [descend, Table.get?_of_notMem fresh]
    exact congrArg Except.ok (Table.put_of_notMem fresh _)
  rw [Draft.beginTable, undeclared, holds.isFrozen, made]
  rfl

/-- A header begins a section. -/
theorem Holds.leads_header (holds : d.Holds document) (bare : Bare name)
    (fresh : .plain name ∉ document.map (·.1)) :
    d.Leads ('[' :: (name.toList ++ [']'])) (d.begun name) := by
  refine leads_of_statement (by decide) fun rest => ?_
  have text : '[' :: (name.toList ++ [']']) ++ '\n' :: rest =
      '[' :: (name.toList ++ ']' :: '\n' :: rest) := by simp
  have noDot (after : List Char) : skipSpace (']' :: '\n' :: rest) ≠ '.' :: after := by
    show ']' :: '\n' :: rest ≠ _
    simp
  have found : ∀ fuel, key (fuel + 1) (name.toList ++ ']' :: '\n' :: rest) =
      .ok ([name], ']' :: '\n' :: rest) := key_of_bare bare (by decide) noDot
  have single (after : List Char) :
      '[' :: (name.toList ++ ']' :: '\n' :: rest) = '[' :: '[' :: after → False := by
    obtain ⟨c, more, chars, isBare⟩ := bare.head
    rw [chars]
    rintro ⟨rfl, rfl⟩
    cases isBare
  rw [text, readStatement, readHeader, holds.settle_eq]
  · simp only [List.drop_one, List.tail_cons, bare.skipSpace, List.length_cons, found]
    show (do
      let d ← d.beginTable [name] (']' :: '\n' :: rest)
      pure (d, '\n' :: rest)) = _
    rw [holds.beginTable fresh]
    rfl
  · exact single

end Header

/-! ## Entries -/

/-- A draft is in the middle of a section that was not there before. -/
structure Inside (d : Draft) (document : Table Value) (name : String) (fields : Table Value) : Prop
    where
  holds : d.Holds (document ++ [(.plain name, .object fields)])
  header : d.header = [name]
  fresh : .plain name ∉ document.map (·.1)

section Entry

variable {d : Draft} {document fields : Table Value} {name key : String} {v : Value}

/-- An entry under a new key comes last in its section. -/
theorem Inside.enter (inside : d.Inside document name fields) (new : .plain key ∉ fields.map (·.1))
    (v : Value) :
    ∃ e, (∀ rest, d.enter [key] v rest = .ok e) ∧
      e.Inside document name (fields ++ [(.plain key, v)]) := by
  have changed (last : String) (same : last = key) (blocked : Fault) :
      descend true (fun t => if t.has last then .error blocked else .ok (t.put last v)) blocked
        [name] d.tables =
        .ok (document ++ [(.plain name, .object (fields ++ [(.plain key, v)]))]) := by
    subst same
    have absent : Table.has fields last = false := by
      rw [Table.has_eq_isSome, Table.get?_of_notMem new]
      rfl
    rw [descend, inside.holds.tables, Table.get?_concat inside.fresh]
    simp only [descend, absent, Bool.false_eq_true, if_false, Table.put_of_notMem new]
    exact congrArg Except.ok (Table.put_concat inside.fresh _ _)
  refine ⟨{ d with
    tables := document ++ [(.plain name, .object (fields ++ [(.plain key, v)]))]
    frozen := if isContainer v then [name, key] :: d.frozen else d.frozen }, fun rest => ?_, ?_⟩
  · have none : d.through [key] = [] := rfl
    simp only [Draft.enter, none, List.find?_nil, inside.header, List.dropLast_singleton,
      List.append_nil, inside.holds.isFrozen, Bool.false_eq_true, if_false]
    rw [changed ([key].getLast?.getD "") rfl]
    rfl
  refine ⟨⟨rfl, ?_, ?_, ?_⟩, ?_, ?_⟩
  · exact inside.holds.pending
  · intro other member
    simpa using inside.holds.declared other member
  · intro other member
    dsimp only at member
    split at member
    · rcases List.mem_cons.mp member with rfl | member
      · rfl
      · exact inside.holds.frozen other member
    · exact inside.holds.frozen other member
  · exact inside.header
  · exact inside.fresh

/-- The line of an entry enters it. -/
theorem Inside.leads_entry (inside : d.Inside document name fields) (bare : Bare key)
    (new : .plain key ∉ fields.map (·.1)) {text : List Char} (gives : Gives text v) :
    ∃ e, d.Leads (entryLine key text) e ∧ e.Inside document name (fields ++ [(.plain key, v)]) := by
  obtain ⟨c, line, same, visible, _⟩ := entryLine_opens bare text
  obtain ⟨e, entered, inside'⟩ := inside.enter new v
  refine ⟨e, ?_, inside'⟩
  rw [same]
  refine leads_of_statement visible fun rest => ?_
  rw [← same, readStatement_entryLine bare, gives _ rest (by simp [entryLine]; omega)]
  show (do
    let e ← d.enter [key] v ('\n' :: rest)
    pure (e, '\n' :: rest)) = _
  rw [entered]
  rfl

/-- The lines of entries enter what they give in their order. -/
theorem Inside.course_entries {write : Value → List Char} {give : Value → Value} :
    ∀ {entries : List (String × Value)} {fields : Table Value} {d : Draft},
      d.Inside document name fields →
      (fields.map (·.1) ++ entries.map fun entry => Str.plain entry.1).Nodup →
      (∀ entry ∈ entries, Bare entry.1 ∧ Gives (write entry.2) (give entry.2)) →
      ∃ e, Course d (entries.map fun entry => entryLine entry.1 (write entry.2)) e ∧
        e.Inside document name (fields ++ entries.map fun entry => (.plain entry.1, give entry.2))
  | [], fields, d, inside, _, _ => ⟨d, .nil d, by simpa using inside⟩
  | (key, v) :: entries, fields, d, inside, distinct, each => by
      have ⟨bare, gives⟩ := each (key, v) List.mem_cons_self
      have new : .plain key ∉ fields.map (·.1) := fun member =>
        (List.nodup_append.mp distinct).2.2 key member key List.mem_cons_self rfl
      obtain ⟨e, leads, inside⟩ := inside.leads_entry bare new gives
      obtain ⟨f, course, inside⟩ := inside.course_entries (by simpa using distinct)
        fun entry member => each entry (List.mem_cons_of_mem _ member)
      exact ⟨f, .cons leads course, by simpa using inside⟩

end Entry

end Draft

/-! ## Sections -/

/-- The lines of a section: its header, and one line for each entry. -/
def block (write : Value → List Char) (name : String) (entries : List (String × Value)) :
    List (List Char) :=
  ('[' :: (name.toList ++ [']'])) :: entries.map fun entry => entryLine entry.1 (write entry.2)

/-- What a section is for a reader: a bare name, bare keys none of which is there twice, and texts
that are read as the values that they give. -/
structure Legible (write : Value → List Char) (give : Value → Value) (name : String)
    (entries : List (String × Value)) : Prop where
  bare : Bare name
  distinct : (entries.map (·.1)).Nodup
  each : ∀ entry ∈ entries, Bare entry.1 ∧ Gives (write entry.2) (give entry.2)

/-- A section as it is read. -/
def given (give : Value → Value) (part : String × List (String × Value)) : Str × Value :=
  (.plain part.1, .object (part.2.map fun entry => (.plain entry.1, give entry.2)))

/-- Names that are distinct are so as keys. -/
theorem nodup_plain {α : Type} {parts : List (String × α)} (distinct : (parts.map (·.1)).Nodup) :
    (parts.map fun part => Str.plain part.1).Nodup := by
  have keys : ((parts.map (·.1)).map Str.plain).Nodup :=
    List.Pairwise.map Str.plain (fun _ _ apart same => apart (Str.plain.inj same)) distinct
  rwa [List.map_map] at keys

namespace Draft

variable {write : Value → List Char} {give : Value → Value}

/-- The lines of a section, after an empty one, add it to the document. -/
theorem Holds.course_block {d : Draft} {document : Table Value} {name : String}
    {entries : List (String × Value)} (holds : d.Holds document)
    (fresh : .plain name ∉ document.map (·.1)) (legible : Legible write give name entries) :
    ∃ e, Course d ([] :: block write name entries) e ∧
      e.Holds (document ++ [given give (name, entries)]) := by
  have inside : (d.begun name).Inside document name [] := ⟨holds.begun name, rfl, fresh⟩
  obtain ⟨e, course, inside⟩ := inside.course_entries (nodup_plain legible.distinct) legible.each
  exact ⟨e, .cons (leads_blank d) (.cons (holds.leads_header legible.bare fresh) course),
    inside.holds⟩

/-- The lines of sections add them to the document in their order. -/
theorem Holds.course_blocks :
    ∀ {sections : List (String × List (String × Value))} {d : Draft} {document : Table Value},
    d.Holds document →
    (document.map (·.1) ++ sections.map fun part => Str.plain part.1).Nodup →
    (∀ part ∈ sections, Legible write give part.1 part.2) →
    ∃ e, Course d (sections.flatMap fun part => [] :: block write part.1 part.2) e ∧
      e.Holds (document ++ sections.map (given give))
  | [], d, document, holds, _, _ => ⟨d, .nil d, by simpa using holds⟩
  | (name, entries) :: sections, d, document, holds, distinct, each => by
      have fresh : .plain name ∉ document.map (·.1) := by
        rw [List.map_cons, List.nodup_append] at distinct
        exact fun member => distinct.2.2 name member name List.mem_cons_self rfl
      obtain ⟨e, first, holds⟩ :=
        holds.course_block fresh (each (name, entries) List.mem_cons_self)
      obtain ⟨f, others, holds⟩ := holds.course_blocks (by simpa [given] using distinct)
        fun part member => each part (List.mem_cons_of_mem _ member)
      exact ⟨f, first.append others, by simpa using holds⟩

end Draft

/-- **Sections are read as what they give**, with an empty line between one and the next. -/
theorem read_sections {write : Value → List Char} {give : Value → Value}
    {sections : List (String × List (String × Value))} (distinct : (sections.map (·.1)).Nodup)
    (each : ∀ part ∈ sections, Legible write give part.1 part.2) {text : List Char}
    (lines : '\n' :: text =
      (sections.flatMap fun part => [] :: block write part.1 part.2).flatMap (· ++ ['\n'])) :
    read text = .ok (sections.map (given give)) := by
  obtain ⟨e, course, holds⟩ := Draft.holds_empty.course_blocks (nodup_plain distinct) each
  have length := Draft.length_le_text (sections.flatMap fun part => [] :: block write part.1 part.2)
  rw [← lines, List.length_cons] at length
  have whole : Draft.readAll (text.length + 2) {} ('\n' :: text) = .ok e := by
    rw [lines]
    exact course.readAll (by omega)
  have skipped : Draft.readAll (text.length + 2) {} ('\n' :: text) =
      Draft.readAll (text.length + 1) {} text := rfl
  rw [read, ← skipped, whole]
  exact congrArg Except.ok holds.tables

end CaptureDesk.Toml
