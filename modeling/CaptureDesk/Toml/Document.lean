import CaptureDesk.Toml.Scalar

/-!
# TOML documents

A document is a list of statements: entries `key = value`, headers of tables and headers of items
of arrays of tables.  An entry belongs to the table of the last header.

Which statements may follow which is settled by marks on keys.  A key is *declared* once a header
has named it, or once a dotted key has led through it and a header has followed; a declared table
cannot be declared again, nor entered by a dotted key.  A key is *frozen* when a written array or
table is its value; nothing under it can be changed.
-/

namespace CaptureDesk.Toml

/-- Whether a part of a key may begin with a character. -/
def startsKey (c : Char) : Bool := isBareKey c || c = '"' || c = '\''

/-- The characters after spaces, line feeds and comments.  The fuel bounds the number of
comments. -/
def skipGaps : Nat → List Char → Except Fault (List Char)
  | 0, text => .ok text
  | fuel + 1, text =>
      match text.dropWhile isGap with
      | '#' :: rest => do
          let rest ← skipComment ('#' :: rest)
          skipGaps fuel rest
      | rest => .ok rest

/-- Goes down a key, making tables on the way, and changes the table that it leads to.  An array of
tables is entered at its last table, unless `arrays` is false. -/
def descend (arrays : Bool) (change : Table Value → Except Fault (Table Value))
    (blocked : Fault) : Key → Table Value → Except Fault (Table Value)
  | [], t => change t
  | part :: parts, t => do
      let inner ← match t.get? part with
        | none => (Value.object ·) <$> descend arrays change blocked parts []
        | some (.object fields) => (Value.object ·) <$> descend arrays change blocked parts fields
        | some (.array items) =>
            match arrays, items.getLast? with
            | true, some (.object fields) => do
                let last ← descend arrays change blocked parts fields
                pure (.array (items.dropLast ++ [.object last]))
            | _, _ => throw blocked
        | some _ => throw blocked
      pure (t.put part inner)

/-- Whether a value is written with brackets. -/
def isContainer : Value → Bool
  | .array _ | .object _ => true
  | _ => false

/-- Whether a key lies at or under one of the given keys. -/
def isUnder (keys : List Key) (key : Key) : Bool :=
  keys.any (·.isPrefixOf key)

/-- Puts an entry into an inline table.  `rest` follows the entry. -/
def putInline (frozen : List Key) (t : Table Value) (key : Key) (value : Value)
    (rest : List Char) : Except Fault (Table Value) := do
  if isUnder frozen key then refuse (.immutable key) rest
  let last := key.getLast?.getD ""
  descend false
    (fun t => if t.has last then refuse (.inlineTwice last) rest else .ok (t.put last value))
    (.malformed .overwritten rest) key.dropLast t

mutual

/-- A value.  The fuel bounds the number of readers that call one another; twice the number of
characters is enough. -/
def value : Nat → List Char → Except Fault (Value × List Char)
  | 0, text => refuse .value text
  | fuel + 1, text =>
      match text with
      | '"' :: _ | '\'' :: _ =>
          match quoted text with
          | .error fault => .error fault
          | .ok (s, rest) => .ok (.str s, rest)
      | '[' :: rest =>
          match skipGaps rest.length rest with
          | .error fault => .error fault
          | .ok (']' :: rest) => .ok (.array [], rest)
          | .ok rest => elements fuel [] rest
      | '\x7b' :: rest =>
          match skipSpace rest with
          | '\x7d' :: rest => .ok (.object [], rest)
          | rest => inline fuel [] [] rest
      | text => scalar text

/-- The items of an array from one of them on, with those before it last first. -/
def elements : Nat → List Value → List Char → Except Fault (Value × List Char)
  | 0, _, text => refuse .value text
  | fuel + 1, before, text =>
      match value fuel text with
      | .error fault => .error fault
      | .ok (v, rest) =>
          match skipGaps rest.length rest with
          | .error fault => .error fault
          | .ok (']' :: rest) => .ok (.array (v :: before).reverse, rest)
          | .ok (',' :: rest) =>
              match skipGaps rest.length rest with
              | .error fault => .error fault
              | .ok (']' :: rest) => .ok (.array (v :: before).reverse, rest)
              | .ok rest => elements fuel (v :: before) rest
          | .ok rest => refuse .arrayEnd rest

/-- The entries of an inline table from one of them on, with the table of those before it and the
keys that it has frozen. -/
def inline : Nat → List Key → Table Value → List Char → Except Fault (Value × List Char)
  | 0, _, _, text => refuse .value text
  | fuel + 1, frozen, before, text =>
      match entry fuel text with
      | .error fault => .error fault
      | .ok ((key, v), rest) =>
          match putInline frozen before key v rest with
          | .error fault => .error fault
          | .ok t =>
              match skipSpace rest with
              | '\x7d' :: rest => .ok (.object t, rest)
              | ',' :: rest =>
                  inline fuel (if isContainer v then key :: frozen else frozen) t (skipSpace rest)
              | rest => refuse .inlineEnd rest

/-- An entry: a key, an equals sign and a value. -/
def entry : Nat → List Char → Except Fault ((Key × Value) × List Char)
  | 0, text => refuse .value text
  | fuel + 1, text =>
      match key text.length text with
      | .error fault => .error fault
      | .ok (key, '=' :: rest) =>
          match value fuel (skipSpace rest) with
          | .error fault => .error fault
          | .ok (v, rest) => .ok ((key, v), rest)
      | .ok (_, rest) => refuse .equals rest

end

/-- A document under way: its tables, the marks on keys, the keys that the next header will
declare, and the key of the last header. -/
structure Draft where
  tables : Table Value := []
  declared : List Key := []
  frozen : List Key := []
  pending : List Key := []
  header : Key := []
  deriving Repr

namespace Draft

/-- Whether a key is frozen.  The document itself never is. -/
def isFrozen (d : Draft) (key : Key) : Bool :=
  key != [] && isUnder d.frozen key

/-- The keys of the tables that a dotted key leads through, below the last header. -/
def through (d : Draft) (key : Key) : List Key :=
  (List.range (key.length - 1)).map fun n => d.header ++ key.take (n + 1)

/-- Puts an entry into the table of the last header.  `rest` follows the entry. -/
def enter (d : Draft) (key : Key) (value : Value) (rest : List Char) : Except Fault Draft := do
  let through := d.through key
  match through.find? (d.declared.contains ·) with
  | some redefined => refuse (.redefined redefined) rest
  | none =>
      let parent := d.header ++ key.dropLast
      if d.isFrozen parent then refuse (.immutable parent) rest
      let last := key.getLast?.getD ""
      let blocked := Fault.malformed .overwritten rest
      let tables ← descend true
        (fun t => if t.has last then .error blocked else .ok (t.put last value))
        blocked parent d.tables
      pure
        { d with
          tables
          pending := d.pending ++ through
          frozen := if isContainer value then (d.header ++ key) :: d.frozen else d.frozen }

/-- Declares the keys that were waiting for a header. -/
def settle (d : Draft) : Draft :=
  { d with declared := d.pending ++ d.declared, pending := [] }

/-- Begins the table of a key.  `rest` follows the key. -/
def beginTable (d : Draft) (key : Key) (rest : List Char) : Except Fault Draft := do
  if d.declared.contains key || d.isFrozen key then refuse (.declaredTwice key) rest
  let tables ← descend true .ok (.malformed .overwritten rest) key d.tables
  pure { d with tables, declared := key :: d.declared, header := key }

/-- Begins a further table in the array of a key.  `rest` follows the key.  What was marked under
the key belongs to the table before. -/
def beginItem (d : Draft) (key : Key) (rest : List Char) : Except Fault Draft := do
  if d.isFrozen key then refuse (.immutable key) rest
  let blocked := Fault.malformed .overwritten rest
  let last := key.getLast?.getD ""
  let tables ← descend true
    (fun t =>
      match t.get? last with
      | none => .ok (t.put last (.array [.object []]))
      | some (.array items) => .ok (t.put last (.array (items ++ [.object []])))
      | some _ => .error blocked)
    blocked key.dropLast d.tables
  let outside (k : Key) : Bool := !key.isPrefixOf k
  pure
    { d with
      tables
      declared := key :: d.declared.filter outside
      frozen := d.frozen.filter outside
      header := key }

/-- A header, with the draft after it.  The text begins with its opening bracket. -/
def readHeader (d : Draft) (text : List Char) : Except Fault (Draft × List Char) := do
  let d := d.settle
  match text with
  | '[' :: '[' :: rest =>
      let (key, rest) ← key rest.length (skipSpace rest)
      let d ← d.beginItem key rest
      match rest with
      | ']' :: ']' :: rest => pure (d, rest)
      | rest => refuse .tableArrayEnd rest
  | text =>
      let rest := skipSpace (text.drop 1)
      let (key, rest) ← key text.length rest
      let d ← d.beginTable key rest
      match rest with
      | ']' :: rest => pure (d, rest)
      | rest => refuse .tableEnd rest

/-- A statement, with the draft after it.  A comment alone is one. -/
def readStatement (d : Draft) (text : List Char) : Except Fault (Draft × List Char) :=
  match text with
  | '[' :: _ => d.readHeader text
  | '#' :: _ => .ok (d, text)
  | c :: _ =>
      if startsKey c then do
        let ((key, v), rest) ← entry (2 * text.length + 2) text
        let d ← d.enter key v rest
        pure (d, rest)
      else refuse .statement text
  | [] => .ok (d, text)

/-- The statements of a text, one a line.  The fuel bounds the number of lines. -/
def readAll : Nat → Draft → List Char → Except Fault Draft
  | 0, d, _ => .ok d
  | fuel + 1, d, text =>
      match skipSpace text with
      | [] => .ok d
      | '\n' :: rest => d.readAll fuel rest
      | text => do
          let (d, rest) ← d.readStatement text
          match ← skipComment (skipSpace rest) with
          | [] => pure d
          | '\n' :: rest => d.readAll fuel rest
          | rest => refuse .lineEnd rest

end Draft

/-- The table that a text stands for. -/
def read (text : List Char) : Except Fault (Table Value) := do
  let d ← Draft.readAll (text.length + 1) {} text
  pure d.tables

end CaptureDesk.Toml
