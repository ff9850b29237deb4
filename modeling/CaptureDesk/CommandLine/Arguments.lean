import CaptureDesk.Table

/-!
# Words of a command line

Words that begin with a dash are options, all others are arguments; a dash alone is an argument.
Options and arguments may be mixed.  An option takes its value from the same word, after an equals
sign, or else from the next word, whatever that is.  Two dashes end the options.

`Arguments.ofWords?` sorts the words of a command, and has no answer when an option is not known, is
given a value that it does not take, or lacks the value that it takes.
-/

namespace CaptureDesk.CommandLine

/-- An option of a command. -/
structure OptionForm where
  name : String
  takesValue : Bool
  deriving DecidableEq, Repr

/-- An option that takes a value. -/
def OptionForm.valued (name : String) : OptionForm := ⟨name, true⟩

/-- An option that is there or not. -/
def OptionForm.plain (name : String) : OptionForm := ⟨name, false⟩

/-- Words that have been sorted: the options with their values, and the arguments. -/
structure Arguments where
  options : Table (Option Str) := []
  words : List Str := []
  deriving DecidableEq, Repr

namespace Arguments

/-- Whether a word is an option. -/
def isOption (word : Str) : Bool :=
  match word.points with
  | '-' :: _ :: _ => true
  | _ => false

/-- The word after which all others are arguments. -/
def endOfOptions : Str := "--"

/-- A word up to its first equals sign, and what follows that sign. -/
def cutValue (word : Str) : Str × Option Str :=
  match word.points.span (· != .char '=') with
  | (name, _ :: value) => (.ofPoints name, some (.ofPoints value))
  | (name, []) => (.ofPoints name, none)

/-- Takes an option in.  Of one that is given again the last value counts. -/
def giveOption (a : Arguments) (name : Str) (value : Option Str) : Arguments :=
  { a with options := a.options.put name value }

/-- Takes arguments in. -/
def giveWords (a : Arguments) (words : List Str) : Arguments :=
  { a with words := a.words ++ words }

/-- Sorts words, after those that have been sorted. -/
def sort (forms : List OptionForm) (a : Arguments) : List Str → Option Arguments
  | [] => some a
  | word :: rest =>
      if word = endOfOptions then some (a.giveWords rest)
      else if isOption word then
        let (name, attached) := cutValue word
        match forms.find? fun form => .plain form.name == name, attached with
        | none, _ => none
        | some ⟨_, false⟩, some _ => none
        | some ⟨_, false⟩, none => sort forms (a.giveOption name none) rest
        | some ⟨_, true⟩, some value => sort forms (a.giveOption name (some value)) rest
        | some ⟨_, true⟩, none =>
            match rest with
            | [] => none
            | value :: rest => sort forms (a.giveOption name (some value)) rest
      else sort forms (a.giveWords [word]) rest

/-- Sorts the words of a command with these options. -/
def ofWords? (forms : List OptionForm) (words : List Str) : Option Arguments :=
  sort forms {} words

/-- The value of an option, if it was given. -/
def value? (a : Arguments) (name : Str) : Option Str :=
  (a.options.get? name).join

/-- Whether an option was given. -/
def has (a : Arguments) (name : Str) : Bool :=
  a.options.has name

/-- The name of a command and the words after it.  Nothing but two dashes may come before it. -/
def command? : List Str → Option (Str × List Str)
  | [] => none
  | word :: rest =>
      if word = endOfOptions then
        match rest with
        | name :: words => some (name, words)
        | [] => none
      else if isOption word then none
      else some (word, rest)

end Arguments

end CaptureDesk.CommandLine
