import Mathlib.Data.List.Chain
import Tg2Sip.IniReader

/-! What the author of a configuration file means: lines in any layout that the format has, and the settings
they stand for. -/

namespace Tg2Sip.Ini

def Blank (text : Text) : Prop := ∀ char ∈ text, isspace char = true

instance (text : Text) : Decidable (Blank text) := List.decidableBAll (isspace · = true) text

/-- Neither the first nor the last character is a blank. -/
structure Trimmed (text : Text) : Prop where
  first : ∀ char ∈ text.head?, isspace char = false
  last : ∀ char ∈ text.getLast?, isspace char = false

instance (text : Text) : Decidable (Trimmed text) :=
  let _ : Decidable (∀ char ∈ text.head?, isspace char = false) := Option.decidableForallMem text.head?
  let _ : Decidable (∀ char ∈ text.getLast?, isspace char = false) := Option.decidableForallMem text.getLast?
  decidable_of_iff ((∀ char ∈ text.head?, isspace char = false) ∧ ∀ char ∈ text.getLast?, isspace char = false)
    ⟨fun ⟨first, last⟩ => ⟨first, last⟩, fun ⟨first, last⟩ => ⟨first, last⟩⟩

/-- No comment begins inside of a text. -/
def Bare (text : Text) : Prop := text.IsChain fun before char => isspace before = true → char ∉ iniInlineCommentPrefixes
  deriving Decidable

structure IsName (name : Text) : Prop where
  present : name ≠ []
  trimmed : Trimmed name
  bare : Bare name
  free : '=' ∉ name ∧ ':' ∉ name
  first : ∀ char ∈ name.head?, char ≠ ';' ∧ char ≠ '#' ∧ char ≠ '['
  fits : name.length < maxName

instance (name : Text) : Decidable (IsName name) :=
  let _ : Decidable (∀ char ∈ name.head?, char ≠ ';' ∧ char ≠ '#' ∧ char ≠ '[') := Option.decidableForallMem name.head?
  decidable_of_iff (name ≠ [] ∧ Trimmed name ∧ Bare name ∧ ('=' ∉ name ∧ ':' ∉ name) ∧
      (∀ char ∈ name.head?, char ≠ ';' ∧ char ≠ '#' ∧ char ≠ '[') ∧ name.length < maxName)
    ⟨fun ⟨present, trimmed, bare, free, first, fits⟩ => ⟨present, trimmed, bare, free, first, fits⟩,
      fun ⟨present, trimmed, bare, free, first, fits⟩ => ⟨present, trimmed, bare, free, first, fits⟩⟩

structure IsTitle (title : Text) : Prop where
  bare : Bare title
  free : ']' ∉ title
  fits : title.length < maxSection

instance (title : Text) : Decidable (IsTitle title) :=
  decidable_of_iff (Bare title ∧ ']' ∉ title ∧ title.length < maxSection)
    ⟨fun ⟨bare, free, fits⟩ => ⟨bare, free, fits⟩, fun ⟨bare, free, fits⟩ => ⟨bare, free, fits⟩⟩

structure IsValue (value : Text) : Prop where
  trimmed : Trimmed value
  bare : Bare value

instance (value : Text) : Decidable (IsValue value) :=
  decidable_of_iff (Trimmed value ∧ Bare value)
    ⟨fun ⟨trimmed, bare⟩ => ⟨trimmed, bare⟩, fun ⟨trimmed, bare⟩ => ⟨trimmed, bare⟩⟩

/-- What stands behind a value. -/
structure Tail where
  blanks : Text := []
  comment : Option Text := none

namespace Tail

def text (tail : Tail) : Text := tail.blanks ++ match tail.comment with
  | none => []
  | some comment => ';' :: comment

/-- A comment needs a blank before it, and a value before that. -/
structure Behind (tail : Tail) (value : Text) : Prop where
  blank : Blank tail.blanks
  apart : tail.comment ≠ none → tail.blanks ≠ [] ∧ value ≠ []

instance (tail : Tail) (value : Text) : Decidable (tail.Behind value) :=
  decidable_of_iff (Blank tail.blanks ∧ (tail.comment ≠ none → tail.blanks ≠ [] ∧ value ≠ []))
    ⟨fun ⟨blank, apart⟩ => ⟨blank, apart⟩, fun ⟨blank, apart⟩ => ⟨blank, apart⟩⟩

end Tail

inductive Line where
  | empty (blanks : Text)
  | comment (blanks : Text) (mark : Char) (text : Text)
  | heading (title behind : Text)
  | setting (name before : Text) (mark : Char) (after value : Text) (tail : Tail)
  | continuation (indent value : Text) (tail : Tail)

namespace Line

def text : Line → Text
  | empty blanks => blanks
  | comment blanks mark text => blanks ++ mark :: text
  | heading title behind => '[' :: (title ++ ']' :: behind)
  | setting name before mark after value tail => (name ++ before) ++ mark :: (after ++ value ++ tail.text)
  | continuation indent value tail => indent ++ value ++ tail.text

def Sound : Line → Prop
  | empty blanks => Blank blanks
  | comment blanks mark _ => Blank blanks ∧ (mark = ';' ∨ mark = '#')
  | heading title _ => IsTitle title
  | setting name before mark after value tail =>
    IsName name ∧ Blank before ∧ (mark = '=' ∨ mark = ':') ∧ Blank after ∧ IsValue value ∧ tail.Behind value
  | continuation indent value tail =>
    (indent ≠ [] ∧ Blank indent) ∧ (value ≠ [] ∧ value.head? ≠ some ';' ∧ value.head? ≠ some '#') ∧ IsValue value ∧
      tail.Behind value

instance : (line : Line) → Decidable line.Sound
  | empty blanks => inferInstanceAs (Decidable (Blank blanks))
  | comment blanks mark _ => inferInstanceAs (Decidable (Blank blanks ∧ (mark = ';' ∨ mark = '#')))
  | heading title _ => inferInstanceAs (Decidable (IsTitle title))
  | setting name before mark after value tail =>
    inferInstanceAs (Decidable
      (IsName name ∧ Blank before ∧ (mark = '=' ∨ mark = ':') ∧ Blank after ∧ IsValue value ∧ tail.Behind value))
  | continuation indent value tail =>
    inferInstanceAs (Decidable ((indent ≠ [] ∧ Blank indent) ∧
      (value ≠ [] ∧ value.head? ≠ some ';' ∧ value.head? ≠ some '#') ∧ IsValue value ∧ tail.Behind value))

/-- One `fgets` reads the line with the newline behind it. -/
structure Written (line : Line) : Prop where
  sound : line.Sound
  whole : '\n' ∉ line.text
  clean : '\x00' ∉ line.text
  fits : line.text.length + 1 < iniMaxLine

instance (line : Line) : Decidable line.Written :=
  decidable_of_iff (line.Sound ∧ '\n' ∉ line.text ∧ '\x00' ∉ line.text ∧ line.text.length + 1 < iniMaxLine)
    ⟨fun ⟨sound, whole, clean, fits⟩ => ⟨sound, whole, clean, fits⟩,
      fun ⟨sound, whole, clean, fits⟩ => ⟨sound, whole, clean, fits⟩⟩

end Line

/-- Which section a line is in, and which setting it can continue. -/
structure Place where
  sect : Text := []
  name : Text := []

structure Entry where
  sect : Text
  name : Text
  value : Text
  deriving DecidableEq

namespace Place

def after (place : Place) : Line → Place
  | .heading title _ => { sect := title }
  | .setting name .. => { place with name }
  | _ => place

def entry (place : Place) : Line → Option Entry
  | .setting name _ _ _ value _ => some ⟨place.sect, name, value⟩
  | .continuation _ value _ => some ⟨place.sect, place.name, value⟩
  | _ => none

/-- A line that continues a setting has one to continue. -/
def Admits (place : Place) : Line → Prop
  | .continuation .. => place.name ≠ []
  | _ => True

instance (place : Place) : (line : Line) → Decidable (place.Admits line)
  | .continuation .. => inferInstanceAs (Decidable (place.name ≠ []))
  | .empty _ | .comment .. | .heading .. | .setting .. => .isTrue trivial

def Connected : Place → List Line → Prop
  | _, [] => True
  | place, line :: lines => place.Admits line ∧ (place.after line).Connected lines

instance : (place : Place) → (lines : List Line) → Decidable (place.Connected lines)
  | _, [] => .isTrue trivial
  | place, line :: lines =>
    let _ : Decidable ((place.after line).Connected lines) := instDecidableConnected (place.after line) lines
    inferInstanceAs (Decidable (place.Admits line ∧ (place.after line).Connected lines))

def entries : Place → List Line → List Entry
  | _, [] => []
  | place, line :: lines => (place.entry line).toList ++ (place.after line).entries lines

end Place

/-- Only the last line may have no newline behind it. -/
def renderLines : List Line → Text
  | [] => []
  | [line] => line.text
  | line :: lines => line.text ++ '\n' :: renderLines lines

/-- A file that may begin with a byte order mark. -/
structure Document where
  marked : Bool
  lines : List Line
  written : ∀ line ∈ lines, line.Written
  connected : Place.Connected {} lines
  begins : ∀ line ∈ lines.head?,
    if marked then byteOrderMark.length + line.text.length + 1 < iniMaxLine else ¬ byteOrderMark <+: line.text

namespace Document

def text (document : Document) : Text := (if document.marked then byteOrderMark else []) ++ renderLines document.lines

def entries (document : Document) : List Entry := Place.entries {} document.lines

end Document

/-- The values of a setting that was given more than once make one value of several lines; an empty one in front of
the others makes none. -/
def joinValues (values : List Text) : Text :=
  values.foldl (fun joined value => if joined = [] then value else joined ++ '\n' :: value) []

/-- Sections and names are the same whatever the case of their letters is. -/
def Entry.concerns (sect name : Text) (entry : Entry) : Bool :=
  tolower entry.sect = tolower sect ∧ tolower entry.name = tolower name

/-- What a list of settings says about one. -/
def lookup (entries : List Entry) (sect name default : Text) : Text :=
  match (entries.filter (Entry.concerns sect name)).map Entry.value with
  | [] => default
  | values => joinValues values

/-- A handler that remembers its arguments. -/
def record : Handler (List Entry) := fun entries sect name value => (entries ++ [⟨sect, name, value⟩], true)

/-- The settings that the parser finds in any text. -/
def readEntries (text : Text) : List Entry := (iniParseStream record [] text).user

end Tg2Sip.Ini
