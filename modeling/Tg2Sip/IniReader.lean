import Mathlib.Data.List.DropRight
import Mathlib.Algebra.Ring.Int.Defs
import Tg2Sip.Lib.Maps

/-! `INIReader.h`: the parser of configuration files, and the lookups in what it has read. A file is its bytes,
each of them a `Char` below 256. A C string that the parser cuts off is a list. -/

namespace Tg2Sip.Ini
open Lib

abbrev Text := List Char

/-- In the C locale. -/
def isspace (char : Char) : Bool := char == ' ' || (decide ('\t' ≤ char) && decide (char ≤ '\r'))

def iniMaxLine : Nat := 200

def maxSection : Nat := 50

def maxName : Nat := 50

def iniInlineCommentPrefixes : Text := [';']

def byteOrderMark : Text := ['\xef', '\xbb', '\xbf']

def rstrip (text : Text) : Text := text.rdropWhile isspace

def lskip (text : Text) : Text := text.dropWhile isspace

def scan (chars : Text) : Bool → Text → Text × Text
  | _, [] => ([], [])
  | wasSpace, char :: text =>
    if char ∈ chars ∨ wasSpace = true ∧ char ∈ iniInlineCommentPrefixes then ([], char :: text)
    else
      let (before, rest) := scan chars (isspace char) text
      (char :: before, rest)

/-- What comes before the character that is found, and the rest from there on. No `chars` are a null pointer. -/
def findCharsOrComment (text chars : Text) : Text × Text := scan chars false text

def strncpy0 (src : Text) (size : Nat) : Text := src.take (size - 1)

def takeLine : Nat → Text → Text × Text
  | room + 1, char :: stream =>
    if char = '\n' then ([char], stream)
    else
      let (line, rest) := takeLine room stream
      (char :: line, rest)
  | _, stream => ([], stream)

/-- At the end of the file a null pointer is returned. -/
def fgets (num : Nat) (stream : Text) : Option (Text × Text) :=
  if stream = [] then none else some (takeLine (num - 1) stream)

/-- What the loop of `ini_parse_stream` reads. As much fuel as there are bytes is enough. -/
def readLines : Nat → Text → List Text
  | 0, _ => []
  | fuel + 1, stream =>
    match fgets iniMaxLine stream with
    | none => []
    | some (line, rest) => line :: readLines fuel rest

/-- `ini_handler`: it is given the section, the name and the value. -/
abbrev Handler (σ : Type) := σ → Text → Text → Text → σ × Bool

/-- The local variables of `ini_parse_stream` between two lines. -/
structure Parser (σ : Type) where
  user : σ
  lineno : Nat := 0
  sect : Text := []
  prevName : Text := []
  error : Nat := 0

namespace Parser
variable {σ : Type}

def fail (parser : Parser σ) : Parser σ := if parser.error = 0 then { parser with error := parser.lineno } else parser

def handle (handler : Handler σ) (parser : Parser σ) (name value : Text) : Parser σ :=
  let (user, accepted) := handler parser.user parser.sect name value
  if accepted then { parser with user } else { parser with user }.fail

/-- What the parser does with the text of a line once it is stripped. `indented` says that the text does not start
where the line does. -/
def statement (handler : Handler σ) (parser : Parser σ) (indented : Bool) (start : Text) : Parser σ :=
  match start with
  | [] => parser
  | first :: rest =>
    if first = ';' ∨ first = '#' then parser
    else if parser.prevName ≠ [] ∧ indented = true then
      parser.handle handler parser.prevName (rstrip (findCharsOrComment start []).1)
    else if first = '[' then
      let (title, found) := findCharsOrComment rest [']']
      if found.head? = some ']' then { parser with sect := strncpy0 title maxSection, prevName := [] } else parser.fail
    else
      let (before, found) := findCharsOrComment start ['=', ':']
      if found.head? = some '=' ∨ found.head? = some ':' then
        let name := rstrip before
        let value := rstrip (findCharsOrComment (lskip found.tail) []).1
        { parser with prevName := strncpy0 name maxName }.handle handler name value
      else parser.fail

/-- One turn of the loop. -/
def line (handler : Handler σ) (parser : Parser σ) (read : Text) : Parser σ :=
  let parser := { parser with lineno := parser.lineno + 1 }
  let text := read.takeWhile (· ≠ '\x00')
  let marked := parser.lineno = 1 && byteOrderMark.isPrefixOf text
  let stripped := rstrip (if marked then text.drop 3 else text)
  let start := lskip stripped
  parser.statement handler (marked || decide (start.length < stripped.length)) start

end Parser

def iniParseStream {σ : Type} (handler : Handler σ) (user : σ) (stream : Text) : Parser σ :=
  (readLines stream.length stream).foldl (Parser.line handler) { user }

/-- The data members, `_error` apart. -/
structure Values where
  values : Map Text Text := Map.empty
  sections : Map Text Unit := Map.empty

def tolower (text : Text) : Text := text.map Char.toLower

def makeKey (sect name : Text) : Text := tolower (sect ++ '=' :: name)

def valueHandler : Handler Values := fun reader sect name value =>
  let key := makeKey sect name
  let held := (reader.values key).getD []
  let held := if held.length > 0 then held ++ ['\n'] else held
  ({ values := reader.values.assign key (held ++ value), sections := reader.sections.assign sect () }, true)

structure INIReader extends Values where
  error : Int

/-- The constructor, for a file that may not open. -/
def INIReader.ofFile : Option Text → INIReader
  | none => { error := -1 }
  | some stream =>
    let parser := iniParseStream valueHandler {} stream
    { parser.user with error := parser.error }

/-- The digits of `strtol`; other characters are worth more than any base. -/
def digitValue (char : Char) : Nat :=
  if char.isDigit then char.toNat - '0'.toNat
  else if char.isLower then char.toNat - 'a'.toNat + 10
  else if char.isUpper then char.toNat - 'A'.toNat + 10
  else 36

/-- The base that is chosen for base 0, and the text from the first digit on. -/
def detectBase : Text → Nat × Text
  | '0' :: mark :: digit :: rest =>
    if (mark = 'x' ∨ mark = 'X') ∧ digitValue digit < 16 then (16, digit :: rest) else (8, '0' :: mark :: digit :: rest)
  | '0' :: rest => (8, '0' :: rest)
  | text => (10, text)

def numeral (base : Nat) (digits : Text) : Nat := digits.foldl (fun value digit => base * value + digitValue digit) 0

def longMax : Int := 2 ^ 63 - 1

def longMin : Int := -(2 ^ 63)

/-- With base 0. Nothing is returned when `end` stays where the text begins. -/
def strtol (text : Text) : Option Int :=
  let text := lskip text
  let negative := text.head? = some '-'
  let unsigned := if text.head? = some '-' ∨ text.head? = some '+' then text.tail else text
  let (base, text) := detectBase unsigned
  let digits := text.takeWhile (digitValue · < base)
  if digits = [] then none
  else
    let value : Int := if negative then -numeral base digits else numeral base digits
    some (max longMin (min longMax value))

namespace INIReader

def get (reader : INIReader) (sect name default : Text) : Text := (reader.values (makeKey sect name)).getD default

def getInteger (reader : INIReader) (sect name : Text) (default : Int64) : Int64 :=
  ((strtol (reader.get sect name [])).map Int64.ofInt).getD default

def getBoolean (reader : INIReader) (sect name : Text) (default : Bool) : Bool :=
  let value := tolower (reader.get sect name [])
  if value = "true".toList ∨ value = "yes".toList ∨ value = "on".toList ∨ value = "1".toList then true
  else if value = "false".toList ∨ value = "no".toList ∨ value = "off".toList ∨ value = "0".toList then false
  else default

end INIReader
end Tg2Sip.Ini
