import Mathlib.Data.List.Basic
import Mathlib.Algebra.Group.Nat.Defs
import Tg2Sip.Exceptions

/-! The text functions of the standard library that the gateway applies to
extensions, error messages and chat messages. -/

namespace Tg2Sip.Text

/-- `utils.cpp`: true of the empty string as well. -/
def isDigits (text : List Char) : Bool := text.all Char.isDigit

def decimal (digits : List Char) : Nat :=
  digits.foldl (fun value digit => 10 * value + (digit.toNat - '0'.toNat)) 0

/-- `std::stol` and `std::stoi` on a string of digits, for a type with the given maximum. -/
def parseBounded (limit : Nat) (digits : List Char) : Except Exception Nat :=
  if digits = [] then .error .invalidArgument
  else if decimal digits ≤ limit then .ok (decimal digits)
  else .error .outOfRange

def stol : List Char → Except Exception Nat := parseBounded (2 ^ 63 - 1)

def stoi : List Char → Except Exception Nat := parseBounded (2 ^ 31 - 1)

/-- `std::regex_search` for a literal text followed by `(\d+)`: the digits matched at
the leftmost place where both parts match. -/
def searchDigitsAfter (literal text : List Char) : Option (List Char) :=
  text.tails.findSome? fun suffix =>
    if literal.isPrefixOf suffix then
      match (suffix.drop literal.length).takeWhile Char.isDigit with
      | [] => none
      | digits => some digits
    else none

/-- `std::regex_search` for a literal text. -/
def contains (literal text : List Char) : Bool := text.tails.any literal.isPrefixOf

/-- The class `[0-9A-D*#]`. -/
def isDtmf (char : Char) : Bool :=
  char.isDigit || (decide ('A' ≤ char) && decide (char ≤ 'D')) || char == '*' || char == '#'

/-- `std::regex_match` against `^[0-9A-D*#]{1,32}$`. -/
def matchesDtmf (text : List Char) : Bool :=
  decide (1 ≤ text.length) && decide (text.length ≤ 32) && text.all isDtmf

end Tg2Sip.Text
