/-! The exceptions that the gateway thread can meet. A `try` block of the source
names the type it catches, so the type is part of the value. -/

namespace Tg2Sip

inductive Exception where
  /-- `pj::Error`, thrown by a pjsua2 method. -/
  | pjError (reason : String)
  /-- `std::runtime_error`. -/
  | runtimeError (what : String)
  /-- `std::invalid_argument`, from `std::stol` and `std::stoi`. -/
  | invalidArgument
  /-- `std::out_of_range`, from `std::stol` and `std::stoi`. -/
  | outOfRange
  /-- Undefined behaviour: a null or wrongly cast pointer, an index out of bounds. -/
  | undefinedBehaviour
  deriving DecidableEq, Repr

end Tg2Sip
