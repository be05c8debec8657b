import VoucherDesk.Fault
import VoucherDesk.Pattern.Error

/-!
# Failures

Every way in which an operation of the desk can fail to give a result: a fault that the
operator is told, data that a reader does not accept, a pattern, a file, or one of the
plain mishaps of numbers, texts and look-ups.
-/

namespace VoucherDesk

/-- What a lenient reader finds wrong with a value. -/
inductive Mismatch where
  | missing
  | modelType
  | attributesType
  | intType
  | intParsing
  | intParsingSize
  | intFromFloat
  | finiteNumber
  | boolType
  | boolParsing
  | stringType
  | floatParsing
  | literalError
  | tagNotFound
  | tagInvalid
  deriving DecidableEq, Repr

/-- The code of a mismatch. -/
def Mismatch.code : Mismatch → String
  | .missing => "missing"
  | .modelType => "model_type"
  | .attributesType => "model_attributes_type"
  | .intType => "int_type"
  | .intParsing => "int_parsing"
  | .intParsingSize => "int_parsing_size"
  | .intFromFloat => "int_from_float"
  | .finiteNumber => "finite_number"
  | .boolType => "bool_type"
  | .boolParsing => "bool_parsing"
  | .stringType => "string_type"
  | .floatParsing => "float_parsing"
  | .literalError => "literal_error"
  | .tagNotFound => "union_tag_not_found"
  | .tagInvalid => "union_tag_invalid"

/-- A mismatch at a place inside the value that was read. -/
structure Problem where
  place : List String
  mismatch : Mismatch
  deriving DecidableEq, Repr

namespace Problem

/-- The problem seen from outside a field. -/
def under (field : String) (p : Problem) : Problem := { p with place := field :: p.place }

/-- The place, a colon and the code. -/
def text (p : Problem) : String := ".".intercalate p.place ++ ":" ++ p.mismatch.code

/-- All problems of a value, in order. -/
def textAll (ps : List Problem) : String := "; ".intercalate (ps.map text)

/-- How many problems there are with what was read. -/
def countText (ps : List Problem) (what : String) : String :=
  toString ps.length
    ++ (if ps.length = 1 then " validation error for " else " validation errors for ") ++ what

end Problem

/-- Why a file could not be used. -/
inductive FileError where
  | nameTooLong
  | exists
  | notADirectory
  | isADirectory
  | notFound
  | other (text : String)
  deriving DecidableEq, Repr

/-- The wording of a file error. -/
def FileError.text : FileError → String
  | .nameTooLong => "File name too long"
  | .exists => "File exists"
  | .notADirectory => "Not a directory"
  | .isADirectory => "Is a directory"
  | .notFound => "No such file or directory"
  | .other text => text

/-- Why an operation gave no result. -/
inductive Failure where
  /-- The operator is told. -/
  | fault (f : Fault)
  /-- A reader did not accept the data. -/
  | unreadable (problems : List Problem)
  /-- A pattern was used that is no pattern. -/
  | pattern (refusal : Pattern.Refusal) (source : String)
  /-- A file could not be used. -/
  | file (e : FileError)
  /-- A name or number was looked up that is not there. -/
  | missingKey (shown : String)
  /-- A value has no such operation. -/
  | noOperation
  /-- A value has no such attribute. -/
  | noAttribute
  /-- A whole number was divided by zero. -/
  | divisionByZero
  /-- A double was divided by zero. -/
  | doubleDivisionByZero
  /-- A quotient of whole numbers is beyond the range of doubles. -/
  | quotientTooLarge
  /-- A whole number is beyond the range of doubles. -/
  | numberTooLarge
  /-- A numeral has too many digits to be read. -/
  | digitLimit (digits : Nat)
  /-- A whole number has too many digits to be written. -/
  | unwritableNumber
  /-- A number of decimal places is negative. -/
  | badPlaces
  /-- A moment on the first day of the calendar has no timestamp. -/
  | yearOutOfRange
  /-- An infinite double or one that is no number cannot be sent. -/
  | unsendableNumber
  /-- A saved record was to be encoded without its number. -/
  | updateWithoutId
  /-- The input ended before an answer was read. -/
  | endOfInput
  /-- A text denotes neither a timestamp nor a moment. -/
  | badMoment (shown : String)
  /-- An address has no valid form. -/
  | badAddress (text : String)
  /-- A header holds a character that it cannot carry. -/
  | badHeader (text : String)
  /-- A path holds the null character. -/
  | nullInPath
  /-- A path begins in a home directory, and there is none. -/
  | noHome
  /-- Something outside the desk broke, with its own kind and text. -/
  | foreign (kind text : String)

/-- The wording of a failure that is not told to the operator. -/
def Failure.text : Failure → String
  | .fault f => f.message
  | .unreadable problems => Problem.textAll problems
  | .pattern (.syntaxError e) source => e.message source
  | .pattern .repetitionTooLarge _ => "the repetition number is too large"
  | .pattern (.digitLimit n) _ => limitText n
  | .pattern .codeTooLarge _ => "Python int too large to convert to C int"
  | .pattern .alphabetClash _ => "ASCII and UNICODE flags are incompatible"
  | .file e => e.text
  | .missingKey shown => shown
  | .noOperation => ""
  | .noAttribute => ""
  | .divisionByZero => "division by zero"
  | .doubleDivisionByZero => "float division by zero"
  | .quotientTooLarge => "integer division result too large for a float"
  | .numberTooLarge => "int too large to convert to float"
  | .digitLimit n => limitText n
  | .unwritableNumber => "Exceeds the limit (4300 digits) for integer string conversion; "
    ++ "use sys.set_int_max_str_digits() to increase the limit"
  | .badPlaces => "Format specifier missing precision"
  | .yearOutOfRange => "year 0 is out of range"
  | .unsendableNumber => "Out of range float values are not JSON compliant"
  | .updateWithoutId => "Cannot build an update payload without an id"
  | .endOfInput => "EOF when reading a line"
  | .badMoment shown => "not a timestamp or ISO datetime: " ++ shown
  | .badAddress text => text
  | .badHeader text => text
  | .nullInPath => "embedded null byte"
  | .noHome => "Could not determine home directory."
  | .foreign _ text => text
where
  /-- The wording of the limit on the digits of a numeral. -/
  limitText (n : Nat) : String :=
    "Exceeds the limit (4300 digits) for integer string conversion: value has " ++ toString n
      ++ " digits; use sys.set_int_max_str_digits() to increase the limit"

end VoucherDesk
