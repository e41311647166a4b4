import EntityHeaders.HttpDate
import EntityHeaders.Metadata
import EntityHeaders.Text.Charset

/-! # What can go wrong

Every reason for which an operation on metadata, headers or registers fails, and
the words for it.
-/

namespace EntityHeaders

open Text (Charset Unencodable codeEscape digitLimit quote)

/-- What is wrong with the value of a recognised header. -/
inductive Malformation where
  | negativeLength
  | notWhole
  | tooGreat
  | notBase64
deriving DecidableEq, Repr

def Malformation.message : Malformation → String
  | negativeLength => "negative length"
  | notWhole => "not an integer"
  | tooGreat => "exceeds 64 bits"
  | notBase64 => "invalid base64"

/-- An error of a date format's own: of what kind it is, and the words for it. -/
structure Breakdown where
  kind : String
  message : String
deriving DecidableEq, Repr

inductive Fault where
  /-- A recognised header has a value that cannot be read. -/
  | malformed (field : Field) (value : String) (malformation : Malformation)
  | longNumeral (digits : Nat)
  | metadata (fault : Metadata.FieldFault)
  /-- A row of a header list has another number of parts than two. -/
  | notAPair (parts : Nat)
  /-- A text has characters outside the character set of the wire. -/
  | unencodable (run : Unencodable)
  | date (fault : HttpDate.Fault)
  | missingKey (key : String)
  /-- A date format has failed for a reason that lies in no text. -/
  | breakdown (breakdown : Breakdown)
deriving DecidableEq, Repr

/-- The text in quotation marks, as it stands in messages. -/
def quoted (text : String) : String :=
  String.ofList (quote text.toList)

def charsetName : Charset → String
  | .ascii => "ascii"
  | .latin1 => "latin-1"

/-- Where a run of characters lies that a character set does not have. -/
def unencodableMessage (run : Unencodable) : String :=
  let place :=
    if run.start = run.stop then
      "character '" ++ String.ofList (codeEscape run.first) ++ "' in position " ++
        toString run.start
    else "characters in position " ++ toString run.start ++ "-" ++ toString run.stop
  "'" ++ charsetName run.charset ++ "' codec can't encode " ++ place ++
    ": ordinal not in range(" ++ toString run.charset.size ++ ")"

namespace Fault

def message : Fault → String
  | malformed field value malformation =>
    "Invalid " ++ field.name ++ " header (" ++ quoted value ++ "): " ++ malformation.message
  | longNumeral digits =>
    s!"Exceeds the limit ({digitLimit} digits) for integer string conversion: " ++
      s!"value has {digits} digits; use sys.set_int_max_str_digits() to increase the limit"
  | metadata (.length fault) => fault.message
  | metadata (.digest fault) => fault.message
  | notAPair parts =>
    if parts < 2 then s!"not enough values to unpack (expected 2, got {parts})"
    else "too many values to unpack (expected 2)"
  | unencodable run => unencodableMessage run
  | date fault => fault.message
  | missingKey key => quoted key
  | breakdown own => own.message

end Fault

end EntityHeaders
