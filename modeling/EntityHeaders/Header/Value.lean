import EntityHeaders.Fault
import EntityHeaders.Text.Blank

/-! # Header values

What the values of `Content-Length` and `Content-MD5` mean.  Blanks around a value
are ignored; a value that cannot be read is reported as it stands.

* `readLength` — a length is one or more decimal digits and at most `maxLength`.
* `readDigest` — a digest is Base64.
-/

namespace EntityHeaders

open Text (digitLimit isNumeral strip value)

def isNegativeNumeral : List Char → Bool
  | '-' :: digits => isNumeral digits
  | _ => false

/-- The length that a header value gives. -/
def readLength (text : String) : Except Fault Nat :=
  let digits := strip text.toList
  if isNegativeNumeral digits then .error (.malformed .length text .negativeLength)
  else if !isNumeral digits then .error (.malformed .length text .notWhole)
  -- so long a numeral is given up on before its number is known, zeros or not
  else if digitLimit < digits.length then .error (.longNumeral digits.length)
  else if maxLength < value digits then .error (.malformed .length text .tooGreat)
  else .ok (value digits)

def readDigest (text : String) : Except Fault (List UInt8) :=
  match Base64.decode? (strip text.toList) with
  | some octets => .ok octets
  | none => .error (.malformed .digest text .notBase64)

end EntityHeaders
