import EntityHeaders.Text.Lowercase

/-! # Header fields

The seven fields that describe a content, in the order in which they are written,
and the recognition of a field by its name.  Names are compared without regard to
capitals, by the small letters of the whole character set.
-/

namespace EntityHeaders

open Text (lower)

/-- Whether two names differ at most in their capitals. -/
def sameName (a b : String) : Bool :=
  lower a.toList == lower b.toList

inductive Field where
  | mediaType
  | disposition
  | coding
  | language
  | length
  | digest
  | expires
deriving DecidableEq, Repr

namespace Field

/-- All fields, in the order in which they are written. -/
def all : List Field :=
  [mediaType, disposition, coding, language, length, digest, expires]

def name : Field → String
  | mediaType => "Content-Type"
  | disposition => "Content-Disposition"
  | coding => "Content-Encoding"
  | language => "Content-Language"
  | length => "Content-Length"
  | digest => "Content-MD5"
  | expires => "Expires"

def ofName? (name : String) : Option Field :=
  all.find? fun field => sameName name field.name

end Field

end EntityHeaders
