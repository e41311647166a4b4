import EntityHeaders.Field
import EntityHeaders.Text.Blank

/-! # Headers

A header is a name and a value.  Beside the fields that describe a content, one
header matters here: a message whose body is sent in chunks says so in its
`Transfer-Encoding`, and then its declared length does not count.
-/

namespace EntityHeaders

open Text (lower strip)

structure Header where
  name : String
  value : String
deriving DecidableEq, Repr

def transferEncoding : String := "Transfer-Encoding"

def chunkedEncoding : String := "chunked"

/-- Whether the header says that the body is sent in chunks: this encoding alone,
between blanks and without regard to capitals. -/
def Header.saysChunked (header : Header) : Bool :=
  sameName header.name transferEncoding &&
    lower (strip header.value.toList) == chunkedEncoding.toList

def isChunked (headers : List Header) : Bool :=
  headers.any Header.saysChunked

end EntityHeaders
