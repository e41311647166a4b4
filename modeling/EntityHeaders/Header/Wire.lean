import EntityHeaders.Fault
import EntityHeaders.Header
import EntityHeaders.Text.Utf8

/-! # Headers on the wire

A header crosses the wire as two runs of octets.

* `Header.encode`, `Header.encodeAll` — the octets of headers in a character set,
  or the first text that has none.
* `RawHeader.latin1`, `RawHeader.readAll` — octets as text again: each octet one
  character, or UTF-8 where everything is UTF-8.
-/

namespace EntityHeaders

open Text (Charset Unencodable lower)

structure RawHeader where
  name : List UInt8
  value : List UInt8
deriving DecidableEq, Repr

namespace Header

def lowerName (header : Header) : Header :=
  { header with name := String.ofList (lower header.name.toList) }

/-- The octets of a name and a value; the name is encoded first. -/
def encode (charset : Charset) (header : Header) : Except Unencodable RawHeader := do
  let name ← charset.encode header.name.toList
  let value ← charset.encode header.value.toList
  return { name, value }

def encodeAll (charset : Charset) (headers : List Header) : Except Fault (List RawHeader) :=
  headers.mapM fun header => (header.encode charset).mapError .unencodable

end Header

def lowerOctet (octet : UInt8) : UInt8 :=
  if 65 ≤ octet.toNat ∧ octet.toNat ≤ 90 then octet + 32 else octet

namespace RawHeader

/-- The header with its name in small ASCII letters. -/
def lowerName (raw : RawHeader) : RawHeader :=
  { raw with name := raw.name.map lowerOctet }

def latin1 (raw : RawHeader) : Header :=
  { name := String.ofList (Charset.decodeLatin1 raw.name)
    value := String.ofList (Charset.decodeLatin1 raw.value) }

def utf8? (raw : RawHeader) : Option Header := do
  let name ← Text.Utf8.decode? raw.name
  let value ← Text.Utf8.decode? raw.value
  return { name := String.ofList name, value := String.ofList value }

/-- The headers read as UTF-8 if every one is that, and as Latin-1 otherwise. -/
def readAll (raws : List RawHeader) : List Header :=
  -- one text that is not UTF-8 settles it for all of them
  match raws.mapM utf8? with
  | some headers => headers
  | none => raws.map latin1

end RawHeader

end EntityHeaders
