import EntityHeaders.Metadata.Headers

/-! # Messages

Metadata on the wire.

* `Metadata.clientHeaders` — the headers of a request, in ASCII.
* `Metadata.response` — a response with its body, its headers in Latin-1 and with
  names in small letters.  Where the metadata gives no length, the length of the
  body is added, unless the status tells that there is no body.
* `Metadata.ofClient`, `Metadata.ofServer` — the metadata of a message that a client
  or a server has received.
-/

namespace EntityHeaders

open Text (Charset decimal)

structure Response where
  status : Int
  body : List UInt8
  headers : List RawHeader
deriving DecidableEq, Repr

/-- Whether a response of this status declares the length of its body. -/
def declaresLength (status : Int) : Bool :=
  200 ≤ status && status != 204 && status != 304

def lengthHeader (body : List UInt8) : RawHeader :=
  { name := Charset.octets "content-length".toList
    value := Charset.octets (decimal body.length) }

/-- The headers, with the length of the body added where it has to be. -/
def withLength (status : Int) (body : List UInt8) (raws : List RawHeader) : List RawHeader :=
  -- the names are in small letters by now, so a declared length is found
  if declaresLength status && !raws.any (·.name == (lengthHeader body).name) then
    raws ++ [lengthHeader body]
  else raws

namespace Metadata

def clientHeaders (profile : Profile) (record : Metadata) : Except Fault (List RawHeader) := do
  let headers ← record.toHeaders profile
  Header.encodeAll .ascii headers

def response (profile : Profile) (status : Int) (body : List UInt8) (record : Metadata) :
    Except Fault Response := do
  let headers ← record.toHeaders profile
  -- a response takes its headers as a keyed collection
  let raws ← Header.encodeAll .latin1 ((keyHeaders headers).map Header.lowerName)
  return { status, body, headers := withLength status body raws }

/-- The metadata of a response that a client has received, its headers made from
texts. -/
def ofClient (profile : Profile) (headers : List Header) : Outcome :=
  read profile (.clientText headers)

def ofClientOctets (profile : Profile) (raws : List RawHeader) : Outcome :=
  read profile (.clientOctets raws)

/-- The metadata of a request that a server has received. -/
def ofServer (profile : Profile) (raws : List RawHeader) : Outcome :=
  read profile (.serverOctets raws)

end Metadata

end EntityHeaders
