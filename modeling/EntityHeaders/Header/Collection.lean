import EntityHeaders.Header.Wire

/-! # Collections of headers

The shapes in which headers arrive, and the list of headers that each one stands
for.  The order of a collection is kept, and so are repeated names unless the
collection holds each name once.

* `rows` — a plain list; each row should have two parts.
* `keyed` — each name once: a repeated name keeps its place and takes the last
  value.
* `repeatable` — any names, as they are.
* `clientText`, `clientOctets` — what a client holds, made from ASCII texts or from
  octets.  Its names are in small letters; octets are read as UTF-8 if all of them
  are that, and as Latin-1 otherwise.
* `serverKeyed`, `serverOctets` — what a server holds, made from a keyed collection,
  with names in small letters, or from octets.  Both are Latin-1.

`flatten` gives the list, or the fault that keeps the collection from being made
or read.
-/

namespace EntityHeaders

/-- The headers with one more in a collection that holds each name once. -/
def insertHeader (header : Header) : List Header → List Header
  | [] => [header]
  | first :: rest =>
    -- the names of a keyed collection are told apart by their capitals too
    if first.name = header.name then header :: rest else first :: insertHeader header rest

/-- The headers with each name once, at its first place and with its last value. -/
def keyHeaders (headers : List Header) : List Header :=
  headers.foldl (fun kept header => insertHeader header kept) []

inductive Collection where
  | rows (items : List (List String))
  | keyed (headers : List Header)
  | repeatable (headers : List Header)
  | clientText (headers : List Header)
  | clientOctets (raws : List RawHeader)
  | serverKeyed (headers : List Header)
  | serverOctets (raws : List RawHeader)
deriving DecidableEq, Repr

def headerOfRow : List String → Except Fault Header
  | [name, value] => .ok { name, value }
  | row => .error (.notAPair row.length)

namespace Collection

/-- The list of headers that a collection stands for. -/
def flatten : Collection → Except Fault (List Header)
  | rows items => items.mapM headerOfRow
  | keyed headers => .ok (keyHeaders headers)
  | repeatable headers => .ok headers
  | clientText headers => do
    let raws ← Header.encodeAll .ascii headers
    return RawHeader.readAll (raws.map RawHeader.lowerName)
  | clientOctets raws => .ok (RawHeader.readAll (raws.map RawHeader.lowerName))
  | serverKeyed headers => do
    let raws ← Header.encodeAll .latin1 ((keyHeaders headers).map Header.lowerName)
    return raws.map RawHeader.latin1
  | serverOctets raws => .ok (raws.map RawHeader.latin1)

end Collection

end EntityHeaders
