import EntityHeaders.Header.Collection
import EntityHeaders.Header.Value
import EntityHeaders.Profile

/-! # Metadata as headers

The two directions between a record and its headers.

* `toHeaders` — one header for each field that has a value, in the order of the
  fields.
* `applyHeaders` — the headers are applied to a record one after the other, so that
  the last one of a name counts.  A header that cannot be read ends the run: what
  was applied before it stays.  If any header of the list says that the body is
  sent in chunks, no declared length is applied.
* `decode`, `read` — the same for a collection, onto a given or a new record.

`applyAll_append` cuts a run in two at any header.
-/

namespace EntityHeaders

open Calendar (Timestamp)
open Text (decimal)

namespace Metadata

/-! ## Writing -/

def lengthText (length : Length) : Except Fault String := do
  let n ← length.check.mapError (.metadata ∘ .length)
  return String.ofList (decimal n)

def digestText (digest : Digest) : Except Fault String := do
  let text ← digest.base64.mapError (.metadata ∘ .digest)
  return String.ofList text

def expiresText (profile : Profile) (timestamp : Timestamp) : Except Fault String :=
  (profile.dates.write timestamp).mapError .breakdown

/-- The text of a field, if the field has a value. -/
def fieldText (profile : Profile) (record : Metadata) : Field → Except Fault (Option String)
  | .mediaType => .ok record.mediaType
  | .disposition => .ok record.disposition
  | .coding => .ok record.coding
  | .language => .ok record.language
  | .length => record.length.mapM lengthText
  | .digest => record.digest.mapM digestText
  | .expires => record.expires.mapM (expiresText profile)

def headersOf (profile : Profile) (record : Metadata) : List Field → Except Fault (List Header)
  | [] => .ok []
  | field :: rest => do
    let text ← record.fieldText profile field
    let headers ← headersOf profile record rest
    return (text.map fun value => { name := field.name, value }).toList ++ headers

def toHeaders (profile : Profile) (record : Metadata) : Except Fault (List Header) :=
  record.headersOf profile Field.all

end Metadata

/-! ## Reading -/

/-- What one header does: at most one assignment, and the notes it leaves. -/
structure Effect where
  assignment : Option Assignment := none
  notes : List Note := []
deriving DecidableEq

/-- The effect of a value under the name of a field, in a list that is chunked or not. -/
def Field.effect (profile : Profile) (chunked : Bool) (value : String) :
    Field → Except Fault Effect
  | .mediaType => .ok { assignment := some (.mediaType (some value)) }
  | .disposition => .ok { assignment := some (.disposition (some value)) }
  | .coding => .ok { assignment := some (.coding (some value)) }
  | .language => .ok { assignment := some (.language (some value)) }
  | .length =>
    -- the length of a body in chunks is not even read
    if chunked then .ok {}
    else do
      let n ← readLength value
      return { assignment := some (.length (some (.whole n))) }
  | .digest => do
    let data ← readDigest value
    return { assignment := some (.digest (some (.ofOctets data))) }
  | .expires => do
    let (timestamp, notes) ← profile.readExpires value
    return { assignment := some (.expires timestamp), notes }

def Header.effect (profile : Profile) (chunked : Bool) (header : Header) :
    Except Fault Effect :=
  match Field.ofName? header.name with
  | none => .ok {}
  | some field => field.effect profile chunked header.value

/-- A record after headers have been applied to it, the notes that they left, and
the fault that ended the run early. -/
structure Outcome where
  record : Metadata
  notes : List Note
  fault : Option Fault
deriving DecidableEq

namespace Metadata

def apply (record : Metadata) (effect : Effect) : Metadata :=
  match effect.assignment with
  | some assignment => record.assign assignment
  | none => record

/-- The headers applied in turn, up to the first that cannot be read. -/
def applyAll (profile : Profile) (chunked : Bool) (record : Metadata) :
    List Header → Outcome
  | [] => { record, notes := [], fault := none }
  | header :: rest =>
    match header.effect profile chunked with
    -- what was applied before stays
    | .error fault => { record, notes := [], fault := some fault }
    | .ok effect =>
      let outcome := (record.apply effect).applyAll profile chunked rest
      { outcome with notes := effect.notes ++ outcome.notes }

/-- Applying two lists in turn is applying the second to what the first has left,
unless the first could not be applied to its end. -/
theorem applyAll_append (profile : Profile) (chunked : Bool) (record : Metadata)
    (left right : List Header) :
    record.applyAll profile chunked (left ++ right) =
      match record.applyAll profile chunked left with
      | ⟨next, notes, none⟩ =>
        let outcome := next.applyAll profile chunked right
        { outcome with notes := notes ++ outcome.notes }
      | failed => failed := by
  induction left generalizing record with
  | nil => simp [applyAll]
  | cons header rest ih =>
    -- either the first header ends both runs, or both go on from the same record
    simp only [List.cons_append, applyAll]
    cases header.effect profile chunked with
    | error fault => rfl
    | ok effect =>
      simp only [ih]
      rcases (record.apply effect).applyAll profile chunked rest with ⟨next, notes, _ | fault⟩ <;>
        simp

/-- The headers applied in turn, under what the whole list says about chunks. -/
def applyHeaders (profile : Profile) (headers : List Header) (record : Metadata) : Outcome :=
  record.applyAll profile (isChunked headers) headers

def decode (profile : Profile) (collection : Collection) (record : Metadata) : Outcome :=
  match collection.flatten with
  | .ok headers => record.applyHeaders profile headers
  | .error fault => { record, notes := [], fault := some fault }

def read (profile : Profile) (collection : Collection) : Outcome :=
  decode profile collection {}

end Metadata

end EntityHeaders
