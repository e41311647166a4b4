import EntityHeaders.Agreement
import EntityHeaders.Calendar.Timestamp
import EntityHeaders.Digest
import EntityHeaders.Field
import EntityHeaders.Length

/-! # Metadata of a content

The record of the seven fields, each of which may be absent.

* `Assignment`, `assign` — one field and its new value; nothing is checked.
* `checked` — the record as it is when it is made: the length must be a length
  and the digest is kept as fixed octets.
* `Agrees` — equality of records, field by field.
-/

namespace EntityHeaders

open Calendar (Timestamp)

structure Metadata where
  mediaType : Option String := none
  disposition : Option String := none
  coding : Option String := none
  language : Option String := none
  length : Option Length := none
  digest : Option Digest := none
  expires : Option Timestamp := none
deriving DecidableEq

inductive Assignment where
  | mediaType (value : Option String)
  | disposition (value : Option String)
  | coding (value : Option String)
  | language (value : Option String)
  | length (value : Option Length)
  | digest (value : Option Digest)
  | expires (value : Option Timestamp)
deriving DecidableEq

namespace Metadata

/-- The record with one field set. -/
def assign (record : Metadata) : Assignment → Metadata
  | .mediaType value => { record with mediaType := value }
  | .disposition value => { record with disposition := value }
  | .coding value => { record with coding := value }
  | .language value => { record with language := value }
  | .length value => { record with length := value }
  | .digest value => { record with digest := value }
  | .expires value => { record with expires := value }

def IsEmpty (record : Metadata) : Prop :=
  record = {}

instance (record : Metadata) : Decidable record.IsEmpty :=
  inferInstanceAs (Decidable (_ = _))

/-! ## Making a record -/

inductive FieldFault where
  | length (fault : Length.Fault)
  | digest (fault : Digest.Fault)
deriving DecidableEq, Repr

/-- The record with its length checked and its digest as fixed octets. -/
def checked (record : Metadata) : Except FieldFault Metadata := do
  -- of two faults the one of the length is reported
  let _ ← record.length.mapM fun length => length.check.mapError .length
  let digest ← record.digest.mapM fun digest => digest.freeze.mapError .digest
  return { record with digest }

/-! ## Equality of value -/

/-- The records describe the same content in the same way. -/
def Agrees (a b : Metadata) : Prop :=
  a.mediaType = b.mediaType ∧ a.disposition = b.disposition ∧ a.coding = b.coding ∧
    a.language = b.language ∧ Both Length.Agrees a.length b.length ∧
    Both Digest.Agrees a.digest b.digest ∧ Both Timestamp.Agrees a.expires b.expires

instance (a b : Metadata) : Decidable (a.Agrees b) :=
  inferInstanceAs (Decidable (_ ∧ _ ∧ _ ∧ _ ∧ _ ∧ _ ∧ _))

end Metadata

end EntityHeaders
