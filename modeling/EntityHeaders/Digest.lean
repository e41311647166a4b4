import EntityHeaders.Base64

/-! # Digests

The digest of a content is a run of octets.  A record may hold it in one of three
carriers, or as a list of numbers that nobody has checked.

* `freeze` — the digest as fixed octets; numbers must be octets for that.
* `base64` — the text of a digest, which a list of numbers does not have.
* `Agrees` — equality of content: the carrier does not matter, but a list of
  numbers agrees only with a list of numbers.
-/

namespace EntityHeaders

/-- How octets are kept: fixed, growable, or as a view of others. -/
inductive Carrier where
  | fixed
  | growable
  | view
deriving DecidableEq, Repr

inductive Digest where
  | octets (carrier : Carrier) (data : List UInt8)
  | numbers (values : List Int)
deriving DecidableEq, Repr

namespace Digest

inductive Fault where
  | notAnOctet
  | notOctets
deriving DecidableEq, Repr

def Fault.message : Fault → String
  | notAnOctet => "bytes must be in range(0, 256)"
  | notOctets => "a bytes-like object is required, not 'list'"

def ofOctets (data : List UInt8) : Digest :=
  octets .fixed data

def isOctet (n : Int) : Bool :=
  0 ≤ n && n < 256

/-- The digest as fixed octets. -/
def freeze : Digest → Except Fault Digest
  | octets _ data => .ok (ofOctets data)
  | numbers values =>
    if values.all isOctet then .ok (ofOctets (values.map fun n => UInt8.ofNat n.toNat))
    else .error .notAnOctet

def base64 : Digest → Except Fault (List Char)
  | octets _ data => .ok (Base64.encode data)
  | numbers _ => .error .notOctets

/-- The same octets, or the same list of numbers. -/
def Agrees : Digest → Digest → Prop
  | octets _ a, octets _ b => a = b
  | numbers a, numbers b => a = b
  | _, _ => False

instance : (a b : Digest) → Decidable (a.Agrees b)
  | octets _ a, octets _ b => inferInstanceAs (Decidable (a = b))
  | numbers a, numbers b => inferInstanceAs (Decidable (a = b))
  | octets .., numbers _ | numbers _, octets .. => .isFalse id

end Digest

end EntityHeaders
