/-! # Character sets of header octets

A header crosses the wire as octets.  Two character sets are used for it, both
with one octet a character: ASCII and Latin-1.  A text that holds a character
outside the set is refused, and the refusal tells where the first run of such
characters lies.  `encode_eq_ok_iff` says which texts are not refused, and
`decodeLatin1_octets` that their octets lead back to them.
-/

namespace EntityHeaders.Text

/-- A character set whose characters are its code points, one octet each. -/
inductive Charset where
  | ascii
  | latin1
deriving DecidableEq, Repr

/-- A run of characters outside a character set: its first character and the
positions of its first and last. -/
structure Unencodable where
  charset : Charset
  first : Char
  start : Nat
  stop : Nat
deriving DecidableEq, Repr

namespace Charset

def size : Charset → Nat
  | ascii => 128
  | latin1 => 256

def holds (charset : Charset) (c : Char) : Bool :=
  c.toNat < charset.size

def octets (text : List Char) : List UInt8 :=
  text.map fun c => UInt8.ofNat c.toNat

/-- The octets of a text, or the first run of characters that have none. -/
def encode (charset : Charset) (text : List Char) : Except Unencodable (List UInt8) :=
  match text.dropWhile charset.holds with
  | [] => .ok (octets text)
  | first :: rest =>
    let start := (text.takeWhile charset.holds).length
    .error
      { charset, first, start
        stop := start + (rest.takeWhile fun c => !charset.holds c).length }

def decodeLatin1 (octets : List UInt8) : List Char :=
  octets.map fun octet => Char.ofNat octet.toNat

/-! ## What the octets say -/

theorem ofNat_octet {c : Char} (h : c.toNat < 256) :
    Char.ofNat (UInt8.ofNat c.toNat).toNat = c := by
  simp [Nat.mod_eq_of_lt h]

/-- Octets of characters below 256 are read back as those characters. -/
theorem decodeLatin1_octets {text : List Char} (h : ∀ c ∈ text, c.toNat < 256) :
    decodeLatin1 (octets text) = text := by
  unfold decodeLatin1 octets
  rw [List.map_map]
  conv => rhs; rw [← List.map_id text]
  exact List.map_congr_left fun c hc => ofNat_octet (h c hc)

theorem encode_eq_ok_iff {charset : Charset} {text : List Char} {data : List UInt8} :
    charset.encode text = .ok data ↔ (∀ c ∈ text, charset.holds c = true) ∧ data = octets text := by
  have empty : text.dropWhile charset.holds = [] ↔ ∀ c ∈ text, charset.holds c = true := by
    clear data
    induction text with
    | nil => simp
    | cons c rest ih => by_cases h : charset.holds c = true <;> simp [h, ih]
  unfold encode
  split
  next nil =>
    simp only [Except.ok.injEq]
    exact ⟨fun h => ⟨empty.mp nil, h.symm⟩, fun h => h.2.symm⟩
  next first rest cons =>
    simp only [reduceCtorEq, false_iff, not_and]
    intro all
    rw [empty.mpr all] at cons
    contradiction

end Charset

end EntityHeaders.Text
