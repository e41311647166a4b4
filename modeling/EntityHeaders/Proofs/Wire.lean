import EntityHeaders.Header.Wire
import EntityHeaders.Proofs.Fallible
import EntityHeaders.Proofs.SmallLetters

/-! # Headers and their octets

* `Header.Within`, `Header.raw` — a header whose characters all belong to a character set
  has one octet for each of them.
* `encodeAll_eq_ok_iff` — these are the octets that it is encoded as, and no other header is.
* `latin1_raw`, `readAll_raw` — they are read back as the header, by a client too if they
  are ASCII.
* `lowerName_raw` — making the small letters of an ASCII name before or after makes no
  difference; `lowerRaw` are the octets with a name in small letters.
-/

namespace EntityHeaders

open Fallible (bind_eq_ok_iff mapError_eq_ok_iff)
open Text (Charset lower smallLetter)

/-! ## Texts -/

namespace Text

theorem Charset.size_le (charset : Charset) : charset.size ≤ 0x100 := by
  cases charset <;> decide

theorem Charset.holds_iff {charset : Charset} {c : Char} :
    charset.holds c = true ↔ c.toNat < charset.size :=
  decide_eq_true_iff

theorem Charset.encode_of_lt {charset : Charset} {text : List Char}
    (within : ∀ c ∈ text, c.toNat < charset.size) : charset.encode text = .ok (octets text) := by
  rw [encode_eq_ok_iff]
  exact ⟨fun c mem => holds_iff.mpr (within c mem), rfl⟩

theorem Charset.toNat_octet {c : Char} (latin1 : c.toNat < 0x100) :
    (UInt8.ofNat c.toNat).toNat = c.toNat := by
  rw [UInt8.toNat_ofNat', Nat.mod_eq_of_lt latin1]

namespace Utf8

theorem decode?_cons_of_lt {a : UInt8} (ascii : a.toNat < 0x80) (rest : List UInt8) :
    decode? (a :: rest) = (Char.ofNat a.toNat :: ·) <$> decode? rest := by
  rw [decode?.eq_def (a :: rest)]
  exact if_pos ascii

/-- ASCII octets are UTF-8 of the same characters. -/
theorem decode?_octets {text : List Char} (ascii : ∀ c ∈ text, c.toNat < 128) :
    decode? (Charset.octets text) = some text := by
  induction text with
  | nil => rfl
  | cons c rest ih =>
    have first : c.toNat < 128 := ascii c (by simp)
    have later := ih fun other mem => ascii other (by simp [mem])
    have octet : (UInt8.ofNat c.toNat).toNat < 0x80 := by
      rwa [Charset.toNat_octet (Nat.lt_trans first (by decide))]
    have cut : Charset.octets (c :: rest) = UInt8.ofNat c.toNat :: Charset.octets rest := rfl
    rw [cut, decode?_cons_of_lt octet, later, Charset.ofNat_octet (by omega)]
    rfl

end Utf8

theorem lowerOctet_ofNat {c : Char} (ascii : c.toNat < 128) :
    lowerOctet (UInt8.ofNat c.toNat) = UInt8.ofNat (smallLetter c).toNat := by
  obtain ⟨n, rfl⟩ := exists_ofNat_of_lt ascii
  revert n
  decide +kernel

/-- Among ASCII octets, small letters are those of the characters. -/
theorem octets_lower {text : List Char} (ascii : ∀ c ∈ text, c.toNat < 128) :
    (Charset.octets text).map lowerOctet = Charset.octets (lower text) := by
  rw [lower_of_latin1 (latin1_of_ascii ascii), Charset.octets, Charset.octets, List.map_map,
    List.map_map]
  exact List.map_congr_left fun c mem => lowerOctet_ofNat (ascii c mem)

end Text

/-! ## Headers -/

namespace Header

/-- Every character of the name and of the value belongs to the set. -/
structure Within (charset : Charset) (header : Header) : Prop where
  name : ∀ c ∈ header.name.toList, c.toNat < charset.size
  value : ∀ c ∈ header.value.toList, c.toNat < charset.size

theorem within_iff {charset : Charset} {header : Header} :
    header.Within charset ↔
      header.name.toList.all charset.holds = true ∧
        header.value.toList.all charset.holds = true := by
  constructor
  · rintro ⟨name, value⟩
    simpa [Charset.holds] using ⟨name, value⟩
  · intro both
    obtain ⟨name, value⟩ := by simpa [Charset.holds] using both
    exact ⟨name, value⟩

instance (charset : Charset) (header : Header) : Decidable (header.Within charset) :=
  decidable_of_iff _ within_iff.symm

/-- One octet for each character, which is its code point if it has one so low. -/
def raw (header : Header) : RawHeader :=
  { name := Charset.octets header.name.toList, value := Charset.octets header.value.toList }

/-- The octets of the header with its name in small letters. -/
def lowerRaw (header : Header) : RawHeader :=
  header.lowerName.raw

theorem map_lowerRaw (headers : List Header) :
    headers.map lowerRaw = (headers.map lowerName).map raw :=
  List.map_map.symm

theorem Within.latin1 {charset : Charset} {header : Header} (within : header.Within charset) :
    header.Within .latin1 := by
  have size := charset.size_le
  exact ⟨fun c mem => Nat.lt_of_lt_of_le (within.name c mem) size,
    fun c mem => Nat.lt_of_lt_of_le (within.value c mem) size⟩

/-- A character set that has the letters of a name has its small letters. -/
theorem lowerName_lt {charset : Charset} {header : Header}
    (name : ∀ c ∈ header.name.toList, c.toNat < charset.size) :
    ∀ c ∈ header.lowerName.name.toList, c.toNat < charset.size := by
  have latin1 : ∀ c ∈ header.name.toList, c.toNat < 0x100 := fun c mem =>
    Nat.lt_of_lt_of_le (name c mem) charset.size_le
  intro c mem
  rw [Header.lowerName, String.toList_ofList, Text.lower_of_latin1 latin1] at mem
  obtain ⟨capital, held, rfl⟩ := List.mem_map.mp mem
  exact Text.smallLetter_lt charset (name capital held)

theorem Within.lowerName {charset : Charset} {header : Header} (within : header.Within charset) :
    header.lowerName.Within charset :=
  ⟨lowerName_lt within.name, within.value⟩

theorem forall_within_lowerName {charset : Charset} {headers : List Header}
    (within : ∀ header ∈ headers, header.Within charset) :
    ∀ header ∈ headers.map Header.lowerName, header.Within charset := by
  intro header mem
  obtain ⟨capital, held, rfl⟩ := List.mem_map.mp mem
  exact (within capital held).lowerName

theorem encode_of_within {charset : Charset} {header : Header} (within : header.Within charset) :
    header.encode charset = .ok header.raw := by
  rw [encode, Charset.encode_of_lt within.name, Charset.encode_of_lt within.value]
  rfl

theorem encodeAll_of_within {charset : Charset} {headers : List Header}
    (within : ∀ header ∈ headers, header.Within charset) :
    encodeAll charset headers = .ok (headers.map raw) := by
  induction headers with
  | nil => rfl
  | cons header rest ih =>
    have first := encode_of_within (within header (by simp))
    have later := ih fun other mem => within other (by simp [mem])
    rw [encodeAll] at later ⊢
    rw [List.mapM_cons, first, later]
    rfl

theorem encode_eq_ok_iff {charset : Charset} {header : Header} {octets : RawHeader} :
    header.encode charset = .ok octets ↔ header.Within charset ∧ octets = header.raw := by
  refine ⟨fun sent => ?_, fun ⟨within, same⟩ => same ▸ encode_of_within within⟩
  obtain ⟨name, named, rest⟩ := bind_eq_ok_iff.mp sent
  obtain ⟨value, valued, made⟩ := bind_eq_ok_iff.mp rest
  obtain ⟨name_holds, rfl⟩ := Charset.encode_eq_ok_iff.mp named
  obtain ⟨value_holds, rfl⟩ := Charset.encode_eq_ok_iff.mp valued
  refine ⟨⟨?_, ?_⟩, (Except.ok.inj made).symm⟩
  · exact fun c mem => Charset.holds_iff.mp (name_holds c mem)
  · exact fun c mem => Charset.holds_iff.mp (value_holds c mem)

/-- Headers are sent exactly if all their characters belong to the set. -/
theorem encodeAll_eq_ok_iff {charset : Charset} {headers : List Header}
    {raws : List RawHeader} :
    encodeAll charset headers = .ok raws ↔
      (∀ header ∈ headers, header.Within charset) ∧ raws = headers.map raw := by
  refine ⟨fun sent => ?_, fun ⟨within, same⟩ => same ▸ encodeAll_of_within within⟩
  induction headers generalizing raws with
  | nil =>
    cases sent
    exact ⟨by simp, rfl⟩
  | cons header rest ih =>
    rw [encodeAll, List.mapM_cons] at sent
    obtain ⟨first, own, remaining⟩ := bind_eq_ok_iff.mp sent
    obtain ⟨later, others, made⟩ := bind_eq_ok_iff.mp remaining
    obtain ⟨within, rfl⟩ := encode_eq_ok_iff.mp (mapError_eq_ok_iff.mp own)
    obtain ⟨all, rfl⟩ := ih others
    refine ⟨?_, (Except.ok.inj made).symm⟩
    intro other mem
    rcases List.mem_cons.mp mem with rfl | mem
    · exact within
    · exact all other mem

theorem latin1_raw {header : Header} (within : header.Within .latin1) :
    header.raw.latin1 = header := by
  rw [raw, RawHeader.latin1, Charset.decodeLatin1_octets within.name,
    Charset.decodeLatin1_octets within.value, String.ofList_toList, String.ofList_toList]

theorem map_latin1_raw {headers : List Header}
    (within : ∀ header ∈ headers, header.Within .latin1) :
    (headers.map raw).map RawHeader.latin1 = headers := by
  rw [List.map_map]
  conv => rhs; rw [← List.map_id headers]
  exact List.map_congr_left fun header mem => latin1_raw (within header mem)

theorem utf8?_raw {header : Header} (within : header.Within .ascii) :
    header.raw.utf8? = some header := by
  simp [raw, RawHeader.utf8?, Text.Utf8.decode?_octets within.name,
    Text.Utf8.decode?_octets within.value]

/-- Headers are read together if each of them is. -/
theorem mapM_raw {read : RawHeader → Option Header} {change : Header → Header}
    {headers : List Header} (each : ∀ header ∈ headers, read header.raw = some (change header)) :
    (headers.map raw).mapM read = some (headers.map change) := by
  induction headers with
  | nil => rfl
  | cons header rest ih =>
    have first := each header (by simp)
    have later := ih fun other mem => each other (by simp [mem])
    rw [List.map_cons, List.mapM_cons, first, later]
    rfl

theorem readAll_raw {headers : List Header} (within : ∀ header ∈ headers, header.Within .ascii) :
    RawHeader.readAll (headers.map raw) = headers := by
  have read : (headers.map raw).mapM RawHeader.utf8? = some (headers.map id) :=
    mapM_raw fun header mem => utf8?_raw (within header mem)
  rw [RawHeader.readAll, read, List.map_id]

theorem lowerName_raw {header : Header} (ascii : ∀ c ∈ header.name.toList, c.toNat < 128) :
    header.raw.lowerName = header.lowerName.raw := by
  rw [raw, RawHeader.lowerName, raw, lowerName, String.toList_ofList, Text.octets_lower ascii]

theorem lowerName_lowerName {header : Header} (latin1 : ∀ c ∈ header.name.toList, c.toNat < 0x100) :
    header.lowerName.lowerName = header.lowerName := by
  rw [lowerName, lowerName, String.toList_ofList, Text.lower_lower_of_latin1 latin1]

theorem lowerName_lowerRaw {header : Header} (ascii : ∀ c ∈ header.name.toList, c.toNat < 128) :
    header.lowerRaw.lowerName = header.lowerRaw := by
  have small : ∀ c ∈ header.lowerName.name.toList, c.toNat < Charset.ascii.size :=
    lowerName_lt ascii
  rw [lowerRaw, lowerName_raw small, lowerName_lowerName (Text.latin1_of_ascii ascii)]

end Header

end EntityHeaders
