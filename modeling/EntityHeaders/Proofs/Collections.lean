import EntityHeaders.Proofs.Decoding
import EntityHeaders.Proofs.Wire

/-! # Collections of the same headers

A collection may change the names of its headers to small letters, but decoding tells names
apart by their small letters only.

* `Header.Alike`, `applyHeaders_map_of_alike` — headers that differ in the capitals of their
  names have the same effect, on failure too.
* `keyHeaders_of_nodup` — a keyed collection drops nothing if no name is repeated.
* `decode_collections` — it makes no difference in which collection headers arrive, as long
  as the collection can hold them.
-/

namespace EntityHeaders

open Text (lower)

/-! ## Headers alike -/

theorem sameName_congr {a b : String} (same : sameName a b = true) (name : String) :
    sameName a name = sameName b name := by
  rw [sameName_iff] at same
  rw [sameName, same, sameName]

theorem Field.ofName?_congr {a b : String} (same : sameName a b = true) :
    ofName? a = ofName? b := by
  unfold ofName?
  congr 1
  funext field
  exact sameName_congr same field.name

namespace Header

/-- Headers of the same name, capitals aside, and of the same value. -/
structure Alike (a b : Header) : Prop where
  name : sameName a.name b.name = true
  value : a.value = b.value

theorem Alike.effect_eq {a b : Header} (alike : a.Alike b) (profile : Profile) (chunked : Bool) :
    a.effect profile chunked = b.effect profile chunked := by
  rw [effect, effect, Field.ofName?_congr alike.name, alike.value]

theorem Alike.saysChunked_eq {a b : Header} (alike : a.Alike b) :
    a.saysChunked = b.saysChunked := by
  rw [saysChunked, saysChunked, sameName_congr alike.name, alike.value]

theorem alike_lowerName {header : Header} (latin1 : ∀ c ∈ header.name.toList, c.toNat < 0x100) :
    header.lowerName.Alike header := by
  refine ⟨?_, rfl⟩
  rw [sameName_iff, Header.lowerName, String.toList_ofList, Text.lower_lower_of_latin1 latin1]

theorem Within.alike_lowerName {charset : Text.Charset} {header : Header}
    (within : header.Within charset) : header.lowerName.Alike header :=
  Header.alike_lowerName within.latin1.name

end Header

section Relabelled

variable {relabel : Header → Header} {headers : List Header}

theorem isChunked_map_of_alike (alike : ∀ header ∈ headers, (relabel header).Alike header) :
    isChunked (headers.map relabel) = isChunked headers := by
  rw [isChunked, isChunked, List.any_map]
  induction headers with
  | nil => rfl
  | cons header rest ih =>
    have first := (alike header (by simp)).saysChunked_eq
    have later := ih fun other mem => alike other (by simp [mem])
    rw [List.any_cons, List.any_cons, later, Function.comp, first]

theorem Metadata.applyAll_map_of_alike (profile : Profile) (chunked : Bool) (record : Metadata)
    (alike : ∀ header ∈ headers, (relabel header).Alike header) :
    record.applyAll profile chunked (headers.map relabel) =
      record.applyAll profile chunked headers := by
  induction headers generalizing record with
  | nil => rfl
  | cons header rest ih =>
    have first := (alike header (by simp)).effect_eq profile chunked
    have later := fun next => ih next fun other mem => alike other (by simp [mem])
    rw [List.map_cons, applyAll, applyAll, first]
    simp only [later]

theorem Metadata.applyHeaders_map_of_alike (profile : Profile) (record : Metadata)
    (alike : ∀ header ∈ headers, (relabel header).Alike header) :
    record.applyHeaders profile (headers.map relabel) = record.applyHeaders profile headers := by
  rw [applyHeaders, applyHeaders, isChunked_map_of_alike alike, applyAll_map_of_alike _ _ _ alike]

end Relabelled

/-! ## Keyed collections -/

theorem insertHeader_of_fresh {header : Header} {kept : List Header}
    (fresh : ∀ other ∈ kept, other.name ≠ header.name) :
    insertHeader header kept = kept ++ [header] := by
  induction kept with
  | nil => rfl
  | cons first rest ih =>
    have later := ih fun other mem => fresh other (by simp [mem])
    rw [insertHeader, if_neg (fresh first (by simp)), later]
    rfl

theorem foldl_insertHeader_of_nodup {kept headers : List Header}
    (distinct : ((kept ++ headers).map Header.name).Nodup) :
    headers.foldl (fun kept header => insertHeader header kept) kept = kept ++ headers := by
  induction headers generalizing kept with
  | nil => simp
  | cons header rest ih =>
    have fresh : ∀ other ∈ kept, other.name ≠ header.name := by
      intro other mem same
      rw [List.map_append, List.nodup_append] at distinct
      exact distinct.2.2 _ (List.mem_map_of_mem mem) _ (by simp) same
    rw [List.foldl_cons, insertHeader_of_fresh fresh, ih (by simpa using distinct)]
    simp

theorem keyHeaders_of_nodup {headers : List Header}
    (distinct : (headers.map Header.name).Nodup) : keyHeaders headers = headers :=
  foldl_insertHeader_of_nodup distinct

/-! ## What the collections stand for -/

namespace Collection

open Header

variable {headers : List Header}

theorem flatten_keyed (distinct : (headers.map Header.name).Nodup) :
    (keyed headers).flatten = .ok headers := by
  rw [flatten, keyHeaders_of_nodup distinct]

theorem flatten_serverOctets (latin1 : ∀ header ∈ headers, header.Within .latin1) :
    (serverOctets (headers.map raw)).flatten = .ok headers := by
  rw [flatten, map_latin1_raw latin1]

theorem flatten_serverKeyed (latin1 : ∀ header ∈ headers, header.Within .latin1)
    (distinct : (headers.map Header.name).Nodup) :
    (serverKeyed headers).flatten = .ok (headers.map lowerName) := by
  have small := forall_within_lowerName latin1
  have read := flatten_serverOctets small
  rw [flatten] at read
  rw [flatten, keyHeaders_of_nodup distinct, encodeAll_of_within small]
  exact read

theorem flatten_clientOctets (ascii : ∀ header ∈ headers, header.Within .ascii) :
    (clientOctets (headers.map raw)).flatten = .ok (headers.map lowerName) := by
  have small := forall_within_lowerName ascii
  have names : (headers.map raw).map RawHeader.lowerName = (headers.map lowerName).map raw := by
    rw [List.map_map, List.map_map]
    exact List.map_congr_left fun header mem => lowerName_raw (ascii header mem).name
  rw [flatten, names, readAll_raw small]

theorem flatten_clientText (ascii : ∀ header ∈ headers, header.Within .ascii) :
    (clientText headers).flatten = .ok (headers.map lowerName) := by
  have read := flatten_clientOctets ascii
  rw [flatten] at read
  rw [flatten, encodeAll_of_within ascii]
  exact read

end Collection

/-! ## Decoding collections -/

namespace Metadata

theorem decode_eq_ofHeaders {profile : Profile} {collection : Collection}
    {headers : List Header} (target : Metadata) (flat : collection.flatten = .ok headers) :
    target.decode profile collection = target.decode profile (.ofHeaders headers) := by
  rw [decode_of_flatten flat, decode_ofHeaders, applyHeaders]

/-- Small letters in all names change nothing about what is decoded. -/
theorem decode_eq_ofHeaders_of_lowerName {charset : Text.Charset} {profile : Profile}
    {collection : Collection} {headers : List Header} (target : Metadata)
    (within : ∀ header ∈ headers, header.Within charset)
    (flat : collection.flatten = .ok (headers.map Header.lowerName)) :
    target.decode profile collection = target.decode profile (.ofHeaders headers) := by
  rw [decode_eq_ofHeaders target flat, decode_ofHeaders, decode_ofHeaders]
  exact applyHeaders_map_of_alike profile target fun header mem =>
    (within header mem).alike_lowerName

/-- Headers of Latin-1 are decoded from any collection of a server as from a plain list, if
    no name is written twice where each is kept once, and headers of ASCII from any of a
    client: the same record is left, with the same notes and the same fault. -/
theorem decode_collections (profile : Profile) (headers : List Header) (target : Metadata) :
    ((∀ header ∈ headers, header.Within .latin1) →
      target.decode profile (.repeatable headers) = target.decode profile (.ofHeaders headers) ∧
      target.decode profile (.serverOctets (headers.map Header.raw)) =
        target.decode profile (.ofHeaders headers) ∧
      ((headers.map Header.name).Nodup →
        target.decode profile (.keyed headers) = target.decode profile (.ofHeaders headers) ∧
        target.decode profile (.serverKeyed headers) =
          target.decode profile (.ofHeaders headers))) ∧
    ((∀ header ∈ headers, header.Within .ascii) →
      target.decode profile (.clientText headers) = target.decode profile (.ofHeaders headers) ∧
      target.decode profile (.clientOctets (headers.map Header.raw)) =
        target.decode profile (.ofHeaders headers)) := by
  refine ⟨fun latin1 => ⟨?_, ?_, fun distinct => ⟨?_, ?_⟩⟩, fun ascii => ⟨?_, ?_⟩⟩
  · exact decode_eq_ofHeaders target rfl
  · exact decode_eq_ofHeaders target (Collection.flatten_serverOctets latin1)
  · exact decode_eq_ofHeaders target (Collection.flatten_keyed distinct)
  · exact decode_eq_ofHeaders_of_lowerName target latin1
      (Collection.flatten_serverKeyed latin1 distinct)
  · exact decode_eq_ofHeaders_of_lowerName target ascii (Collection.flatten_clientText ascii)
  · exact decode_eq_ofHeaders_of_lowerName target ascii (Collection.flatten_clientOctets ascii)

/-- Headers of Latin-1, the last of which cannot be read. -/
def accentedHeaders : List Header :=
  [⟨"CONTENT-LENGTH", "12"⟩, ⟨"Content-Language", "français"⟩, ⟨"Content-MD5", "?"⟩]

/-- A server's collection leaves what the plain list leaves, here a record that has been
    decoded up to the digest. -/
theorem decode_collections_accented :
    decode {} (.serverKeyed accentedHeaders) {} = decode {} (.ofHeaders accentedHeaders) {} ∧
      (decode {} (.ofHeaders accentedHeaders) {}).record.language = some "français" ∧
      (decode {} (.ofHeaders accentedHeaders) {}).fault =
        some (.malformed .digest "?" .notBase64) := by
  have within : ∀ header ∈ accentedHeaders, header.Within .latin1 := by decide
  have distinct : (accentedHeaders.map Header.name).Nodup := by decide
  have keyed := (((decode_collections {} accentedHeaders {}).1 within).2.2 distinct).2
  exact ⟨keyed, by decide +kernel⟩

end Metadata

end EntityHeaders
