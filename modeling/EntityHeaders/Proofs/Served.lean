import EntityHeaders.Message
import EntityHeaders.Proofs.Collections
import EntityHeaders.Proofs.RoundTrip
import EntityHeaders.Proofs.Written
import Mathlib.Data.List.Nodup

/-! # Responses and what a server reads of them

A response carries the headers of a record and, where neither the record nor the status
speaks against it, the length of its body.

* `AddsLength`, `sentHeaders` — when the length is added, and all headers with it;
  `response_eq` says that these are the headers of the response.
* `applyHeaders_sentHeaders` — the record that they make.
* `response_read_back` — a response can be made of every record with Latin-1 texts, repeats
  no name and is read as the headers of the record are, up to the added length.
-/

namespace EntityHeaders

open Fallible (map_ok ok_bind)
open Text (Charset IsAscii decimal lower)

/-! ## Names on the wire -/

namespace Field

def rawName (field : Field) : List UInt8 :=
  Charset.octets field.smallName.toList

theorem isAscii_smallName (field : Field) : IsAscii field.smallName.toList := by
  cases field <;> decide

theorem rawName_injective : Function.Injective rawName := by
  intro a b same
  have latin1 : ∀ field : Field, ∀ c ∈ field.smallName.toList, c.toNat < 256 := fun field =>
    Text.latin1_of_ascii (Text.isAscii_iff.mp field.isAscii_smallName)
  have names := congrArg Charset.decodeLatin1 same
  rw [rawName, rawName, Charset.decodeLatin1_octets (latin1 a),
    Charset.decodeLatin1_octets (latin1 b), String.toList_inj] at names
  exact smallName_injective names

end Field

theorem map_name_lowerRaw {headers : List Header} {fields : List Field}
    (names : headers.map Header.name = fields.map Field.name) :
    (headers.map Header.lowerRaw).map RawHeader.name = fields.map Field.rawName := by
  have small := congrArg (List.map fun name : String => Charset.octets (lower name.toList)) names
  simp only [List.map_map] at small ⊢
  calc headers.map (RawHeader.name ∘ Header.lowerRaw)
      = headers.map ((fun name : String => Charset.octets (lower name.toList)) ∘ Header.name) := by
        apply List.map_congr_left
        intro header _
        simp [Header.lowerRaw, Header.raw, Header.lowerName]
    _ = fields.map ((fun name : String => Charset.octets (lower name.toList)) ∘ Field.name) := small
    _ = fields.map Field.rawName := by
        apply List.map_congr_left
        intro field _
        simp [Field.rawName, Field.lower_name]

/-! ## The length of the body -/

/-- The length that a response states of its body. -/
def lengthField (size : Nat) : Header :=
  { name := Field.length.name, value := String.ofList (decimal size) }

theorem lengthHeader_eq (body : List UInt8) :
    lengthHeader body = (lengthField body.length).lowerRaw := by
  simp [lengthHeader, lengthField, Header.lowerRaw, Header.raw, Header.lowerName, Field.lower_name,
    Field.smallName]

theorem lengthHeader_name (body : List UInt8) : (lengthHeader body).name = Field.length.rawName :=
  rfl

theorem isAscii_lengthField (size : Nat) : IsAscii (lengthField size).value.toList := by
  rw [lengthField, String.toList_ofList]
  exact Text.isAscii_decimal size

theorem within_lengthField (charset : Charset) (size : Nat) :
    (lengthField size).Within charset :=
  ⟨charset.lt_size_of_ascii Field.length.isAscii_name,
    charset.lt_size_of_ascii (isAscii_lengthField size)⟩

namespace Metadata

/-- A response with the record states the length of its body. -/
def AddsLength (record : Metadata) (status : Int) : Prop :=
  record.length = none ∧ 200 ≤ status ∧ status ≠ 204 ∧ status ≠ 304

instance (record : Metadata) (status : Int) : Decidable (record.AddsLength status) :=
  inferInstanceAs (Decidable (_ ∧ _ ∧ _ ∧ _))

/-- The headers of a record with those that a response adds. -/
def sentHeaders (record : Metadata) (status : Int) (size : Nat) (headers : List Header) :
    List Header :=
  headers ++ if record.AddsLength status then [lengthField size] else []

/-- What is read of the headers of a record and the added length. -/
def served (record : Metadata) (status : Int) (size : Nat) : Metadata :=
  if record.AddsLength status then { record.toSecond with length := some (.whole size) }
  else record.toSecond

variable {profile : Profile} {record : Metadata} {headers : List Header}

theorem mem_or_eq_of_mem_sentHeaders {status : Int} {size : Nat} {header : Header}
    (mem : header ∈ record.sentHeaders status size headers) :
    header ∈ headers ∨ header = lengthField size := by
  rcases List.mem_append.mp mem with own | added
  · exact .inl own
  · split at added
    · exact .inr (List.mem_singleton.mp added)
    · cases added

theorem within_sentHeaders (record : Metadata) {charset : Charset}
    (within : ∀ header ∈ headers, header.Within charset) (status : Int) (size : Nat) :
    ∀ header ∈ record.sentHeaders status size headers, header.Within charset := by
  intro header mem
  rcases mem_or_eq_of_mem_sentHeaders mem with own | rfl
  · exact within header own
  · exact within_lengthField charset size

theorem names_sentHeaders (written : record.toHeaders profile = .ok headers) (status : Int)
    (size : Nat) :
    (record.sentHeaders status size headers).map Header.name =
      (Field.all.filter record.has ++
        if record.AddsLength status then [Field.length] else []).map Field.name := by
  rw [sentHeaders, List.map_append, List.map_append, names_headersOf written]
  split <;> rfl

theorem exists_field_of_mem_sentHeaders (written : record.toHeaders profile = .ok headers)
    {status : Int} {size : Nat} {header : Header}
    (mem : header ∈ record.sentHeaders status size headers) :
    ∃ field : Field, field.name = header.name := by
  have name := List.mem_map_of_mem (f := Header.name) mem
  rw [names_sentHeaders written] at name
  obtain ⟨field, -, same⟩ := List.mem_map.mp name
  exact ⟨field, same⟩

theorem applyHeaders_sentHeaders (http : profile.dates = .http) (valid : record.Valid)
    (written : record.toHeaders profile = .ok headers) (status : Int) {size : Nat}
    (fits : size ≤ maxLength) :
    applyHeaders profile (record.sentHeaders status size headers) {} =
      { record := record.served status size, notes := [], fault := none } := by
  obtain ⟨headers', written', -, sets⟩ := applyAll_headersOf http valid Field.all
  obtain rfl : headers' = headers := Except.ok.inj (written'.symm.trans written)
  have alone := sets {}
  rw [foldl_overlayField, overlay_empty] at alone
  have fields : ∀ header ∈ record.sentHeaders status size headers',
      ∃ field, Field.ofName? header.name = some field := by
    intro header mem
    obtain ⟨field, same⟩ := exists_field_of_mem_sentHeaders written mem
    exact ⟨field, same ▸ Field.ofName?_name field⟩
  rw [applyHeaders, not_isChunked_of_fields fields, sentHeaders, served]
  split
  · have result : Field.length.effect profile false (String.ofList (decimal size)) =
        .ok { assignment := some (.length (some (.whole size))) } := by
      simp [Field.effect, readLength_decimal fits]
    rw [applyAll_append, alone, lengthField]
    simp only
    rw [applyAll_single result]
    rfl
  · rw [List.append_nil, alone]

/-! ## The response -/

theorem nodup_sentNames (written : record.toHeaders profile = .ok headers) (status : Int)
    (size : Nat) :
    (((record.sentHeaders status size headers).map Header.lowerRaw).map RawHeader.name).Nodup := by
  rw [map_name_lowerRaw (names_sentHeaders written status size)]
  apply List.Nodup.map Field.rawName_injective
  have own : (Field.all.filter record.has).Nodup := List.Nodup.filter _ (by decide)
  split
  next adds =>
    refine own.append (List.nodup_singleton _) ?_
    rw [List.disjoint_singleton, List.mem_filter]
    simp [has, adds.1]
  next =>
    rwa [List.append_nil]

theorem rawName_mem_names_iff (written : record.toHeaders profile = .ok headers)
    (field : Field) :
    field.rawName ∈ (headers.map Header.lowerRaw).map RawHeader.name ↔ record.has field = true := by
  rw [map_name_lowerRaw (names_headersOf written),
    List.mem_map_of_injective Field.rawName_injective, List.mem_filter]
  exact and_iff_right field.mem_all

/-- The length is found among the headers of the record exactly if the record has one. -/
theorem withLength_toHeaders (written : record.toHeaders profile = .ok headers) (status : Int)
    (body : List UInt8) :
    withLength status body (headers.map Header.lowerRaw) =
      (record.sentHeaders status body.length headers).map Header.lowerRaw := by
  have stated : (headers.map Header.lowerRaw).any (·.name == (lengthHeader body).name) =
      record.length.isSome := by
    rw [Bool.eq_iff_iff, lengthHeader_name]
    exact Iff.trans (by simp) (rawName_mem_names_iff written .length)
  have adds : (declaresLength status && !record.length.isSome) = true ↔
      record.AddsLength status := by
    simp [declaresLength, AddsLength, and_comm, and_assoc]
  rw [withLength, stated, sentHeaders, List.map_append]
  by_cases added : record.AddsLength status
  · rw [if_pos (adds.mpr added), if_pos added, lengthHeader_eq]
    rfl
  · rw [if_neg (adds.not.mpr added), if_neg added]
    simp

/-- No name is written twice, so that a response sends all headers. -/
theorem response_eq_map (written : record.toHeaders profile = .ok headers) (status : Int)
    (body : List UInt8) :
    record.response profile status body =
      (fun raws => { status, body, headers := withLength status body raws }) <$>
        Header.encodeAll .latin1 (headers.map Header.lowerName) := by
  rw [response, written]
  simp only [ok_bind, keyHeaders_of_nodup (nodup_names_toHeaders written)]
  cases Header.encodeAll .latin1 (headers.map Header.lowerName) <;> rfl

theorem response_eq (http : profile.dates = .http) (latin1 : record.TextsWithin .latin1)
    (written : record.toHeaders profile = .ok headers) (status : Int) (body : List UInt8) :
    record.response profile status body =
      .ok
        { status, body
          headers := (record.sentHeaders status body.length headers).map Header.lowerRaw } := by
  have within := within_toHeaders http latin1 written
  have octets := Header.encodeAll_of_within (Header.forall_within_lowerName within)
  rw [← Header.map_lowerRaw] at octets
  rw [response_eq_map written, octets, map_ok, withLength_toHeaders written]

theorem ofServer_raw {sent : List Header} (latin1 : ∀ header ∈ sent, header.Within .latin1) :
    ofServer profile (sent.map Header.lowerRaw) = applyHeaders profile sent {} := by
  have flat := Collection.flatten_serverOctets (Header.forall_within_lowerName latin1)
  rw [← Header.map_lowerRaw] at flat
  exact (decode_eq_ofHeaders_of_lowerName {} latin1 flat).trans (decode_ofHeaders ..)

theorem ofServer_sentHeaders (http : profile.dates = .http) (valid : record.Valid)
    (latin1 : record.TextsWithin .latin1) (written : record.toHeaders profile = .ok headers)
    (status : Int) {size : Nat} (fits : size ≤ maxLength) :
    ofServer profile ((record.sentHeaders status size headers).map Header.lowerRaw) =
      { record := record.served status size, notes := [], fault := none } := by
  have within := within_sentHeaders record (within_toHeaders http latin1 written) status size
  rw [ofServer_raw within, applyHeaders_sentHeaders http valid written status fits]

/-- A response can be made of every record with Latin-1 texts, with any status.  Its headers
    are those of the record, with names in small letters, and the length of the body where the
    record has none and the status allows a body; no name is repeated.  A server reads them as
    it reads the headers of the record, the added length aside. -/
theorem response_read_back {fields : Metadata} (made : fields.checked = .ok record)
    (http : profile.dates = .http) (latin1 : record.TextsWithin .latin1) (status : Int)
    {body : List UInt8} (fits : body.length ≤ maxLength) :
    ∃ headers response,
      record.toHeaders profile = .ok headers ∧
      record.response profile status body = .ok response ∧
      response.status = status ∧ response.body = body ∧
      response.headers = headers.map Header.lowerRaw ++
        (if record.AddsLength status then [lengthHeader body] else []) ∧
      (response.headers.map RawHeader.name).Nodup ∧
      (read profile (.ofHeaders headers)).fault = none ∧
      ofServer profile response.headers =
        { read profile (.ofHeaders headers) with
          record :=
            if record.AddsLength status then
              { (read profile (.ofHeaders headers)).record with
                length := some (.whole body.length) }
            else (read profile (.ofHeaders headers)).record } := by
  have valid := valid_of_checked made
  obtain ⟨headers, written, laid⟩ := applyHeaders_toHeaders http valid
  have alone : read profile (.ofHeaders headers) =
      { record := record.toSecond, notes := [], fault := none } := by
    rw [read, decode_ofHeaders, laid, overlay_empty]
  have back := ofServer_sentHeaders http valid latin1 written status fits
  refine ⟨headers, _, written, response_eq http latin1 written status body, rfl, rfl, ?_,
    nodup_sentNames written status body.length, ?_, ?_⟩
  · rw [sentHeaders, List.map_append]
    split
    · rw [lengthHeader_eq, List.map_singleton]
    · rfl
  · rw [alone]
  · rw [back, alone, served]

/-- Fields without a length, one of them beyond ASCII. -/
def accentedFields : Metadata where
  mediaType := some "text/html"
  language := some "français"
  digest := some (.numbers [0, 255])

theorem response_read_back_accented :
    ∃ record response, accentedFields.checked = .ok record ∧ record.TextsWithin .latin1 ∧
      record.response {} 404 [60, 62] = .ok response ∧
      (response.headers.map RawHeader.latin1).map Header.name =
        ["content-type", "content-language", "content-md5", "content-length"] ∧
      ofServer {} response.headers =
        { record := { record with length := some (.whole 2) }, notes := [], fault := none } := by
  have made : accentedFields.checked =
      .ok { accentedFields with digest := some (.ofOctets [0, 255]) } := rfl
  have latin1 : ({ accentedFields with digest := some (.ofOctets [0, 255]) } :
      Metadata).TextsWithin .latin1 := by decide
  have http : ({} : Profile).dates = .http := rfl
  have fits : ([60, 62] : List UInt8).length ≤ maxLength := by decide
  obtain ⟨headers, response, written, answered, -, -, sent, -, -, back⟩ :=
    response_read_back made http latin1 404 fits
  have own : toHeaders {} { accentedFields with digest := some (.ofOctets [0, 255]) } =
      .ok [⟨"Content-Type", "text/html"⟩, ⟨"Content-Language", "français"⟩,
        ⟨"Content-MD5", "AP8="⟩] := by rfl
  obtain rfl := Except.ok.inj (own.symm.trans written)
  refine ⟨_, response, made, latin1, answered, ?_, ?_⟩
  · rw [sent]
    decide +kernel
  · rw [back]
    decide +kernel

end Metadata

end EntityHeaders
