import EntityHeaders.Proofs.Served
import EntityHeaders.Proofs.Utf8

/-! # What a client reads of a response

A server writes one octet for each character of a text, and a client takes the octets for
UTF-8 if all values of the response are that.

* `reread` — the text that a client makes of such octets; `reread_ne` says that it is another
  one unless the text is ASCII.
* `readAll_of_utf8`, `readAll_of_not_utf8` — one value decides how all of them are read.
* `ofClientOctets_of_utf8` — the record of a response in UTF-8 is the one of the server with
  its texts reread.
* `ofClientOctets_eq_ofServer_iff` — when client and server read the same record.
-/

namespace EntityHeaders

open Text (Charset IsAscii)
open Text.Utf8 (IsUtf8)

/-! ## Octets taken for UTF-8 -/

theorem Text.isAscii_iff_octets {text : List Char} (latin1 : ∀ c ∈ text, c.toNat < 0x100) :
    IsAscii text ↔ ∀ octet ∈ Charset.octets text, octet.toNat < 128 := by
  rw [isAscii_iff, Charset.octets, List.forall_mem_map]
  refine forall₂_congr fun c mem => ?_
  rw [Charset.toNat_octet (latin1 c mem)]

/-- What a client reads of the octets of a Latin-1 text, should they be UTF-8. -/
def reread (text : String) : String :=
  ((Text.Utf8.decode? (Charset.octets text.toList)).map String.ofList).getD text

theorem reread_of_ascii {text : String} (ascii : IsAscii text.toList) : reread text = text := by
  simp [reread, Text.Utf8.decode?_octets (Text.isAscii_iff.mp ascii)]

/-- An octet beyond ASCII is only a part of a character, so that fewer characters are read. -/
theorem reread_ne {text : String} (latin1 : ∀ c ∈ text.toList, c.toNat < 0x100)
    (utf8 : IsUtf8 (Charset.octets text.toList)) (accented : ¬ IsAscii text.toList) :
    reread text ≠ text := by
  obtain ⟨characters, read⟩ := Text.Utf8.isUtf8_iff.mp utf8
  have high : ∃ octet ∈ Charset.octets text.toList, 0x80 ≤ octet.toNat := by
    simpa [Text.isAscii_iff_octets latin1] using accented
  have fewer := Text.Utf8.length_lt_of_high read high
  intro same
  have characters_eq : characters = text.toList := by
    rw [← same]
    simp [reread, read]
  rw [characters_eq, Charset.octets, List.length_map] at fewer
  exact Nat.lt_irrefl _ fewer

theorem RawHeader.utf8?_of_not_utf8 {raw : RawHeader} (other : ¬ IsUtf8 raw.value) :
    raw.utf8? = none := by
  have value : Text.Utf8.decode? raw.value = none :=
    Option.eq_none_iff_forall_ne_some.mpr fun text read =>
      other (Text.Utf8.isUtf8_iff.mpr ⟨text, read⟩)
  simp [utf8?, value]

namespace Header

variable {headers : List Header}

theorem utf8?_raw_of_utf8 {header : Header} (name : ∀ c ∈ header.name.toList, c.toNat < 128)
    (utf8 : IsUtf8 header.raw.value) : header.raw.utf8? = some (header.mapValue reread) := by
  obtain ⟨characters, read⟩ := Text.Utf8.isUtf8_iff.mp utf8
  rw [raw] at read
  simp [raw, RawHeader.utf8?, Text.Utf8.decode?_octets name, read, mapValue, reread]

theorem readAll_of_utf8 (names : ∀ header ∈ headers, ∀ c ∈ header.name.toList, c.toNat < 128)
    (utf8 : ∀ header ∈ headers, IsUtf8 header.raw.value) :
    RawHeader.readAll (headers.map raw) = headers.map (mapValue reread) := by
  have read : (headers.map raw).mapM RawHeader.utf8? = some (headers.map (mapValue reread)) :=
    mapM_raw fun header mem => utf8?_raw_of_utf8 (names header mem) (utf8 header mem)
  rw [RawHeader.readAll, read]

theorem readAll_of_not_utf8 (latin1 : ∀ header ∈ headers, header.Within .latin1)
    (broken : ∃ header ∈ headers, ¬ IsUtf8 header.raw.value) :
    RawHeader.readAll (headers.map raw) = headers := by
  have unread : (headers.map raw).mapM RawHeader.utf8? = none := by
    obtain ⟨header, mem, other⟩ := broken
    obtain ⟨before, after, rfl⟩ := List.append_of_mem mem
    simp [List.mapM_append, RawHeader.utf8?_of_not_utf8 other]
  rw [RawHeader.readAll, unread]
  exact map_latin1_raw latin1

end Header

namespace RawHeader

/-- The values are ASCII, or one of them is not UTF-8. -/
def AsciiOrNotUtf8 (raws : List RawHeader) : Prop :=
  (∀ raw ∈ raws, ∀ octet ∈ raw.value, octet.toNat < 128) ∨ ∃ raw ∈ raws, ¬ IsUtf8 raw.value

theorem asciiOrNotUtf8_iff {raws : List RawHeader} :
    AsciiOrNotUtf8 raws ↔
      (raws.all (fun raw => raw.value.all (·.toNat < 128)) ||
        raws.any fun raw => ¬ IsUtf8 raw.value) = true := by
  simp [AsciiOrNotUtf8]

instance (raws : List RawHeader) : Decidable (AsciiOrNotUtf8 raws) :=
  decidable_of_iff _ asciiOrNotUtf8_iff.symm

end RawHeader

namespace Metadata

variable {profile : Profile} {record : Metadata} {headers : List Header}

/-! ## Records with reread texts -/

theorem mapTexts_served (change : String → String) (status : Int) (size : Nat) :
    (record.mapTexts change).served status size = (record.served status size).mapTexts change := by
  rw [served, served, apply_ite (mapTexts change)]
  rfl

theorem texts_served (record : Metadata) (status : Int) (size : Nat) :
    (record.served status size).texts = record.texts := by
  rw [served]
  split <;> rfl

theorem Valid.served (valid : record.Valid) (status : Int) {size : Nat} (fits : size ≤ maxLength) :
    (record.served status size).Valid := by
  rw [Metadata.served]
  split
  · refine ⟨?_, valid.digest⟩
    rintro length ⟨⟩
    exact ⟨size, rfl, fits⟩
  · exact ⟨valid.length, valid.digest⟩

theorem texts_mapTexts (change : String → String) :
    (record.mapTexts change).texts = record.texts.map change := by
  rw [texts, texts, List.map_filterMap]
  rfl

/-- A text that the change does not keep is a difference between the records. -/
theorem eq_of_agrees_mapTexts {change : String → String}
    (agrees : (record.mapTexts change).Agrees record) {text : String} (mem : text ∈ record.texts) :
    change text = text := by
  obtain ⟨mediaType, disposition, coding, language, -, -, -⟩ := agrees
  have same : record.texts.map change = record.texts.map id := by
    rw [← texts_mapTexts, List.map_id, texts, texts, mediaType, disposition, coding, language]
  exact List.map_inj_left.mp same text mem

/-! ## The headers of a response -/

theorem ascii_names_sentHeaders (written : record.toHeaders profile = .ok headers) (status : Int)
    (size : Nat) :
    ∀ header ∈ record.sentHeaders status size headers,
      ∀ c ∈ header.name.toList, c.toNat < 128 := by
  intro header mem
  obtain ⟨field, same⟩ := exists_field_of_mem_sentHeaders written mem
  rw [← same]
  exact Text.isAscii_iff.mp field.isAscii_name

theorem mem_texts_of_sentHeaders (http : profile.dates = .http)
    (written : record.toHeaders profile = .ok headers) {status : Int} {size : Nat}
    {header : Header} (mem : header ∈ record.sentHeaders status size headers)
    (accented : ¬ IsAscii header.value.toList) : header.value ∈ record.texts := by
  rcases mem_or_eq_of_mem_sentHeaders mem with own | rfl
  · exact (text_of_accented http written own accented).1
  · exact absurd (isAscii_lengthField size) accented

theorem map_mapValue_sentHeaders {change : String → String}
    (ascii : ∀ value, IsAscii value.toList → change value = value) (status : Int) (size : Nat) :
    (record.sentHeaders status size headers).map (Header.mapValue change) =
      (record.mapTexts change).sentHeaders status size (headers.map (Header.mapValue change)) := by
  have kept : (lengthField size).mapValue change = lengthField size := by
    rw [Header.mapValue, ascii _ (isAscii_lengthField size)]
  rw [sentHeaders, sentHeaders, List.map_append]
  congr 1
  rw [apply_ite (List.map (Header.mapValue change)), List.map_singleton, kept]
  rfl

/-! ## What a client reads -/

section Sent

variable {sent : List Header}

/-- The names of a response are in small letters already. -/
theorem ofClientOctets_raw
    (names : ∀ header ∈ sent, ∀ c ∈ header.name.toList, c.toNat < 128) :
    ofClientOctets profile (sent.map Header.lowerRaw) =
      applyHeaders profile (RawHeader.readAll (sent.map Header.lowerRaw)) {} := by
  have small : (sent.map Header.lowerRaw).map RawHeader.lowerName = sent.map Header.lowerRaw := by
    rw [List.map_map]
    apply List.map_congr_left
    intro header mem
    exact Header.lowerName_lowerRaw (names header mem)
  rw [ofClientOctets, read, decode, Collection.flatten, small]

theorem ofClientOctets_of_not_utf8 (latin1 : ∀ header ∈ sent, header.Within .latin1)
    (names : ∀ header ∈ sent, ∀ c ∈ header.name.toList, c.toNat < 128)
    (broken : ∃ header ∈ sent, ¬ IsUtf8 header.raw.value) :
    ofClientOctets profile (sent.map Header.lowerRaw) =
      ofServer profile (sent.map Header.lowerRaw) := by
  have small := Header.forall_within_lowerName latin1
  have among : ∃ header ∈ sent.map Header.lowerName, ¬ IsUtf8 header.raw.value := by
    obtain ⟨header, mem, other⟩ := broken
    exact ⟨header.lowerName, List.mem_map_of_mem mem, other⟩
  have kept := Header.readAll_of_not_utf8 small among
  rw [ofClientOctets_raw names, ofServer_raw latin1, Header.map_lowerRaw, kept]
  exact applyHeaders_map_of_alike profile {} fun header mem => (latin1 header mem).alike_lowerName

theorem ofClientOctets_of_utf8
    (names : ∀ header ∈ sent, ∀ c ∈ header.name.toList, c.toNat < 128)
    (utf8 : ∀ header ∈ sent, IsUtf8 header.raw.value) :
    ofClientOctets profile (sent.map Header.lowerRaw) =
      applyHeaders profile (sent.map (Header.mapValue reread)) {} := by
  have lowered : ∀ header ∈ sent.map Header.lowerName,
      ∀ c ∈ header.name.toList, c.toNat < Charset.ascii.size := by
    intro header mem
    obtain ⟨capital, held, rfl⟩ := List.mem_map.mp mem
    exact Header.lowerName_lt (names capital held)
  have among : ∀ header ∈ sent.map Header.lowerName, IsUtf8 header.raw.value := by
    intro header mem
    obtain ⟨capital, held, rfl⟩ := List.mem_map.mp mem
    exact utf8 capital held
  have changed := Header.readAll_of_utf8 lowered among
  -- it is the same whether the names or the values are changed first
  have order : (sent.map Header.lowerName).map (Header.mapValue reread) =
      (sent.map (Header.mapValue reread)).map Header.lowerName := by
    rw [List.map_map, List.map_map]
    rfl
  rw [ofClientOctets_raw names, Header.map_lowerRaw, changed, order]
  apply applyHeaders_map_of_alike
  intro header mem
  obtain ⟨old, held, rfl⟩ := List.mem_map.mp mem
  exact Header.alike_lowerName (Text.latin1_of_ascii (names old held))

/-- Octets of ASCII are the same text to both, and so are octets that a client does not
    take for UTF-8. -/
theorem ofClientOctets_eq_ofServer (profile : Profile)
    (latin1 : ∀ header ∈ sent, header.Within .latin1)
    (names : ∀ header ∈ sent, ∀ c ∈ header.name.toList, c.toNat < 128)
    (plain : (∀ header ∈ sent, IsAscii header.value.toList) ∨
      ∃ header ∈ sent, ¬ IsUtf8 header.raw.value) :
    ofClientOctets profile (sent.map Header.lowerRaw) =
      ofServer profile (sent.map Header.lowerRaw) := by
  rcases plain with ascii | broken
  · have utf8 : ∀ header ∈ sent, IsUtf8 header.raw.value := by
      intro header mem
      have value := Text.isAscii_iff.mp (ascii header mem)
      exact Text.Utf8.isUtf8_iff.mpr ⟨_, Text.Utf8.decode?_octets value⟩
    have kept : sent.map (Header.mapValue reread) = sent.map id := by
      apply List.map_congr_left
      intro header mem
      rw [Header.mapValue, reread_of_ascii (ascii header mem)]
      rfl
    rw [ofClientOctets_of_utf8 names utf8, kept, List.map_id, ofServer_raw latin1]
  · exact ofClientOctets_of_not_utf8 latin1 names broken

end Sent

theorem ofClientOctets_sentHeaders (http : profile.dates = .http) (valid : record.Valid)
    (written : record.toHeaders profile = .ok headers) (status : Int) {size : Nat}
    (fits : size ≤ maxLength)
    (utf8 : ∀ header ∈ record.sentHeaders status size headers, IsUtf8 header.raw.value) :
    ofClientOctets profile ((record.sentHeaders status size headers).map Header.lowerRaw) =
      { record := (record.served status size).mapTexts reread, notes := [], fault := none } := by
  have names := ascii_names_sentHeaders written status size
  have ascii : ∀ value, IsAscii value.toList → reread value = value := fun _ => reread_of_ascii
  have changed := headersOf_mapTexts http ascii written
  rw [ofClientOctets_of_utf8 names utf8, map_mapValue_sentHeaders ascii,
    applyHeaders_sentHeaders http (valid.mapTexts reread) changed status fits, mapTexts_served]

/-- A text beyond ASCII that is taken for UTF-8 is not the text of the record any more. -/
theorem ascii_or_not_utf8_of_agrees (http : profile.dates = .http) (valid : record.Valid)
    (latin1 : record.TextsWithin .latin1) (written : record.toHeaders profile = .ok headers)
    (status : Int) {size : Nat} (fits : size ≤ maxLength)
    (agrees : (ofClientOctets profile
        ((record.sentHeaders status size headers).map Header.lowerRaw)).record.Agrees
      (ofServer profile ((record.sentHeaders status size headers).map Header.lowerRaw)).record) :
    (∀ header ∈ record.sentHeaders status size headers, IsAscii header.value.toList) ∨
      ∃ header ∈ record.sentHeaders status size headers, ¬ IsUtf8 header.raw.value := by
  by_contra neither
  obtain ⟨accented, utf8⟩ := not_or.mp neither
  push Not at accented utf8
  obtain ⟨header, mem, beyond⟩ := accented
  rw [ofClientOctets_sentHeaders http valid written status fits utf8,
    ofServer_sentHeaders http valid latin1 written status fits] at agrees
  have text := mem_texts_of_sentHeaders http written mem beyond
  have same := eq_of_agrees_mapTexts agrees (texts_served record status size ▸ text)
  exact reread_ne (latin1 header.value text) (utf8 header mem) beyond same

theorem asciiOrNotUtf8_lowerRaw_iff {sent : List Header}
    (latin1 : ∀ header ∈ sent, header.Within .latin1) :
    RawHeader.AsciiOrNotUtf8 (sent.map Header.lowerRaw) ↔
      (∀ header ∈ sent, IsAscii header.value.toList) ∨
        ∃ header ∈ sent, ¬ IsUtf8 header.raw.value := by
  rw [RawHeader.AsciiOrNotUtf8, List.forall_mem_map]
  apply or_congr
  · exact forall₂_congr fun header mem => (Text.isAscii_iff_octets (latin1 header mem).value).symm
  · simp only [List.mem_map, exists_exists_and_eq_and]
    rfl

theorem clientHeaders_read_back (http : profile.dates = .http) (ascii : record.TextsWithin .ascii)
    (written : record.toHeaders profile = .ok headers) :
    ∃ raws, record.clientHeaders profile = .ok raws ∧
      ofClient profile (raws.map RawHeader.latin1) = read profile (.ofHeaders headers) ∧
      ofClientOctets profile raws = read profile (.ofHeaders headers) := by
  have within := within_toHeaders http ascii written
  refine ⟨headers.map Header.raw, ?_, ?_, ?_⟩
  · rw [clientHeaders, written]
    exact Header.encodeAll_of_within within
  · rw [Header.map_latin1_raw fun header mem => (within header mem).latin1]
    exact decode_eq_ofHeaders_of_lowerName {} within (Collection.flatten_clientText within)
  · exact decode_eq_ofHeaders_of_lowerName {} within (Collection.flatten_clientOctets within)

/-- A client gets a record of ASCII back from its headers as a server would, whether they come
    as texts or as octets.  Of a response with Latin-1 texts it reads what a server reads
    exactly if all values are ASCII, or some value is not UTF-8; otherwise the records differ,
    as one of the texts has turned into another. -/
theorem ofClientOctets_eq_ofServer_iff {fields : Metadata} (made : fields.checked = .ok record)
    (http : profile.dates = .http) :
    (record.TextsWithin .ascii →
      ∃ headers raws,
        record.toHeaders profile = .ok headers ∧ record.clientHeaders profile = .ok raws ∧
        (read profile (.ofHeaders headers)).fault = none ∧
        ofClient profile (raws.map RawHeader.latin1) = read profile (.ofHeaders headers) ∧
        ofClientOctets profile raws = read profile (.ofHeaders headers)) ∧
    (record.TextsWithin .latin1 → ∀ (status : Int) (body : List UInt8), body.length ≤ maxLength →
      ∃ response,
        record.response profile status body = .ok response ∧
        (ofClientOctets profile response.headers).fault = none ∧
        (ofServer profile response.headers).fault = none ∧
        (ofClientOctets profile response.headers = ofServer profile response.headers ↔
          RawHeader.AsciiOrNotUtf8 response.headers) ∧
        ((ofClientOctets profile response.headers).record.Agrees
            (ofServer profile response.headers).record ↔
          RawHeader.AsciiOrNotUtf8 response.headers)) := by
  have valid := valid_of_checked made
  obtain ⟨headers, written, laid⟩ := applyHeaders_toHeaders http valid
  constructor
  · intro ascii
    obtain ⟨raws, sent, texts, octets⟩ := clientHeaders_read_back http ascii written
    refine ⟨headers, raws, written, sent, ?_, texts, octets⟩
    rw [read, decode_ofHeaders, laid]
  · intro latin1 status body fits
    have own := within_toHeaders http latin1 written
    have within := within_sentHeaders record own status body.length
    have names := ascii_names_sentHeaders written status body.length
    have server := ofServer_sentHeaders http valid latin1 written status fits
    have alike := asciiOrNotUtf8_lowerRaw_iff within
    have same := ofClientOctets_eq_ofServer profile within names
    have only := ascii_or_not_utf8_of_agrees http valid latin1 written status fits
    have reflexive := (valid.served status fits).agrees_self
    refine ⟨_, response_eq http latin1 written status body, ?_, ?_, ?_, ?_⟩
    · dsimp only
      by_cases utf8 : ∀ header ∈ record.sentHeaders status body.length headers,
          IsUtf8 header.raw.value
      · rw [ofClientOctets_sentHeaders http valid written status fits utf8]
      · push Not at utf8
        rw [same (.inr utf8), server]
    · dsimp only
      rw [server]
    · dsimp only
      rw [alike]
      refine ⟨fun equal => only ?_, same⟩
      rwa [equal, server]
    · dsimp only
      rw [alike]
      refine ⟨only, fun plain => ?_⟩
      rwa [same plain, server]

/-- A text whose octets are UTF-8 of another text. -/
def misreadFields : Metadata where
  language := some "Ã©"

/-- Beside them an octet that is no UTF-8 keeps the text. -/
theorem ofClientOctets_eq_ofServer_iff_misread :
    (∃ record response, misreadFields.checked = .ok record ∧
      record.response {} 204 [] = .ok response ∧
      (ofClientOctets {} response.headers).record.language = some "é" ∧
      ¬ (ofClientOctets {} response.headers).record.Agrees
        (ofServer {} response.headers).record) ∧
    ∃ record response, { misreadFields with coding := some "é" }.checked = .ok record ∧
      record.response {} 204 [] = .ok response ∧
      ofClientOctets {} response.headers = ofServer {} response.headers := by
  have http : ({} : Profile).dates = .http := rfl
  constructor
  · have made : misreadFields.checked = .ok misreadFields := rfl
    have latin1 : misreadFields.TextsWithin .latin1 := by decide
    obtain ⟨response, answered, -, -, -, agrees⟩ :=
      (ofClientOctets_eq_ofServer_iff made http).2 latin1 204 [] (by decide)
    have sent : misreadFields.response {} 204 [] =
        .ok ⟨204, [], [⟨Field.language.rawName, [0xC3, 0xA9]⟩]⟩ := by decide +kernel
    obtain rfl := Except.ok.inj (sent.symm.trans answered)
    refine ⟨_, _, made, answered, by decide +kernel, ?_⟩
    rw [agrees]
    decide
  · have made : { misreadFields with coding := some "é" }.checked =
        .ok { misreadFields with coding := some "é" } := rfl
    have latin1 : { misreadFields with coding := some "é" }.TextsWithin .latin1 := by decide
    obtain ⟨response, answered, -, -, equal, -⟩ :=
      (ofClientOctets_eq_ofServer_iff made http).2 latin1 204 [] (by decide)
    have sent : { misreadFields with coding := some "é" }.response {} 204 [] =
        .ok ⟨204, [], [⟨Field.coding.rawName, [0xE9]⟩,
          ⟨Field.language.rawName, [0xC3, 0xA9]⟩]⟩ := by
      decide +kernel
    obtain rfl := Except.ok.inj (sent.symm.trans answered)
    refine ⟨_, _, made, answered, ?_⟩
    rw [equal]
    decide

end Metadata

end EntityHeaders
