import EntityHeaders.Proofs.Validity
import EntityHeaders.Proofs.Wire

/-! # The headers of a record

* `names_headersOf` — the headers are those of the fields that have a value, in the order of
  the fields, so no name is repeated (`nodup_names_toHeaders`).
* `names_within`, `text_of_accented` — of their names and values only the four texts can hold
  anything but ASCII.
* `headersOf_mapTexts` — a change of these texts is the same change of the headers.
-/

namespace EntityHeaders

open Fallible (bind_eq_ok_iff mapM_eq_ok_iff)
open Text (Charset IsAscii)

/-! ## ASCII values -/

namespace Text

theorem isAscii_of_digits {text : List Char} (digits : text.all Char.isDigit) :
    IsAscii text := by
  apply isAscii_iff.mpr
  intro c mem
  have range := toNat_of_isDigit (List.all_eq_true.mp digits c mem)
  omega

theorem isAscii_of_letters {text : List Char} (letters : text.all Char.isAlpha) :
    IsAscii text := by
  apply isAscii_iff.mpr
  intro c mem
  have range := toNat_of_isAlpha (List.all_eq_true.mp letters c mem)
  omega

theorem isAscii_append_iff {left right : List Char} :
    IsAscii (left ++ right) ↔ IsAscii left ∧ IsAscii right := by
  simp only [IsAscii, List.all_append, Bool.and_eq_true]

theorem isAscii_decimal (n : Nat) : IsAscii (decimal n) :=
  isAscii_of_digits (List.all_eq_true.mpr fun _ mem => isDigit_of_mem_decimal mem)

theorem Charset.lt_size_of_ascii (charset : Charset) {text : List Char} (ascii : IsAscii text) :
    ∀ c ∈ text, c.toNat < charset.size := by
  intro c mem
  have below := isAscii_iff.mp ascii c mem
  cases charset <;> simp only [size] <;> omega

end Text

theorem Base64.isAscii_encode (data : List UInt8) : IsAscii (encode data) := by
  have small : ∀ {n : Nat}, n < 64 → (digit n).toNat < 128 := by decide
  apply Text.isAscii_iff.mpr
  intro c mem
  simp only [encode, List.mem_append, List.mem_map, List.mem_replicate] at mem
  rcases mem with ⟨n, sextet, rfl⟩ | ⟨_, rfl⟩
  · exact small (lt_of_mem_sextets sextet)
  · decide

theorem HttpDate.isAscii_text {parts : Parts} (formed : parts.WellFormed) :
    IsAscii parts.text := by
  have weekday := Text.isAscii_of_letters formed.weekday.2
  have day := Text.isAscii_of_digits formed.day.2
  have month := Text.isAscii_of_letters formed.month.2
  have year := Text.isAscii_of_digits formed.year.2
  have hour := Text.isAscii_of_digits formed.hour.2
  have minute := Text.isAscii_of_digits formed.minute.2
  have second := Text.isAscii_of_digits formed.second.2
  simp only [Parts.text, Text.isAscii_append_iff, weekday, day, month, year, hour, minute, second,
    true_and, and_true]
  decide

theorem HttpDate.isAscii_format (t : Calendar.Timestamp) : IsAscii (format t) :=
  isAscii_text (wellFormed_ofDateTime t.toUtc.date t.toUtc.time)

namespace Field

theorem isAscii_name (field : Field) : IsAscii field.name.toList := by
  cases field <;> decide

/-- Whether the value of the field is a text, which is written as it stands. -/
def isText : Field → Bool
  | .mediaType | .disposition | .coding | .language => true
  | .length | .digest | .expires => false

end Field

namespace Metadata

variable {profile : Profile} {record : Metadata} {headers : List Header}

/-! ## Fields that have a value -/

def has (record : Metadata) : Field → Bool
  | .mediaType => record.mediaType.isSome
  | .disposition => record.disposition.isSome
  | .coding => record.coding.isSome
  | .language => record.language.isSome
  | .length => record.length.isSome
  | .digest => record.digest.isSome
  | .expires => record.expires.isSome

theorem isSome_fieldText {field : Field} {text : Option String}
    (written : record.fieldText profile field = .ok text) : text.isSome = record.has field := by
  cases field with
  | mediaType | disposition | coding | language =>
    cases written
    rfl
  | length | digest | expires =>
    rcases mapM_eq_ok_iff.mp written with ⟨absent, rfl⟩ | ⟨held, value, present, -, rfl⟩
    · simp [has, absent]
    · simp [has, present]

theorem headersOf_cons_eq_ok_iff {field : Field} {rest : List Field} {headers : List Header} :
    record.headersOf profile (field :: rest) = .ok headers ↔
      ∃ text later, record.fieldText profile field = .ok text ∧
        record.headersOf profile rest = .ok later ∧
        headers = (text.map fun value => { name := field.name, value }).toList ++ later := by
  simp only [headersOf, bind_eq_ok_iff]
  constructor
  · rintro ⟨text, written, later, others, made⟩
    exact ⟨text, later, written, others, (Except.ok.inj made).symm⟩
  · rintro ⟨text, later, written, others, rfl⟩
    exact ⟨text, written, later, others, rfl⟩

/-- One header for each field that has a value, in the order of the fields. -/
theorem names_headersOf {fields : List Field} {headers : List Header}
    (written : record.headersOf profile fields = .ok headers) :
    headers.map Header.name = (fields.filter record.has).map Field.name := by
  induction fields generalizing headers with
  | nil =>
    cases written
    rfl
  | cons field rest ih =>
    obtain ⟨text, later, first, others, rfl⟩ := headersOf_cons_eq_ok_iff.mp written
    have present := isSome_fieldText first
    rw [List.map_append, ih others, List.filter_cons, ← present]
    cases text <;> rfl

theorem mem_headersOf {fields : List Field} {headers : List Header} {header : Header}
    (written : record.headersOf profile fields = .ok headers) (mem : header ∈ headers) :
    ∃ field ∈ fields, ∃ value, record.fieldText profile field = .ok (some value) ∧
      header = { name := field.name, value } := by
  induction fields generalizing headers with
  | nil =>
    cases written
    simp at mem
  | cons field rest ih =>
    obtain ⟨text, later, first, others, rfl⟩ := headersOf_cons_eq_ok_iff.mp written
    rcases List.mem_append.mp mem with own | mem
    · obtain ⟨value, rfl, rfl⟩ := by simpa using own
      exact ⟨field, by simp, value, first, rfl⟩
    · obtain ⟨other, held, value, text, rfl⟩ := ih others mem
      exact ⟨other, by simp [held], value, text, rfl⟩

theorem nodup_names_toHeaders {headers : List Header}
    (written : record.toHeaders profile = .ok headers) : (headers.map Header.name).Nodup := by
  rw [names_headersOf written]
  have distinct : (Field.all.map Field.name).Nodup := by decide
  exact (List.filter_sublist.map Field.name).nodup distinct

/-! ## Texts of a record -/

/-- The texts of the record, which are written as they stand. -/
def texts (record : Metadata) : List String :=
  [record.mediaType, record.disposition, record.coding, record.language].filterMap id

/-- The record with its texts changed. -/
def mapTexts (change : String → String) (record : Metadata) : Metadata where
  mediaType := record.mediaType.map change
  disposition := record.disposition.map change
  coding := record.coding.map change
  language := record.language.map change
  length := record.length
  digest := record.digest
  expires := record.expires

theorem isAscii_lengthText {length : Length} {text : String}
    (written : lengthText length = .ok text) : IsAscii text.toList := by
  obtain ⟨n, -, made⟩ := bind_eq_ok_iff.mp written
  obtain rfl := Except.ok.inj made
  rw [String.toList_ofList]
  exact Text.isAscii_decimal n

theorem isAscii_digestText {digest : Digest} {text : String}
    (written : digestText digest = .ok text) : IsAscii text.toList := by
  obtain ⟨data, encoded, made⟩ := bind_eq_ok_iff.mp written
  obtain rfl := Except.ok.inj made
  rw [String.toList_ofList]
  cases digest with
  | octets carrier octets =>
    obtain rfl := Except.ok.inj encoded
    exact Base64.isAscii_encode octets
  | numbers values => cases encoded

theorem isAscii_fieldText (http : profile.dates = .http) {field : Field} {value : String}
    (other : field.isText = false) (written : record.fieldText profile field = .ok (some value)) :
    IsAscii value.toList := by
  cases field with
  | mediaType | disposition | coding | language => cases other
  | length =>
    rcases mapM_eq_ok_iff.mp written with ⟨-, absent⟩ | ⟨length, text, -, text_ok, present⟩
    · cases absent
    · cases present
      exact isAscii_lengthText text_ok
  | digest =>
    rcases mapM_eq_ok_iff.mp written with ⟨-, absent⟩ | ⟨digest, text, -, text_ok, present⟩
    · cases absent
    · cases present
      exact isAscii_digestText text_ok
  | expires =>
    rcases mapM_eq_ok_iff.mp written with ⟨-, absent⟩ | ⟨t, text, -, text_ok, present⟩
    · cases absent
    · cases present
      rw [expiresText_http http] at text_ok
      obtain rfl := Except.ok.inj text_ok
      rw [String.toList_ofList]
      exact HttpDate.isAscii_format t

theorem mem_texts {field : Field} {value : String} (text : field.isText = true)
    (written : record.fieldText profile field = .ok (some value)) : value ∈ record.texts := by
  cases field with
  | mediaType | disposition | coding | language =>
    have held := Except.ok.inj written
    simp [texts, held]
  | length | digest | expires => cases text

/-- Every character of the texts belongs to the set. -/
def TextsWithin (charset : Charset) (record : Metadata) : Prop :=
  ∀ text ∈ record.texts, ∀ c ∈ text.toList, c.toNat < charset.size

theorem textsWithin_iff {charset : Charset} :
    record.TextsWithin charset ↔
      record.texts.all (fun text => text.toList.all charset.holds) = true := by
  simp [TextsWithin, Charset.holds]

instance (charset : Charset) (record : Metadata) : Decidable (record.TextsWithin charset) :=
  decidable_of_iff _ textsWithin_iff.symm

/-- The names of fields are ASCII. -/
theorem names_within (written : record.toHeaders profile = .ok headers) (charset : Charset) :
    ∀ header ∈ headers, ∀ c ∈ header.name.toList, c.toNat < charset.size := by
  intro header mem
  obtain ⟨field, -, value, -, rfl⟩ := mem_headersOf written mem
  exact charset.lt_size_of_ascii field.isAscii_name

/-- Under HTTP dates what is written beyond ASCII is a text of the record. -/
theorem text_of_accented (http : profile.dates = .http)
    (written : record.toHeaders profile = .ok headers) {header : Header} (mem : header ∈ headers)
    (accented : ¬ IsAscii header.value.toList) :
    header.value ∈ record.texts ∧ ∃ field : Field, field.isText = true ∧ header.name = field.name := by
  obtain ⟨field, -, value, text, rfl⟩ := mem_headersOf written mem
  cases kind : field.isText with
  | true => exact ⟨mem_texts kind text, field, kind, rfl⟩
  | false => exact absurd (isAscii_fieldText http kind text) accented

theorem within_toHeaders (http : profile.dates = .http) {charset : Charset}
    (within : record.TextsWithin charset) (written : record.toHeaders profile = .ok headers) :
    ∀ header ∈ headers, header.Within charset := by
  intro header mem
  refine ⟨names_within written charset header mem, ?_⟩
  by_cases ascii : IsAscii header.value.toList
  · exact charset.lt_size_of_ascii ascii
  · exact within header.value (text_of_accented http written mem ascii).1

/-! ## Records with other texts -/

theorem fieldText_mapTexts (http : profile.dates = .http) {change : String → String}
    (ascii : ∀ value, IsAscii value.toList → change value = value) {field : Field}
    {text : Option String} (written : record.fieldText profile field = .ok text) :
    (record.mapTexts change).fieldText profile field = .ok (text.map change) := by
  cases kind : field.isText with
  | true =>
    cases field with
    | mediaType | disposition | coding | language =>
      cases written
      rfl
    | length | digest | expires => cases kind
  | false =>
    have same : (record.mapTexts change).fieldText profile field =
        record.fieldText profile field := by
      cases field with
      | mediaType | disposition | coding | language => cases kind
      | length | digest | expires => rfl
    rw [same, written]
    cases text with
    | none => rfl
    | some value => rw [Option.map_some, ascii value (isAscii_fieldText http kind written)]

end Metadata

/-- The header with its value changed. -/
def Header.mapValue (change : String → String) (header : Header) : Header :=
  { header with value := change header.value }

namespace Metadata

/-- A change of texts that leaves ASCII alone is the same change of the headers. -/
theorem headersOf_mapTexts {profile : Profile} (http : profile.dates = .http)
    {change : String → String} (ascii : ∀ value, IsAscii value.toList → change value = value)
    {record : Metadata} {fields : List Field} {headers : List Header}
    (written : record.headersOf profile fields = .ok headers) :
    (record.mapTexts change).headersOf profile fields =
      .ok (headers.map (Header.mapValue change)) := by
  induction fields generalizing headers with
  | nil =>
    cases written
    rfl
  | cons field rest ih =>
    obtain ⟨text, later, first, others, rfl⟩ := headersOf_cons_eq_ok_iff.mp written
    refine headersOf_cons_eq_ok_iff.mpr
      ⟨_, _, fieldText_mapTexts http ascii first, ih others, ?_⟩
    cases text <;> rfl

theorem Valid.mapTexts {record : Metadata} (valid : record.Valid) (change : String → String) :
    (record.mapTexts change).Valid :=
  ⟨valid.length, valid.digest⟩

end Metadata

end EntityHeaders
