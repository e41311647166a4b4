import EntityHeaders.Proofs.Reading

/-! # What decoding does

The two outcomes of applying a collection of headers to a record.

* `decode_last_counts` — if every header can be read, the last one of each name counts
  and nothing else of the list does.
* `decode_stops_at_first_unreadable` — otherwise the record is left as the headers before
  the first bad one make it, under what the whole list says about chunks.

The list that a collection stands for may itself be missing, by `flatten_eq_error_iff`
exactly if a row is no pair or a text of the collection cannot be encoded.
-/

namespace EntityHeaders

open Fallible (bind_eq_error_iff)
open Text (IsAscii)

/-! ## Collections without a list -/

/-- A collection that stands for no list: its first row that is not a pair, or a text for
    which a client or a server has no octets. -/
inductive Collection.Unflattened : Collection → Fault → Prop where
  | row {before after : List (List String)} {row : List String} :
      (∀ pair ∈ before, pair.length = 2) → row.length ≠ 2 →
      Unflattened (.rows (before ++ row :: after)) (.notAPair row.length)
  | clientText {headers : List Header} {fault : Fault} :
      Header.encodeAll .ascii headers = .error fault → Unflattened (.clientText headers) fault
  | serverKeyed {headers : List Header} {fault : Fault} :
      Header.encodeAll .latin1 ((keyHeaders headers).map Header.lowerName) = .error fault →
      Unflattened (.serverKeyed headers) fault

theorem headerOfRow_of_pair {row : List String} (pair : row.length = 2) :
    ∃ header, headerOfRow row = .ok header := by
  match row, pair with
  | [name, value], _ => exact ⟨_, rfl⟩

theorem headerOfRow_of_odd {row : List String} (odd : row.length ≠ 2) :
    headerOfRow row = .error (.notAPair row.length) := by
  unfold headerOfRow
  split
  · simp at odd
  · rfl

/-- The first row that is not a pair is the one reported. -/
theorem mapM_headerOfRow_eq_error_iff {items : List (List String)} {fault : Fault} :
    items.mapM headerOfRow = .error fault ↔
      ∃ before row after, items = before ++ row :: after ∧ (∀ pair ∈ before, pair.length = 2) ∧
        row.length ≠ 2 ∧ fault = .notAPair row.length := by
  constructor
  · intro failed
    induction items with
    | nil => cases failed
    | cons first rest ih =>
      by_cases pair : first.length = 2
      · -- the fault lies further on, and so does the row that it names
        obtain ⟨header, made⟩ := headerOfRow_of_pair pair
        have later : rest.mapM headerOfRow = .error fault := by
          simpa [List.mapM_cons, made, bind_eq_error_iff] using failed
        obtain ⟨before, row, after, rfl, pairs, odd, named⟩ := ih later
        exact ⟨first :: before, row, after, rfl, by simpa [pair] using pairs, odd, named⟩
      · simp [List.mapM_cons, headerOfRow_of_odd pair] at failed
        exact ⟨[], first, rest, rfl, by simp, pair, failed.symm⟩
  · rintro ⟨before, row, after, rfl, pairs, odd, rfl⟩
    induction before with
    | nil => simp [List.mapM_cons, headerOfRow_of_odd odd]
    | cons first rest ih =>
      obtain ⟨header, made⟩ := headerOfRow_of_pair (pairs first (by simp))
      have later := ih fun pair mem => pairs pair (by simp [mem])
      simp only [List.cons_append, List.mapM_cons, made, later]
      rfl

theorem flatten_eq_error_iff {collection : Collection} {fault : Fault} :
    collection.flatten = .error fault ↔ collection.Unflattened fault := by
  constructor
  · intro failed
    cases collection with
    | rows items =>
      obtain ⟨before, row, after, rfl, pairs, odd, rfl⟩ :=
        mapM_headerOfRow_eq_error_iff.mp failed
      exact .row pairs odd
    | clientText headers =>
      have encoded : Header.encodeAll .ascii headers = .error fault := by
        simpa [Collection.flatten, bind_eq_error_iff] using failed
      exact .clientText encoded
    | serverKeyed headers =>
      have encoded : Header.encodeAll .latin1 ((keyHeaders headers).map Header.lowerName) =
          .error fault := by
        simpa [Collection.flatten, bind_eq_error_iff] using failed
      exact .serverKeyed encoded
    | keyed | repeatable | clientOctets | serverOctets => simp [Collection.flatten] at failed
  · intro unflattened
    cases unflattened with
    | row pairs odd =>
      exact mapM_headerOfRow_eq_error_iff.mpr ⟨_, _, _, rfl, pairs, odd, rfl⟩
    | clientText failed => simp [Collection.flatten, failed]
    | serverKeyed failed => simp [Collection.flatten, failed]

namespace Metadata

theorem decode_of_flatten {profile : Profile} {collection : Collection} {headers : List Header}
    (flat : collection.flatten = .ok headers) (target : Metadata) :
    target.decode profile collection =
      target.applyAll profile (isChunked headers) headers := by
  simp [decode, flat, applyHeaders]

theorem decode_of_unflattened {profile : Profile} {collection : Collection} {fault : Fault}
    (unflattened : collection.Unflattened fault) (target : Metadata) :
    target.decode profile collection = { record := target, notes := [], fault := some fault } := by
  simp [decode, flatten_eq_error_iff.mpr unflattened]

/-! ## Every header can be read -/

theorem readable_of_values {profile : Profile} {chunked : Bool} {headers : List Header}
    (lengths : chunked = true ∨
      ∀ value ∈ valuesOf Field.length.name headers, ∃ n, readLength value = .ok n)
    (digests : ∀ value ∈ valuesOf Field.digest.name headers, ∃ data, readDigest value = .ok data)
    (dates : ∀ value ∈ valuesOf Field.expires.name headers, ∀ failure,
      profile.dates.read value = .error failure → ∃ reason, failure = .rejected reason) :
    ∀ header ∈ headers, header.Readable profile chunked := by
  intro header mem fault unreadable
  cases unreadable with
  | length same whole failed =>
    rcases lengths with chunks | lengths
    · simp [whole] at chunks
    · obtain ⟨n, read⟩ := lengths _ (mem_valuesOf.mpr ⟨header, mem, same, rfl⟩)
      cases read.symm.trans failed
  | digest same failed =>
    obtain ⟨data, read⟩ := digests _ (mem_valuesOf.mpr ⟨header, mem, same, rfl⟩)
    cases read.symm.trans failed
  | expires same failed escapes =>
    obtain ⟨reason, rfl⟩ := dates _ (mem_valuesOf.mpr ⟨header, mem, same, rfl⟩) _ failed
    cases escapes

/-- If all lengths that count and all digests can be read and the date format does no worse
    than reject a text, decoding succeeds, and each field is as the last header of its name
    says or as it was.  Another list with the same values under each name, whatever else it
    holds and in whatever order, makes the same record. -/
theorem decode_last_counts (profile : Profile) (headers : List Header) (target : Metadata)
    (lengths : isChunked headers = true ∨
      ∀ value ∈ valuesOf Field.length.name headers, ∃ n, readLength value = .ok n)
    (digests : ∀ value ∈ valuesOf Field.digest.name headers, ∃ data, readDigest value = .ok data)
    (dates : ∀ value ∈ valuesOf Field.expires.name headers, ∀ failure,
      profile.dates.read value = .error failure → ∃ reason, failure = .rejected reason) :
    (target.decode profile (.ofHeaders headers)).fault = none ∧
      Superseded profile (isChunked headers) headers target
        (target.decode profile (.ofHeaders headers)).record ∧
      ∀ others : List Header,
        (∀ field : Field, valuesOf field.name others = valuesOf field.name headers) →
        valuesOf transferEncoding others = valuesOf transferEncoding headers →
        (target.decode profile (.ofHeaders others)).fault = none ∧
          (target.decode profile (.ofHeaders others)).record =
            (target.decode profile (.ofHeaders headers)).record := by
  have run := applyAll_of_readable target (readable_of_values lengths digests dates)
  simp only [decode_ofHeaders, applyHeaders]
  refine ⟨run.1, run.2, ?_⟩
  intro others values encodings
  have chunks : isChunked others = isChunked headers := by
    rw [isChunked_eq_any, isChunked_eq_any, encodings]
  have reads : ∀ header ∈ others, header.Readable profile (isChunked headers) :=
    readable_of_values (values .length ▸ lengths) (values .digest ▸ digests)
      (values .expires ▸ dates)
  -- both records are what the values under each name make of the target
  have again := applyAll_of_readable target reads
  rw [chunks]
  exact ⟨again.1, (run.2.unique again.2 values).symm⟩

/-- A body in chunks, whose headers name the fields in mixed letters and repeatedly. -/
def repeatedHeaders : List Header :=
  [⟨"content-LENGTH", "many"⟩, ⟨"Content-MD5", "AAAA"⟩, ⟨"EXPIRES", "soon"⟩,
    ⟨"Content-Type", "text/plain"⟩, ⟨"Server", "none"⟩, ⟨"content-md5", " AQ== "⟩,
    ⟨"TRANSFER-encoding", " Chunked "⟩, ⟨"content-type", ""⟩]

theorem decode_last_counts_repeated :
    ∃ decoded, decode {} (.ofHeaders repeatedHeaders) { length := some (.whole 7) } = decoded ∧
      isChunked repeatedHeaders = true ∧
      valuesOf Field.digest.name repeatedHeaders = ["AAAA", " AQ== "] ∧
      valuesOf Field.expires.name repeatedHeaders = ["soon"] ∧
      decoded.fault = none ∧ decoded.record.mediaType = some "" ∧
      decoded.record.digest = some (.ofOctets [1]) ∧
      decoded.record.length = some (.whole 7) := by
  have ascii : ∀ header ∈ repeatedHeaders, IsAscii header.name.toList := by decide
  have chunks : isChunked repeatedHeaders = true := by
    rw [isChunked_eq_any, valuesOf_of_ascii (by decide) ascii]
    decide +kernel
  have types : valuesOf Field.mediaType.name repeatedHeaders = ["text/plain", ""] := by
    rw [valuesOf_of_ascii (by decide) ascii]
    decide
  have digests : valuesOf Field.digest.name repeatedHeaders = ["AAAA", " AQ== "] := by
    rw [valuesOf_of_ascii (by decide) ascii]
    decide
  have dates : valuesOf Field.expires.name repeatedHeaders = ["soon"] := by
    rw [valuesOf_of_ascii (by decide) ascii]
    decide
  have first : readDigest "AAAA" = .ok [0, 0, 0] := by rfl
  have last : readDigest " AQ== " = .ok [1] := by rfl
  have read : ∀ value ∈ valuesOf Field.digest.name repeatedHeaders,
      ∃ data, readDigest value = .ok data := by
    intro value mem
    rw [digests] at mem
    have listed : value = "AAAA" ∨ value = " AQ== " := by simpa using mem
    rcases listed with rfl | rfl
    · exact ⟨_, first⟩
    · exact ⟨_, last⟩
  obtain ⟨reached, superseded, -⟩ :=
    decode_last_counts {} repeatedHeaders { length := some (.whole 7) } (.inl chunks) read
      fun value _ failure => http_rejects
  generalize decode {} (.ofHeaders repeatedHeaders) _ = decoded at reached superseded
  have typed := superseded.mediaType.last "" (by rw [types]; rfl)
  have sized := superseded.length.kept (by rw [chunks]; rfl)
  obtain ⟨data, again, digested⟩ := superseded.digest.last " AQ== " (by rw [digests]; rfl)
  cases last.symm.trans again
  exact ⟨decoded, rfl, chunks, digests, dates, reached, typed, digested, sized⟩

/-! ## Some header cannot be read -/

/-- Decoding fails if the collection has no list, and then the record is left alone, or if a
    header cannot be read.  Then the fault is that of the first such header, and the headers
    before it have been applied, with or without their lengths as the whole list says. -/
theorem decode_stops_at_first_unreadable (profile : Profile) (collection : Collection)
    (target : Metadata) :
    ((target.decode profile collection).fault ≠ none ↔
      (∃ fault, collection.Unflattened fault) ∨
        ∃ headers, collection.flatten = .ok headers ∧
          ∃ header ∈ headers, ∃ fault, header.Unreadable profile (isChunked headers) fault) ∧
    (∀ fault, collection.Unflattened fault →
      target.decode profile collection = { record := target, notes := [], fault := some fault }) ∧
    ∀ headers, collection.flatten = .ok headers → (target.decode profile collection).fault ≠ none →
      ∃ before bad after fault, headers = before ++ bad :: after ∧
        (∀ header ∈ before, header.Readable profile (isChunked headers)) ∧
        bad.Unreadable profile (isChunked headers) fault ∧
        (target.decode profile collection).fault = some fault ∧
        (target.decode profile collection).record =
          (target.applyAll profile (isChunked headers) before).record ∧
        Superseded profile (isChunked headers) before target
          (target.decode profile collection).record := by
  have stops : ∀ headers, collection.flatten = .ok headers →
      (∃ header ∈ headers, ¬ header.Readable profile (isChunked headers)) →
      ∃ before bad after fault, headers = before ++ bad :: after ∧
        (∀ header ∈ before, header.Readable profile (isChunked headers)) ∧
        bad.Unreadable profile (isChunked headers) fault ∧
        target.decode profile collection =
          { target.applyAll profile (isChunked headers) before with fault := some fault } := by
    intro headers flat unread
    obtain ⟨before, bad, after, fault, split, readable, unreadable⟩ :=
      exists_first_unreadable unread
    refine ⟨before, bad, after, fault, split, readable, unreadable, ?_⟩
    rw [decode_of_flatten flat]
    -- the flag is that of the whole list and must not be cut with it
    generalize isChunked headers = chunked at *
    rw [split, applyAll_of_unreadable target readable unreadable]
  have reads : ∀ headers, collection.flatten = .ok headers →
      (target.decode profile collection).fault ≠ none →
      ∃ header ∈ headers, ¬ header.Readable profile (isChunked headers) := by
    intro headers flat failed
    apply Classical.byContradiction
    intro none
    apply failed
    rw [decode_of_flatten flat]
    refine (applyAll_of_readable target ?_).1
    intro header mem fault unreadable
    exact none ⟨header, mem, fun readable => readable fault unreadable⟩
  refine ⟨⟨?_, ?_⟩, fun fault unflattened => decode_of_unflattened unflattened target, ?_⟩
  · intro failed
    cases flat : collection.flatten with
    | error fault => exact .inl ⟨fault, flatten_eq_error_iff.mp flat⟩
    | ok headers =>
      obtain ⟨header, mem, unread⟩ := reads headers flat failed
      exact .inr ⟨headers, rfl, header, mem, by simpa [Header.Readable] using unread⟩
  · rintro (⟨fault, unflattened⟩ | ⟨headers, flat, header, mem, fault, unreadable⟩)
    · simp [decode_of_unflattened unflattened]
    · obtain ⟨_, _, _, _, _, _, _, stopped⟩ :=
        stops headers flat ⟨header, mem, fun readable => readable fault unreadable⟩
      simp [stopped]
  · intro headers flat failed
    obtain ⟨before, bad, after, fault, split, readable, unreadable, stopped⟩ :=
      stops headers flat (reads headers flat failed)
    refine ⟨before, bad, after, fault, split, readable, unreadable, ?_⟩
    rw [stopped]
    exact ⟨rfl, rfl, (applyAll_of_readable target readable).2⟩

end Metadata

end EntityHeaders
