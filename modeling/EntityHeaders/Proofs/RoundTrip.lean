import EntityHeaders.Proofs.Validity
import EntityHeaders.Session

/-! # Records that are written and read back

The headers of a valid record, applied to any record, put the one over the other: its
fields where they have a value, and the fields below elsewhere (`overlay`).  Only of a
timestamp something is lost, what a date in UTC to the second does not tell.

* `applyAll_fieldText` — the step, one field written and read back;
* `applyAll_headersOf` — the run, by recursion over the fields as they are written;
* `decode_toHeaders_overlay` — the round trip, for a list of headers and for a transfer
  within a session;
* `toHeaders_read_stable` — what was read once is written and read without
  any loss.
-/

namespace EntityHeaders

open Calendar (Timestamp)

namespace Metadata

/-! ## One record over another -/

/-- What the headers of a record tell: its timestamp in UTC and to the second only. -/
def toSecond (record : Metadata) : Metadata :=
  { record with expires := record.expires.map Timestamp.toSecond }

def overlayField (upper lower : Metadata) : Field → Metadata
  | .mediaType => { lower with mediaType := upper.mediaType.or lower.mediaType }
  | .disposition => { lower with disposition := upper.disposition.or lower.disposition }
  | .coding => { lower with coding := upper.coding.or lower.coding }
  | .language => { lower with language := upper.language.or lower.language }
  | .length => { lower with length := upper.length.or lower.length }
  | .digest => { lower with digest := upper.digest.or lower.digest }
  | .expires => { lower with expires := upper.expires.or lower.expires }

/-- The fields of the upper record that have a value, and those of the lower elsewhere. -/
def overlay (upper lower : Metadata) : Metadata where
  mediaType := upper.mediaType.or lower.mediaType
  disposition := upper.disposition.or lower.disposition
  coding := upper.coding.or lower.coding
  language := upper.language.or lower.language
  length := upper.length.or lower.length
  digest := upper.digest.or lower.digest
  expires := upper.expires.or lower.expires

theorem foldl_overlayField (upper lower : Metadata) :
    Field.all.foldl upper.overlayField lower = upper.overlay lower :=
  rfl

@[simp]
theorem overlay_empty (record : Metadata) : record.overlay {} = record := by
  simp [overlay]

theorem toSecond_of_canonical {record : Metadata} (canonical : record.Canonical) :
    record.toSecond = record := by
  have whole := canonical.expires
  obtain ⟨mediaType, disposition, coding, language, length, digest, expires⟩ := record
  cases expires with
  | none => rfl
  | some t =>
    obtain ⟨utc, second⟩ := whole t rfl
    simp [toSecond, Timestamp.toSecond_of_whole utc second]

/-! ## Fields read back -/

theorem applyAll_single {profile : Profile} {chunked : Bool} {field : Field} {value : String}
    {assignment : Assignment}
    (result : field.effect profile chunked value = .ok { assignment := some assignment })
    (record : Metadata) :
    record.applyAll profile chunked [⟨field.name, value⟩] =
      { record := record.assign assignment, notes := [], fault := none } := by
  simp [applyAll, Header.effect, result, Metadata.apply]

theorem applyAll_optional {profile : Profile} {field : Field} {text : Option String}
    {lower next : Metadata} (absent : text = none → lower = next)
    (present : ∀ value, text = some value →
      lower.applyAll profile false [⟨field.name, value⟩] =
        { record := next, notes := [], fault := none }) :
    lower.applyAll profile false (text.map fun value => ⟨field.name, value⟩).toList =
      { record := next, notes := [], fault := none } := by
  cases text with
  | none => exact absent rfl ▸ rfl
  | some value => exact present value rfl

theorem readExpires_format {profile : Profile} (http : profile.dates = .http) (t : Timestamp) :
    profile.readExpires (String.ofList (HttpDate.format t)) = .ok (some t.toSecond, []) := by
  simp [Profile.readExpires, http, DateFormat.http, HttpDate.parse_format]

/-- The step: a field is written as a header that sets it, or not at all. -/
theorem applyAll_fieldText {profile : Profile} (http : profile.dates = .http) {record : Metadata}
    (valid : record.Valid) (field : Field) :
    ∃ text, record.fieldText profile field = .ok text ∧
      ∀ lower : Metadata,
        lower.applyAll profile false (text.map fun value => ⟨field.name, value⟩).toList =
          { record := record.toSecond.overlayField lower field, notes := [], fault := none } := by
  cases field with
  | mediaType | disposition | coding | language =>
    refine ⟨_, rfl, fun lower => applyAll_optional ?_ ?_⟩
    · intro absent
      simp [overlayField, toSecond, absent]
    · intro value present
      rw [applyAll_single rfl]
      simp [assign, overlayField, toSecond, present]
  | length =>
    cases held : record.length with
    | none =>
      refine ⟨none, by simp [fieldText, held], fun lower => ?_⟩
      simp [applyAll, overlayField, toSecond, held]
    | some length =>
      -- writing checks the length again, which a valid one passes
      obtain ⟨n, rfl, fits⟩ := valid.length length held
      refine ⟨some (String.ofList (Text.decimal n)), ?_, fun lower => ?_⟩
      · simp [fieldText, held, lengthText_whole fits]
      · have result : Field.length.effect profile false (String.ofList (Text.decimal n)) =
            .ok { assignment := some (.length (some (.whole n))) } := by
          simp [Field.effect, readLength_decimal fits]
        simp [applyAll_single result, assign, overlayField, toSecond, held]
  | digest =>
    cases held : record.digest with
    | none =>
      refine ⟨none, by simp [fieldText, held], fun lower => ?_⟩
      simp [applyAll, overlayField, toSecond, held]
    | some digest =>
      -- only a list of numbers has no Base64
      obtain ⟨data, rfl⟩ := valid.digest digest held
      refine ⟨some (String.ofList (Base64.encode data)), ?_, fun lower => ?_⟩
      · simp [fieldText, held, digestText_ofOctets]
      · have result : Field.digest.effect profile false (String.ofList (Base64.encode data)) =
            .ok { assignment := some (.digest (some (.ofOctets data))) } := by
          simp [Field.effect, readDigest_encode]
        simp [applyAll_single result, assign, overlayField, toSecond, held]
  | expires =>
    cases held : record.expires with
    | none =>
      refine ⟨none, by simp [fieldText, held], fun lower => ?_⟩
      simp [applyAll, overlayField, toSecond, held]
    | some t =>
      refine ⟨some (String.ofList (HttpDate.format t)), ?_, fun lower => ?_⟩
      · simp [fieldText, held, expiresText_http http]
      · have result : Field.expires.effect profile false (String.ofList (HttpDate.format t)) =
            .ok { assignment := some (.expires (some t.toSecond)) } := by
          simp [Field.effect, readExpires_format http]
        simp [applyAll_single result, assign, overlayField, toSecond, held]

/-- The run: the headers of some fields set these fields one after the other. -/
theorem applyAll_headersOf {profile : Profile} (http : profile.dates = .http) {record : Metadata}
    (valid : record.Valid) (fields : List Field) :
    ∃ headers, record.headersOf profile fields = .ok headers ∧
      (∀ header ∈ headers, ∃ field, Field.ofName? header.name = some field) ∧
      ∀ lower : Metadata, lower.applyAll profile false headers =
        { record := fields.foldl record.toSecond.overlayField lower, notes := [], fault := none } := by
  -- the lower record stays open: the headers of the rest meet the one the first has changed
  induction fields with
  | nil => exact ⟨[], rfl, by simp, fun lower => rfl⟩
  | cons field rest ih =>
    obtain ⟨text, written, set⟩ := applyAll_fieldText http valid field
    obtain ⟨headers, later, named, sets⟩ := ih
    refine ⟨(text.map fun value => ⟨field.name, value⟩).toList ++ headers, ?_, ?_, ?_⟩
    · simp only [headersOf, written, later]
      rfl
    · intro header mem
      rcases List.mem_append.mp mem with first | mem
      · obtain ⟨value, -, rfl⟩ := by simpa using first
        exact ⟨field, Field.ofName?_name field⟩
      · exact named header mem
    · intro lower
      rw [applyAll_append, set]
      simp only [sets]
      rfl

theorem applyHeaders_toHeaders {profile : Profile} (http : profile.dates = .http)
    {record : Metadata} (valid : record.Valid) :
    ∃ headers, record.toHeaders profile = .ok headers ∧
      ∀ lower : Metadata, lower.applyHeaders profile headers =
        { record := record.toSecond.overlay lower, notes := [], fault := none } := by
  obtain ⟨headers, written, named, sets⟩ := applyAll_headersOf http valid Field.all
  refine ⟨headers, written, fun lower => ?_⟩
  -- no field says how the body is sent, so the written length counts
  rw [applyHeaders, not_isChunked_of_fields named, sets, foldl_overlayField]

/-! ## Agreement with what was written -/

theorem toSecond_agrees_iff {record : Metadata} (valid : record.Valid) :
    record.toSecond.Agrees record ↔ ∀ t ∈ record.expires, t.toSecond.Agrees t := by
  constructor
  · intro ⟨_, _, _, _, _, _, expires⟩ t held
    simpa [toSecond, Option.mem_def.mp held, Both] using expires
  · intro agree
    refine ⟨rfl, rfl, rfl, rfl, valid.lengths_agree, valid.digests_agree, ?_⟩
    cases held : record.expires with
    | none => simp [toSecond, held, Both]
    | some t => simpa [toSecond, held, Both] using agree t held

theorem step_transfer {profile : Profile} {session : Session} {source target : String}
    {a b : Nat} {headers : List Header} (leaving : session.key? source = some a)
    (entering : session.key? target = some b)
    (written : (session.records a).toHeaders profile = .ok headers) :
    session.step profile (.transfer source target) =
      session.applying b .done ((session.records b).applyHeaders profile headers) := by
  simp [Session.step, Session.record, Session.key, leaving, entering, written]

/-! ## The round trip -/

/-- A record that could be made can be written, and its headers put it over any other record
    without a note.  This also holds where the two are one record, as in a transfer between
    registers that share it.  Of its timestamp the second is left that the instant or, outside
    of the calendar, the nearest one falls into; so the record agrees with what is read of its
    headers if it has no timestamp or one with an offset, at a whole second of the calendar. -/
theorem decode_toHeaders_overlay {fields record : Metadata} (profile : Profile)
    (made : fields.checked = .ok record) (http : profile.dates = .http) :
    ∃ headers, record.toHeaders profile = .ok headers ∧
      (∀ target : Metadata, target.decode profile (.ofHeaders headers) =
        { record := record.toSecond.overlay target, notes := [], fault := none }) ∧
      (∀ (session : Session) (source target : String) (a b : Nat),
        session.key? source = some a → session.records a = record →
        session.key? target = some b →
        session.step profile (.transfer source target) =
          { answer := .ok .done, notes := []
            session := session.store b (record.toSecond.overlay (session.records b)) }) ∧
      (∀ t ∈ record.expires, t.toSecond.zone = some .utc ∧ t.toSecond.time.micro = 0 ∧
        t.toSecond.instant = (Timestamp.clamp t.instant : Int) - Timestamp.clamp t.instant % 1000000) ∧
      ((read profile (.ofHeaders headers)).record.Agrees record ↔
        ∀ t ∈ record.expires, t.zone.isSome ∧ 0 ≤ t.instant ∧
          t.instant ≤ Timestamp.lastInstant ∧ t.instant % 1000000 = 0) := by
  have valid := valid_of_checked made
  obtain ⟨headers, written, laid⟩ := applyHeaders_toHeaders http valid
  refine ⟨headers, written, ?_, ?_, ?_, ?_⟩
  · intro target
    rw [decode_ofHeaders, laid]
  · intro session source target a b leaving held entering
    rw [step_transfer leaving entering (held ▸ written), laid]
    rfl
  · intro t held
    exact ⟨t.zone_toSecond, t.micro_toSecond, t.instant_toSecond⟩
  · rw [read, decode_ofHeaders, laid, overlay_empty, toSecond_agrees_iff valid]
    simp only [Timestamp.toSecond_agrees_iff]

/-- Fields at the ends of what is allowed, with an instant before the calendar. -/
def borderFields : Metadata where
  mediaType := some " text "
  language := some ""
  length := some (.whole 9223372036854775807)
  digest := some (.numbers [0, 255])
  expires := some { Timestamp.first with zone := some { micros := 3600000000 } }

theorem decode_toHeaders_overlay_border :
    ∃ record headers, borderFields.checked = .ok record ∧ record.toHeaders {} = .ok headers ∧
      decode {} (.ofHeaders headers) { coding := some "gzip", length := some (.flag true) } =
        { record :=
            { mediaType := some " text ", coding := some "gzip", language := some ""
              length := some (.whole 9223372036854775807), digest := some (.ofOctets [0, 255])
              expires := some .first }
          notes := [], fault := none } ∧
      ¬ (read {} (.ofHeaders headers)).record.Agrees record := by
  have made : borderFields.checked =
      .ok { borderFields with digest := some (.ofOctets [0, 255]) } := rfl
  obtain ⟨headers, written, laid, -, -, agrees⟩ := decode_toHeaders_overlay {} made rfl
  -- one hour ahead of UTC, the first midnight lies before the calendar
  have before : ({ Timestamp.first with zone := some { micros := 3600000000 } } :
      Timestamp).instant < 0 := by decide
  refine ⟨_, headers, made, written, ?_, ?_⟩
  · rw [laid]
    simp [overlay, toSecond, borderFields, Timestamp.toSecond_of_neg before]
  · rw [agrees]
    intro whole
    obtain ⟨-, after, -, -⟩ := whole _ rfl
    omega

/-- What was read of any headers can be written, and is read of these headers again, with
    nothing lost and nothing noted, so that it is also written in the same way again. -/
theorem toHeaders_read_stable {profile : Profile} {sentinel : Timestamp}
    (http : profile.dates = .http) (unreadable : profile.unreadable = some sentinel)
    (utc : sentinel.zone = some .utc) (whole : sentinel.time.micro = 0)
    {collection : Collection} {record : Metadata} {notes : List Note}
    (accepted : read profile collection = { record, notes, fault := none }) :
    ∃ headers, record.toHeaders profile = .ok headers ∧
      read profile (.ofHeaders headers) = { record, notes := [], fault := none } ∧
      record.Canonical ∧
      (read profile (.ofHeaders headers)).record.toHeaders profile = .ok headers := by
  have settled : profile.Canonical := by
    refine ⟨http, fun t mem => ?_⟩
    rw [unreadable] at mem
    cases mem
    exact ⟨utc, whole⟩
  have canonical : record.Canonical := by
    have kept := canonical_read settled collection
    rwa [accepted] at kept
  obtain ⟨headers, written, laid⟩ := applyHeaders_toHeaders http canonical.toValid
  have again : read profile (.ofHeaders headers) = { record, notes := [], fault := none } := by
    rw [read, decode_ofHeaders, laid, overlay_empty, toSecond_of_canonical canonical]
  refine ⟨headers, written, again, canonical, ?_⟩
  rw [again]
  exact written

/-- A length with zeros before it and a date that is none, under loosely written names. -/
def looseHeaders : List Header :=
  [⟨"content-LENGTH", " 007 "⟩, ⟨"EXPIRES", "soon"⟩]

theorem toHeaders_read_stable_loose :
    ∃ record notes headers, read {} (.ofHeaders looseHeaders) = { record, notes, fault := none } ∧
      record = { length := some (.whole 7), expires := some .epoch } ∧
      record.toHeaders {} = .ok headers ∧
      read {} (.ofHeaders headers) = { record, notes := [], fault := none } := by
  have length : Field.ofName? "content-LENGTH" = some .length :=
    Field.ofName?_of_ascii (by decide) (by decide)
  have expires : Field.ofName? "EXPIRES" = some .expires :=
    Field.ofName?_of_ascii (by decide) (by decide)
  have chunks : isChunked looseHeaders = false := by
    rw [isChunked_eq_any, valuesOf_of_ascii (by decide) (by decide)]
    rfl
  have seven : readLength " 007 " = .ok 7 := by rfl
  obtain ⟨notes, soon⟩ : ∃ notes, Profile.readExpires {} "soon" = .ok (some .epoch, notes) :=
    ⟨_, rfl⟩
  have accepted : read {} (.ofHeaders looseHeaders) =
      { record := { length := some (.whole 7), expires := some .epoch }, notes, fault := none } := by
    rw [read, decode_ofHeaders, applyHeaders, chunks]
    simp [looseHeaders, applyAll, Header.effect, Field.effect, length, expires, seven, soon, apply,
      assign]
  have http : ({} : Profile).dates = .http := rfl
  have sentinel : ({} : Profile).unreadable = some .epoch := rfl
  obtain ⟨headers, written, again, -, -⟩ := toHeaders_read_stable http sentinel rfl rfl accepted
  exact ⟨_, notes, headers, accepted, rfl, written, again⟩

end Metadata

end EntityHeaders
