import EntityHeaders.Proofs.Checks
import EntityHeaders.Proofs.Reading
import EntityHeaders.Proofs.Values

/-! # Records that can be made and records that are read

* `Valid` — what making a record establishes, by `valid_of_checked`, and applying headers
  keeps, by `valid_applyAll`: a length is a number of octets within range, and a digest is
  fixed octets.
* `exists_fieldText_length_iff`, `exists_fieldText_digest_iff`, `exists_fieldText_expires_iff` —
  the lengths, the digests and the timestamps that can be written; of the other fields every
  value can be.
* `Canonical` — what reading headers establishes on top, by `canonical_applyAll`: a
  timestamp is a whole second on the clock of UTC.

Each reader gives only canonical values, whatever text it is given.
-/

namespace EntityHeaders

open Calendar (TimeOfDay Timestamp)

/-! ## Agreement of a value with itself -/

theorem Both.refl {α : Type} {related : α → α → Prop} {value : Option α}
    (same : ∀ a ∈ value, related a a) : Both related value value := by
  cases value with
  | none => trivial
  | some a => exact same a rfl

theorem Quantity.ofInt_injective : Function.Injective ofInt := by
  intro m n same
  have some := Int.natCast_ne_zero.mpr (Nat.pos_iff_ne_zero.mp Fraction.unitsPerOne_pos)
  exact Int.eq_of_mul_eq_mul_right some (units.inj same)

theorem Length.agrees_whole_iff {m n : Int} : (whole m).Agrees (.whole n) ↔ m = n := by
  simp [Agrees, quantity?, text?, Quantity.ofInt_injective.eq_iff]

theorem Digest.agrees_ofOctets (data : List UInt8) :
    (Digest.ofOctets data).Agrees (.ofOctets data) :=
  rfl

namespace Metadata

/-- A length is a number of octets within range, and a digest is fixed octets. -/
structure Valid (record : Metadata) : Prop where
  length : ∀ length ∈ record.length, ∃ n : Nat, length = .whole n ∧ n ≤ maxLength
  digest : ∀ digest ∈ record.digest, ∃ data, digest = .ofOctets data

theorem valid_of_checked {fields record : Metadata} (made : fields.checked = .ok record) :
    record.Valid := by
  have copy := isCopy_of_checked made
  constructor
  · rw [copy.length]
    exact (exists_checked_iff.mp ⟨record, made⟩).1
  · intro kept held
    rcases both_iff.mp copy.digest with ⟨-, absent⟩ | ⟨_, _, -, own, data, -, rfl⟩
    · cases absent.symm.trans held
    · cases own.symm.trans held
      exact ⟨data, rfl⟩

/-! ## Fields that can be written -/

section Fields

variable {profile : Profile} {record : Metadata}

theorem lengthText_whole {n : Nat} (fits : n ≤ maxLength) :
    lengthText (.whole n) = .ok (String.ofList (Text.decimal n)) := by
  simp [lengthText, Length.check_eq_ok_iff.mpr ⟨rfl, fits⟩]

theorem digestText_ofOctets (data : List UInt8) :
    digestText (.ofOctets data) = .ok (String.ofList (Base64.encode data)) :=
  rfl

theorem fieldText_of_refused {length : Length} {fault : Length.Fault}
    (held : record.length = some length) (refused : length.check = .error fault) :
    record.fieldText profile .length = .error (.metadata (.length fault)) := by
  simp [fieldText, held, lengthText, refused]

theorem exists_fieldText_length_iff (profile : Profile) :
    (∃ text, record.fieldText profile .length = .ok text) ↔ record.Sized := by
  constructor
  · rintro ⟨text, written⟩
    apply Classical.byContradiction
    intro unsized
    obtain ⟨length, fault, held, refused⟩ := not_sized_iff.mp unsized
    cases (fieldText_of_refused held refused).symm.trans written
  · intro sized
    cases held : record.length with
    | none => exact ⟨none, by simp [fieldText, held]⟩
    | some length =>
      obtain ⟨n, rfl, fits⟩ := sized length held
      exact ⟨some (String.ofList (Text.decimal n)), by
        simp [fieldText, held, lengthText_whole fits]⟩

theorem fieldText_of_numbers {values : List Int} (held : record.digest = some (.numbers values)) :
    record.fieldText profile .digest = .error (.metadata (.digest .notOctets)) := by
  simp [fieldText, held, digestText, Digest.base64]

theorem exists_fieldText_digest_iff (profile : Profile) :
    (∃ text, record.fieldText profile .digest = .ok text) ↔
      ∀ values, record.digest ≠ some (.numbers values) := by
  constructor
  · rintro ⟨text, written⟩ values held
    cases (fieldText_of_numbers held).symm.trans written
  · intro unlisted
    cases held : record.digest with
    | none => exact ⟨none, by simp [fieldText, held]⟩
    | some digest =>
      cases digest with
      | numbers values => exact absurd held (unlisted values)
      | octets carrier data =>
        exact ⟨some (String.ofList (Base64.encode data)), by
          simp [fieldText, held, digestText, Digest.base64]⟩

/-- The date format has a text for the timestamp, if there is one. -/
def Datable (profile : Profile) (record : Metadata) : Prop :=
  ∀ t ∈ record.expires, ∃ text, profile.dates.write t = .ok text

theorem datable_of_http (http : profile.dates = .http) (record : Metadata) :
    record.Datable profile := by
  intro t _
  rw [http]
  exact ⟨_, DateFormat.write_http t⟩

theorem expiresText_http (http : profile.dates = .http) (t : Timestamp) :
    expiresText profile t = .ok (String.ofList (HttpDate.format t)) := by
  rw [expiresText, http, DateFormat.write_http]
  rfl

theorem fieldText_of_breakdown {t : Timestamp} {breakdown : Breakdown}
    (held : record.expires = some t) (failed : profile.dates.write t = .error breakdown) :
    record.fieldText profile .expires = .error (.breakdown breakdown) := by
  simp [fieldText, held, expiresText, failed]

theorem exists_fieldText_expires_iff (profile : Profile) :
    (∃ text, record.fieldText profile .expires = .ok text) ↔ record.Datable profile := by
  constructor
  · rintro ⟨text, written⟩ t held
    cases answered : profile.dates.write t with
    | ok own => exact ⟨own, rfl⟩
    | error breakdown => cases (fieldText_of_breakdown held answered).symm.trans written
  · intro datable
    cases held : record.expires with
    | none => exact ⟨none, by simp [fieldText, held]⟩
    | some t =>
      obtain ⟨text, written⟩ := datable t held
      exact ⟨some text, by simp [fieldText, held, expiresText, written]⟩

theorem exists_fieldText (sized : record.Sized)
    (unlisted : ∀ values, record.digest ≠ some (.numbers values))
    (datable : record.Datable profile) (field : Field) :
    ∃ text, record.fieldText profile field = .ok text := by
  cases field with
  | mediaType | disposition | coding | language => exact ⟨_, rfl⟩
  | length => exact (exists_fieldText_length_iff profile).mpr sized
  | digest => exact (exists_fieldText_digest_iff profile).mpr unlisted
  | expires => exact (exists_fieldText_expires_iff profile).mpr datable

/-- Fields are written together if each of them can be written. -/
theorem exists_headersOf {fields : List Field}
    (each : ∀ field ∈ fields, ∃ text, record.fieldText profile field = .ok text) :
    ∃ headers, record.headersOf profile fields = .ok headers := by
  induction fields with
  | nil => exact ⟨[], rfl⟩
  | cons field rest ih =>
    obtain ⟨text, written⟩ := each field (by simp)
    obtain ⟨headers, later⟩ := ih fun other mem => each other (by simp [mem])
    simp only [headersOf, written, later]
    exact ⟨_, rfl⟩

/-- The first field that cannot be written is the one reported. -/
theorem headersOf_of_unwritten {before after : List Field} {field : Field} {fault : Fault}
    (written : ∀ other ∈ before, ∃ text, record.fieldText profile other = .ok text)
    (failed : record.fieldText profile field = .error fault) :
    record.headersOf profile (before ++ field :: after) = .error fault := by
  induction before with
  | nil => simp [headersOf, failed]
  | cons first rest ih =>
    obtain ⟨text, own⟩ := written first (by simp)
    have later := ih fun other mem => written other (by simp [mem])
    simp [headersOf, own, later]

theorem toHeaders_of_unwritten {before after : List Field} {field : Field} {fault : Fault}
    (split : Field.all = before ++ field :: after)
    (written : ∀ other ∈ before, ∃ text, record.fieldText profile other = .ok text)
    (failed : record.fieldText profile field = .error fault) :
    record.toHeaders profile = .error fault := by
  rw [toHeaders, split]
  exact headersOf_of_unwritten written failed

/-- The timestamp comes last, so it is reported only if all else can be written. -/
theorem toHeaders_of_breakdown (sized : record.Sized)
    (unlisted : ∀ values, record.digest ≠ some (.numbers values)) {t : Timestamp}
    {breakdown : Breakdown} (held : record.expires = some t)
    (failed : profile.dates.write t = .error breakdown) :
    record.toHeaders profile = .error (.breakdown breakdown) := by
  have split : Field.all = [.mediaType, .disposition, .coding, .language, .length, .digest] ++
      .expires :: [] := rfl
  refine toHeaders_of_unwritten split ?_ (fieldText_of_breakdown held failed)
  intro other mem
  cases other with
  | mediaType | disposition | coding | language => exact ⟨_, rfl⟩
  | length => exact (exists_fieldText_length_iff profile).mpr sized
  | digest => exact (exists_fieldText_digest_iff profile).mpr unlisted
  | expires => simp at mem

end Fields

/-! ## What valid records allow -/

/-- Checked again, a valid record is the same record. -/
theorem Valid.checked_eq {record : Metadata} (valid : record.Valid) :
    record.checked = .ok record := by
  have frozen : (record.digest.mapM fun digest => digest.freeze.mapError FieldFault.digest) =
      .ok record.digest := by
    cases held : record.digest with
    | none => rfl
    | some digest =>
      obtain ⟨data, rfl⟩ := valid.digest digest held
      rfl
  rw [checked_of_sized valid.length, frozen]
  rfl

theorem Valid.lengths_agree {record : Metadata} (valid : record.Valid) :
    Both Length.Agrees record.length record.length := by
  apply Both.refl
  intro length held
  obtain ⟨n, rfl, -⟩ := valid.length length held
  exact Length.agrees_whole_iff.mpr rfl

theorem Valid.digests_agree {record : Metadata} (valid : record.Valid) :
    Both Digest.Agrees record.digest record.digest := by
  apply Both.refl
  intro digest held
  obtain ⟨data, rfl⟩ := valid.digest digest held
  exact Digest.agrees_ofOctets data

theorem Valid.agrees_self {record : Metadata} (valid : record.Valid) : record.Agrees record :=
  ⟨rfl, rfl, rfl, rfl, valid.lengths_agree, valid.digests_agree, Both.refl fun _ _ => ⟨rfl, rfl⟩⟩

theorem Valid.digest_ne_numbers {record : Metadata} (valid : record.Valid) :
    ∀ values, record.digest ≠ some (.numbers values) := by
  intro values held
  obtain ⟨data, fixed⟩ := valid.digest _ held
  cases fixed

/-- A valid record can be written if its date can be. -/
theorem Valid.exists_headersOf {profile : Profile} {record : Metadata} (valid : record.Valid)
    (datable : record.Datable profile) (fields : List Field) :
    ∃ headers, record.headersOf profile fields = .ok headers :=
  Metadata.exists_headersOf fun field _ =>
    exists_fieldText valid.length valid.digest_ne_numbers datable field

/-! ## What is read -/

/-- A valid record whose timestamp is a whole second on the clock of UTC. -/
structure Canonical (record : Metadata) : Prop extends Valid record where
  expires : ∀ t ∈ record.expires, t.zone = some .utc ∧ t.time.micro = 0

theorem canonical_empty : Canonical {} where
  length := by simp
  digest := by simp
  expires := by simp

end Metadata

theorem readLength_le {value : String} {n : Nat} (read : readLength value = .ok n) :
    n ≤ maxLength := by
  unfold readLength at read
  simp only at read
  repeat' split at read
  all_goals cases read
  omega

theorem micro_of_ofCivil {hour minute second : Nat} {time : TimeOfDay}
    (made : TimeOfDay.ofCivil hour minute second = .ok time) : time.micro = 0 := by
  unfold TimeOfDay.ofCivil at made
  repeat' split at made
  all_goals cases made
  rfl

theorem HttpDate.parse_whole {text : List Char} {t : Timestamp} (read : parse text = .ok t) :
    t.zone = some .utc ∧ t.time.micro = 0 := by
  obtain ⟨_, _, _, _, _, _, made, zone⟩ := parse_eq_ok_iff.mp read
  exact ⟨zone, micro_of_ofCivil made⟩

/-- What stands for an unreadable date is a whole second on the clock of UTC. -/
structure Profile.Canonical (profile : Profile) : Prop where
  dates : profile.dates = .http
  unreadable : ∀ t ∈ profile.unreadable, t.zone = some .utc ∧ t.time.micro = 0

theorem readExpires_whole {profile : Profile} (canonical : profile.Canonical) {value : String}
    {timestamp : Option Timestamp} {notes : List Note}
    (read : profile.readExpires value = .ok (timestamp, notes)) :
    ∀ t ∈ timestamp, t.zone = some .utc ∧ t.time.micro = 0 := by
  unfold Profile.readExpires at read
  rw [canonical.dates] at read
  simp only [DateFormat.http] at read
  cases parsed : HttpDate.parse value.toList with
  | ok t =>
    simp only [parsed, Except.ok.injEq, Prod.mk.injEq] at read
    obtain ⟨rfl, -⟩ := read
    intro t' mem
    cases mem
    exact HttpDate.parse_whole parsed
  | error fault =>
    simp only [parsed, Except.ok.injEq, Prod.mk.injEq] at read
    obtain ⟨rfl, -⟩ := read
    exact canonical.unreadable

namespace Metadata

/-- The step: an effect leaves a valid record valid, whatever the dates are written in. -/
theorem Valid.apply {profile : Profile} {chunked : Bool} {header : Header} {effect : Effect}
    {record : Metadata} (held : record.Valid)
    (result : header.effect profile chunked = .ok effect) : (record.apply effect).Valid := by
  obtain ⟨length, digest⟩ := held
  cases yields_of_effect result with
  | other | mediaType | disposition | coding | language | lengthOfChunks | expires =>
    exact ⟨length, digest⟩
  | @length n named whole read =>
    refine ⟨?_, digest⟩
    intro size mem
    cases mem
    exact ⟨n, rfl, readLength_le read⟩
  | @digest data named read =>
    refine ⟨length, ?_⟩
    intro kept mem
    cases mem
    exact ⟨data, rfl⟩

/-- The run: headers leave a valid record valid, however far they are applied. -/
theorem valid_applyAll {profile : Profile} {chunked : Bool} {headers : List Header}
    {record : Metadata} (held : record.Valid) :
    (record.applyAll profile chunked headers).record.Valid :=
  applyAll_keeps (fun _ _ _ held result => held.apply result) held

theorem Canonical.apply {profile : Profile} (canonical : profile.Canonical) {chunked : Bool}
    {header : Header} {effect : Effect} {record : Metadata} (held : record.Canonical)
    (result : header.effect profile chunked = .ok effect) : (record.apply effect).Canonical := by
  refine ⟨held.toValid.apply result, ?_⟩
  cases yields_of_effect result with
  | expires named read => exact readExpires_whole canonical read
  | other | mediaType | disposition | coding | language | lengthOfChunks | length | digest =>
    exact held.expires

theorem canonical_applyAll {profile : Profile} (canonical : profile.Canonical) {chunked : Bool}
    {headers : List Header} {record : Metadata} (held : record.Canonical) :
    (record.applyAll profile chunked headers).record.Canonical :=
  applyAll_keeps (fun _ _ _ held result => held.apply canonical result) held

theorem canonical_read {profile : Profile} (canonical : profile.Canonical)
    (collection : Collection) : (read profile collection).record.Canonical := by
  unfold read decode
  cases collection.flatten with
  | error fault => exact canonical_empty
  | ok headers => exact canonical_applyAll canonical canonical_empty

end Metadata

end EntityHeaders
