import EntityHeaders.Proofs.Recognition

/-! # Runs over a list of headers

What one header does and what a run of them does, whatever the list says about
chunks as a whole.

* `Header.Unreadable` — the three ways in which a header ends a run, by
  `effect_eq_error_iff` exactly the headers without an effect.
* `Superseded` — each field is as the last header of its name says, or as it was;
  `Superseded.of_effect` is the step and `applyAll_of_readable` the run.
* `applyAll_of_unreadable` — a run stops at the first header that cannot be read, with
  what the headers before it have done.
* `applyAll_keeps` — what every effect keeps holds at the end of a run, failed or not.
* `Applied` — the headers that a run applies; by `exists_applied` it leaves what they leave.
-/

namespace EntityHeaders

open Calendar (Timestamp)
open Fallible (bind_eq_error_iff bind_eq_ok_iff)

/-! ## Headers that cannot be read -/

/-- The fault that a failed date format ends a run with.  A rejected text ends none. -/
def DateFormat.Failure.escaping? : DateFormat.Failure → Option Fault
  | .rejected _ => none
  | .broken breakdown => some (.breakdown breakdown)

/-- The header cannot be read, for the fault that its own reader gives. -/
inductive Header.Unreadable (profile : Profile) (chunked : Bool) (header : Header) :
    Fault → Prop where
  | length {fault : Fault} : sameName header.name Field.length.name = true → chunked = false →
      readLength header.value = .error fault → Unreadable profile chunked header fault
  | digest {fault : Fault} : sameName header.name Field.digest.name = true →
      readDigest header.value = .error fault → Unreadable profile chunked header fault
  | expires {failure : DateFormat.Failure} {fault : Fault} :
      sameName header.name Field.expires.name = true →
      profile.dates.read header.value = .error failure → failure.escaping? = some fault →
      Unreadable profile chunked header fault

def Header.Readable (profile : Profile) (chunked : Bool) (header : Header) : Prop :=
  ∀ fault, ¬ header.Unreadable profile chunked fault

theorem readExpires_eq_error_iff {profile : Profile} {value : String} {fault : Fault} :
    profile.readExpires value = .error fault ↔
      ∃ failure, profile.dates.read value = .error failure ∧ failure.escaping? = some fault := by
  unfold Profile.readExpires
  cases profile.dates.read value with
  | ok timestamp => simp
  | error failure => cases failure <;> simp [DateFormat.Failure.escaping?]

theorem http_rejects {value : String} {failure : DateFormat.Failure}
    (failed : DateFormat.http.read value = .error failure) :
    ∃ reason, failure = .rejected reason := by
  simp only [DateFormat.http] at failed
  split at failed
  · cases failed
  · exact ⟨_, (Except.error.inj failed).symm⟩

/-- The headers without an effect are those that cannot be read. -/
theorem effect_eq_error_iff {profile : Profile} {chunked : Bool} {header : Header}
    {fault : Fault} :
    header.effect profile chunked = .error fault ↔ header.Unreadable profile chunked fault := by
  constructor
  · intro failed
    unfold Header.effect at failed
    cases named : Field.ofName? header.name with
    | none => simp [named] at failed
    | some field =>
      have same := Field.ofName?_eq_some_iff.mp named
      cases field with
      | mediaType | disposition | coding | language => simp [named, Field.effect] at failed
      | length =>
        cases chunked with
        | true => simp [named, Field.effect] at failed
        | false =>
          have read : readLength header.value = .error fault := by
            simpa [named, Field.effect, bind_eq_error_iff] using failed
          exact .length same rfl read
      | digest =>
        have read : readDigest header.value = .error fault := by
          simpa [named, Field.effect, bind_eq_error_iff] using failed
        exact .digest same read
      | expires =>
        have given : profile.readExpires header.value = .error fault := by
          simpa [named, Field.effect, bind_eq_error_iff] using failed
        obtain ⟨failure, read, escapes⟩ := readExpires_eq_error_iff.mp given
        exact .expires same read escapes
  · intro unreadable
    cases unreadable with
    | length same whole failed =>
      simp [Header.effect, Field.effect, Field.ofName?_eq_some_iff.mpr same, whole, failed]
    | digest same failed =>
      simp [Header.effect, Field.effect, Field.ofName?_eq_some_iff.mpr same, failed]
    | expires same read escapes =>
      have failed := readExpires_eq_error_iff.mpr ⟨_, read, escapes⟩
      simp [Header.effect, Field.effect, Field.ofName?_eq_some_iff.mpr same, failed]

theorem readable_iff_exists_effect {profile : Profile} {chunked : Bool} {header : Header} :
    header.Readable profile chunked ↔ ∃ effect, header.effect profile chunked = .ok effect := by
  constructor
  · intro readable
    cases result : header.effect profile chunked with
    | ok effect => exact ⟨effect, rfl⟩
    | error fault => exact absurd (effect_eq_error_iff.mp result) (readable fault)
  · intro ⟨effect, result⟩ fault unreadable
    rw [effect_eq_error_iff.mpr unreadable] at result
    cases result

/-! ## What a header does -/

/-- The effect of a header that can be read, by the field that it belongs to. -/
inductive Header.Yields (profile : Profile) (chunked : Bool) (header : Header) :
    Effect → Prop where
  | other : Field.ofName? header.name = none → Yields profile chunked header {}
  | mediaType : Field.ofName? header.name = some .mediaType →
      Yields profile chunked header { assignment := some (.mediaType (some header.value)) }
  | disposition : Field.ofName? header.name = some .disposition →
      Yields profile chunked header { assignment := some (.disposition (some header.value)) }
  | coding : Field.ofName? header.name = some .coding →
      Yields profile chunked header { assignment := some (.coding (some header.value)) }
  | language : Field.ofName? header.name = some .language →
      Yields profile chunked header { assignment := some (.language (some header.value)) }
  | lengthOfChunks : Field.ofName? header.name = some .length → chunked = true →
      Yields profile chunked header {}
  | length {n : Nat} : Field.ofName? header.name = some .length → chunked = false →
      readLength header.value = .ok n →
      Yields profile chunked header { assignment := some (.length (some (.whole n))) }
  | digest {data : List UInt8} : Field.ofName? header.name = some .digest →
      readDigest header.value = .ok data →
      Yields profile chunked header { assignment := some (.digest (some (.ofOctets data))) }
  | expires {timestamp : Option Timestamp} {notes : List Note} :
      Field.ofName? header.name = some .expires →
      profile.readExpires header.value = .ok (timestamp, notes) →
      Yields profile chunked header { assignment := some (.expires timestamp), notes }

theorem yields_of_effect {profile : Profile} {chunked : Bool} {header : Header}
    {effect : Effect} (result : header.effect profile chunked = .ok effect) :
    header.Yields profile chunked effect := by
  unfold Header.effect at result
  cases named : Field.ofName? header.name with
  | none =>
    simp only [named, Except.ok.injEq] at result
    exact result ▸ .other named
  | some field =>
    simp only [named] at result
    cases field with
    | mediaType => exact Except.ok.inj result ▸ .mediaType named
    | disposition => exact Except.ok.inj result ▸ .disposition named
    | coding => exact Except.ok.inj result ▸ .coding named
    | language => exact Except.ok.inj result ▸ .language named
    | length =>
      cases chunked with
      | true => exact Except.ok.inj result ▸ .lengthOfChunks named rfl
      | false =>
        obtain ⟨n, read, given⟩ := bind_eq_ok_iff.mp result
        exact Except.ok.inj given ▸ .length named rfl read
    | digest =>
      obtain ⟨data, read, given⟩ := bind_eq_ok_iff.mp result
      exact Except.ok.inj given ▸ .digest named read
    | expires =>
      obtain ⟨⟨timestamp, notes⟩, read, given⟩ := bind_eq_ok_iff.mp result
      exact Except.ok.inj given ▸ .expires named read

/-! ## The last value of a name -/

/-- `after` is what the last of the values means, and `before` where there is none. -/
structure LastCounts {α : Type} (means : String → α → Prop) (values : List String)
    (before after : α) : Prop where
  last : ∀ value, values.getLast? = some value → means value after
  kept : values = [] → after = before

namespace LastCounts

variable {α : Type} {means : String → α → Prop}

@[simp]
theorem nil_iff {before after : α} : LastCounts means [] before after ↔ after = before :=
  ⟨fun counts => counts.kept rfl, fun same => ⟨by simp, fun _ => same⟩⟩

@[simp]
theorem single_iff {value : String} {before after : α} :
    LastCounts means [value] before after ↔ means value after :=
  ⟨fun counts => counts.last value rfl, fun meant => ⟨by simp [meant], by simp⟩⟩

theorem append {left right : List String} {before between after : α}
    (first : LastCounts means left before between) (second : LastCounts means right between after) :
    LastCounts means (left ++ right) before after := by
  cases last : right.getLast? with
  | none =>
    -- nothing on the right: the left has the last word
    obtain rfl := List.getLast?_eq_none_iff.mp last
    rw [List.append_nil, second.kept rfl]
    exact first
  | some value =>
    constructor
    · intro value' last'
      rw [List.getLast?_append, last] at last'
      exact Option.some.inj last' ▸ second.last value last
    · intro none
      rw [(List.append_eq_nil_iff.mp none).2] at last
      cases last

theorem unique {values : List String} {before a b : α}
    (functional : ∀ value x y, means value x → means value y → x = y)
    (left : LastCounts means values before a) (right : LastCounts means values before b) :
    a = b := by
  cases last : values.getLast? with
  | some value => exact functional value a b (left.last value last) (right.last value last)
  | none =>
    have none := List.getLast?_eq_none_iff.mp last
    rw [left.kept none, right.kept none]

end LastCounts

def MeansText (value : String) (text : Option String) : Prop :=
  text = some value

def MeansLength (value : String) (length : Option Length) : Prop :=
  ∃ n, readLength value = .ok n ∧ length = some (.whole n)

def MeansDigest (value : String) (digest : Option Digest) : Prop :=
  ∃ data, readDigest value = .ok data ∧ digest = some (.ofOctets data)

/-- A value is read as a timestamp, or as what stands for an unreadable one. -/
def MeansExpires (profile : Profile) (value : String) (expires : Option Timestamp) : Prop :=
  ∃ notes, profile.readExpires value = .ok (expires, notes)

/-- The lengths that headers declare, which do not count if the body is in chunks. -/
def lengthsOf (chunked : Bool) (headers : List Header) : List String :=
  if chunked then [] else valuesOf Field.length.name headers

/-- Each field of `after` is as the last header of its name says, and as in `before` where
    no header has its name. -/
structure Superseded (profile : Profile) (chunked : Bool) (headers : List Header)
    (before after : Metadata) : Prop where
  mediaType : LastCounts MeansText (valuesOf Field.mediaType.name headers)
    before.mediaType after.mediaType
  disposition : LastCounts MeansText (valuesOf Field.disposition.name headers)
    before.disposition after.disposition
  coding : LastCounts MeansText (valuesOf Field.coding.name headers) before.coding after.coding
  language : LastCounts MeansText (valuesOf Field.language.name headers)
    before.language after.language
  length : LastCounts MeansLength (lengthsOf chunked headers) before.length after.length
  digest : LastCounts MeansDigest (valuesOf Field.digest.name headers) before.digest after.digest
  expires : LastCounts (MeansExpires profile) (valuesOf Field.expires.name headers)
    before.expires after.expires

namespace Superseded

variable {profile : Profile} {chunked : Bool}

theorem nil (record : Metadata) : Superseded profile chunked [] record record := by
  constructor <;> simp [lengthsOf]

theorem append {left right : List Header} {before between after : Metadata}
    (first : Superseded profile chunked left before between)
    (second : Superseded profile chunked right between after) :
    Superseded profile chunked (left ++ right) before after where
  mediaType := valuesOf_append _ left right ▸ first.mediaType.append second.mediaType
  disposition := valuesOf_append _ left right ▸ first.disposition.append second.disposition
  coding := valuesOf_append _ left right ▸ first.coding.append second.coding
  language := valuesOf_append _ left right ▸ first.language.append second.language
  length := by
    have lengths : lengthsOf chunked (left ++ right) =
        lengthsOf chunked left ++ lengthsOf chunked right := by
      cases chunked
      · exact valuesOf_append _ left right
      · rfl
    exact lengths ▸ first.length.append second.length
  digest := valuesOf_append _ left right ▸ first.digest.append second.digest
  expires := valuesOf_append _ left right ▸ first.expires.append second.expires

/-- The step: an effect is that of the one header. -/
theorem of_effect {header : Header} {effect : Effect}
    (result : header.effect profile chunked = .ok effect) (record : Metadata) :
    Superseded profile chunked [header] record (record.apply effect) := by
  cases yields_of_effect result with
  | other named =>
    constructor <;> simp [lengthsOf, valuesOf_single, named, Metadata.apply]
  | mediaType named | disposition named | coding named | language named =>
    constructor <;>
      simp [MeansText, lengthsOf, valuesOf_single, named, Metadata.apply,
        Metadata.assign]
  | lengthOfChunks named chunked =>
    constructor <;>
      simp [lengthsOf, valuesOf_single, named, chunked, Metadata.apply]
  | length named whole length =>
    constructor <;>
      simp [MeansLength, lengthsOf, valuesOf_single, named, whole, length,
        Metadata.apply, Metadata.assign]
  | digest named digest =>
    constructor <;>
      simp [MeansDigest, lengthsOf, valuesOf_single, named, digest,
        Metadata.apply, Metadata.assign]
  | expires named expires =>
    constructor <;>
      simp [MeansExpires, lengthsOf, valuesOf_single, named, expires,
        Metadata.apply, Metadata.assign]

theorem unique {headers others : List Header} {record a b : Metadata}
    (left : Superseded profile chunked headers record a)
    (right : Superseded profile chunked others record b)
    (values : ∀ field : Field, valuesOf field.name others = valuesOf field.name headers) :
    a = b := by
  have lengths : lengthsOf chunked others = lengthsOf chunked headers := by
    simp only [lengthsOf, values]
  have texts : ∀ value x y, MeansText value x → MeansText value y → x = y :=
    fun _ _ _ hx hy => hx.trans hy.symm
  have mediaType := left.mediaType.unique texts (values _ ▸ right.mediaType)
  have disposition := left.disposition.unique texts (values _ ▸ right.disposition)
  have coding := left.coding.unique texts (values _ ▸ right.coding)
  have language := left.language.unique texts (values _ ▸ right.language)
  have length : a.length = b.length := by
    refine left.length.unique ?_ (lengths ▸ right.length)
    rintro value x y ⟨n, read, rfl⟩ ⟨m, again, rfl⟩
    cases read.symm.trans again
    rfl
  have digest : a.digest = b.digest := by
    refine left.digest.unique ?_ (values _ ▸ right.digest)
    rintro value x y ⟨data, read, rfl⟩ ⟨data', again, rfl⟩
    cases read.symm.trans again
    rfl
  have expires : a.expires = b.expires := by
    refine left.expires.unique ?_ (values _ ▸ right.expires)
    rintro value x y ⟨notes, read⟩ ⟨notes', again⟩
    cases read.symm.trans again
    rfl
  -- two records with the same seven fields
  cases a
  cases b
  simp only at mediaType disposition coding language length digest expires
  simp only [mediaType, disposition, coding, language, length, digest, expires]

end Superseded

/-! ## Runs -/

namespace Metadata

variable {profile : Profile} {chunked : Bool}

theorem applyAll_cons_ok {header : Header} {effect : Effect} {record : Metadata}
    (result : header.effect profile chunked = .ok effect) (rest : List Header) :
    record.applyAll profile chunked (header :: rest) =
      { (record.apply effect).applyAll profile chunked rest with
        notes := effect.notes ++ ((record.apply effect).applyAll profile chunked rest).notes } := by
  simp [applyAll, result]

/-- A run over readable headers reaches its end, and the last header of a name counts. -/
theorem applyAll_of_readable {headers : List Header} (record : Metadata)
    (readable : ∀ header ∈ headers, header.Readable profile chunked) :
    (record.applyAll profile chunked headers).fault = none ∧
      Superseded profile chunked headers record
        (record.applyAll profile chunked headers).record := by
  -- the record changes from header to header, what counts of the rest is settled by the rest
  induction headers generalizing record with
  | nil => exact ⟨rfl, Superseded.nil record⟩
  | cons header rest ih =>
    obtain ⟨effect, result⟩ := readable_iff_exists_effect.mp (readable header (by simp))
    have reached := ih (record.apply effect) fun other mem => readable other (by simp [mem])
    rw [applyAll_cons_ok result]
    exact ⟨reached.1, (Superseded.of_effect result record).append reached.2⟩

/-- A run stops at its first unreadable header and keeps what it had. -/
theorem applyAll_of_unreadable {before after : List Header} {bad : Header} {fault : Fault}
    (record : Metadata) (readable : ∀ header ∈ before, header.Readable profile chunked)
    (unreadable : bad.Unreadable profile chunked fault) :
    record.applyAll profile chunked (before ++ bad :: after) =
      { record.applyAll profile chunked before with fault := some fault } := by
  have stopped : ∀ next : Metadata, next.applyAll profile chunked (bad :: after) =
      { record := next, notes := [], fault := some fault } := by
    intro next
    simp [applyAll, effect_eq_error_iff.mpr unreadable]
  -- the run over the good headers reaches its end, so the bad one is looked at
  have reached := (applyAll_of_readable record readable).1
  rw [applyAll_append]
  generalize record.applyAll profile chunked before = outcome at reached
  obtain ⟨next, notes, _⟩ := outcome
  cases reached
  simp [stopped]

/-- A property that every effect keeps holds of the record at the end of a run, whether or
    not the run was cut short. -/
theorem applyAll_keeps {holds : Metadata → Prop} {headers : List Header} {record : Metadata}
    (step : ∀ (next : Metadata) (header : Header) (effect : Effect), holds next →
      header.effect profile chunked = .ok effect → holds (next.apply effect))
    (start : holds record) : holds (record.applyAll profile chunked headers).record := by
  induction headers generalizing record with
  | nil => exact start
  | cons header rest ih =>
    cases result : header.effect profile chunked with
    | error fault => simpa [applyAll, result] using start
    | ok effect =>
      rw [applyAll_cons_ok result]
      exact ih (step record header effect start result)

end Metadata

theorem exists_first_unreadable {profile : Profile} {chunked : Bool} {headers : List Header}
    (some : ∃ header ∈ headers, ¬ header.Readable profile chunked) :
    ∃ before bad after fault, headers = before ++ bad :: after ∧
      (∀ header ∈ before, header.Readable profile chunked) ∧
      bad.Unreadable profile chunked fault := by
  induction headers with
  | nil => simp at some
  | cons first rest ih =>
    by_cases readable : first.Readable profile chunked
    · have later : ∃ header ∈ rest, ¬ header.Readable profile chunked := by
        simpa [readable] using some
      obtain ⟨before, bad, after, fault, rfl, clean, unreadable⟩ := ih later
      refine ⟨first :: before, bad, after, fault, rfl, ?_, unreadable⟩
      intro header mem
      rcases List.mem_cons.mp mem with rfl | mem
      · exact readable
      · exact clean header mem
    · obtain ⟨fault, unreadable⟩ : ∃ fault, first.Unreadable profile chunked fault := by
        simpa [Header.Readable] using readable
      exact ⟨[], first, rest, fault, rfl, by simp, unreadable⟩

/-! ## How far a run goes -/

section Applied

variable {profile : Profile} {chunked : Bool}

/-- A run applies all headers, or those before the first that cannot be read. -/
inductive Applied (profile : Profile) (chunked : Bool) :
    List Header → List Header → Option Fault → Prop where
  | all {headers : List Header} (readable : ∀ header ∈ headers, header.Readable profile chunked) :
      Applied profile chunked headers headers none
  | before {before after : List Header} {bad : Header} {fault : Fault}
      (readable : ∀ header ∈ before, header.Readable profile chunked)
      (unreadable : bad.Unreadable profile chunked fault) :
      Applied profile chunked (before ++ bad :: after) before (some fault)

theorem Applied.readable {headers applied : List Header} {fault : Option Fault}
    (run : Applied profile chunked headers applied fault) :
    ∀ header ∈ applied, header.Readable profile chunked := by
  cases run with
  | all readable => exact readable
  | before readable => exact readable

/-- What a run leaves is what the headers that it applies leave. -/
theorem exists_applied (profile : Profile) (chunked : Bool) (headers : List Header)
    (record : Metadata) :
    ∃ applied,
      Applied profile chunked headers applied (record.applyAll profile chunked headers).fault ∧
      (record.applyAll profile chunked headers).record =
        (record.applyAll profile chunked applied).record ∧
      (record.applyAll profile chunked headers).notes =
        (record.applyAll profile chunked applied).notes := by
  by_cases readable : ∀ header ∈ headers, header.Readable profile chunked
  · rw [(Metadata.applyAll_of_readable record readable).1]
    exact ⟨headers, .all readable, rfl, rfl⟩
  · obtain ⟨before, bad, after, fault, rfl, clean, unreadable⟩ :=
      exists_first_unreadable (by simpa using readable)
    rw [Metadata.applyAll_of_unreadable record clean unreadable]
    exact ⟨before, .before clean unreadable, rfl, rfl⟩

end Applied

end EntityHeaders
