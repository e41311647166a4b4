import EntityHeaders.Proofs.Decoding

/-! # Notes of unreadable dates

A date that its format rejects does not end a run: something stands for it, and a note is left.

* `Trail` — what the values of dates leave behind, one entry for each that is rejected, in their
  order; `Trail.of_effect` is the step and `trail_applyAll` the run.
* `fault_applyAll_filter` — headers that can be read have no part in how a run ends.
* `decode_trail` — the notes of a decoding and the timestamp that it leaves.  As long as dates
  are those of HTTP, no value of a date makes it fail.
-/

namespace EntityHeaders

open Calendar (Timestamp)

/-! ## Entries -/

/-- What is kept of a note. -/
structure Entry where
  channel : String
  level : String
  message : String

def Note.entry (note : Note) : Entry :=
  { channel := note.channel, level := Note.level, message := note.message }

/-- The entries that values of dates leave in a channel: none for a date that is read, and for
    one that is rejected an entry with the value as it stands and the words of its format. -/
inductive Trail (dates : DateFormat) (channel : String) : List String → List Entry → Prop where
  | nil : Trail dates channel [] []
  | read {value : String} {values : List String} {entries : List Entry}
      {timestamp : Option Timestamp} (answered : dates.read value = .ok timestamp)
      (later : Trail dates channel values entries) : Trail dates channel (value :: values) entries
  | rejected {value reason : String} {values : List String} {entries : List Entry}
      (refused : dates.read value = .error (.rejected reason))
      (later : Trail dates channel values entries) :
      Trail dates channel (value :: values)
        ({ channel, level := "DEBUG"
           message := "Invalid Expires header (" ++ value ++ "); should be in RFC-1123 format; " ++
             "treating as already expired: " ++ reason } :: entries)

theorem Trail.append {dates : DateFormat} {channel : String} {left right : List String}
    {entries more : List Entry} (first : Trail dates channel left entries)
    (second : Trail dates channel right more) :
    Trail dates channel (left ++ right) (entries ++ more) := by
  induction first with
  | nil => exact second
  | read answered _ ih => exact .read answered ih
  | rejected refused _ ih => exact .rejected refused ih

namespace Profile

variable {profile : Profile}

/-- The channel of the notes: the given one, or else the one of the configured name.  Without a
    name it is the root of all. -/
inductive KeepsNotesIn (profile : Profile) : String → Prop where
  | given {name : String} : profile.channel = some name → name ≠ "" → KeepsNotesIn profile name
  | configured : profile.channel = none → profile.channelName ≠ "" →
      KeepsNotesIn profile profile.channelName
  | root : profile.channel = some "" ∨ profile.channel = none ∧ profile.channelName = "" →
      KeepsNotesIn profile "root"

theorem keepsNotesIn_noteChannel (profile : Profile) :
    profile.KeepsNotesIn profile.noteChannel := by
  unfold noteChannel
  cases given : profile.channel with
  | some name =>
    by_cases nameless : name = ""
    · subst nameless
      exact .root (.inl given)
    · simpa [nameless] using KeepsNotesIn.given given nameless
  | none =>
    by_cases nameless : profile.channelName = ""
    · simpa [nameless] using KeepsNotesIn.root (.inr ⟨given, nameless⟩)
    · simpa [nameless] using KeepsNotesIn.configured given nameless

example : KeepsNotesIn {} "cirrus_io.codec" :=
  keepsNotesIn_noteChannel {}

/-- What the value of a date gives: the answer of the format, or what stands for an unreadable
    date. -/
inductive Gives (profile : Profile) (value : String) : Option Timestamp → Prop where
  | read {timestamp : Option Timestamp} : profile.dates.read value = .ok timestamp →
      Gives profile value timestamp
  | rejected {reason : String} : profile.dates.read value = .error (.rejected reason) →
      Gives profile value profile.unreadable

theorem readExpires_eq_ok {value : String} {timestamp : Option Timestamp} {notes : List Note}
    (read : profile.readExpires value = .ok (timestamp, notes)) :
    profile.Gives value timestamp ∧
      Trail profile.dates profile.noteChannel [value] (notes.map Note.entry) := by
  unfold readExpires at read
  cases answered : profile.dates.read value with
  | ok answer =>
    rw [answered] at read
    cases read
    exact ⟨.read answered, .read answered .nil⟩
  | error failure =>
    rw [answered] at read
    cases failure with
    | rejected reason =>
      cases read
      exact ⟨.rejected answered, .rejected answered .nil⟩
    | broken breakdown => cases read

/-- Under HTTP dates every value gives something. -/
theorem exists_readExpires (http : profile.dates = .http) (value : String) :
    ∃ timestamp notes, profile.readExpires value = .ok (timestamp, notes) := by
  cases given : profile.readExpires value with
  | ok answer => exact ⟨answer.1, answer.2, rfl⟩
  | error fault =>
    obtain ⟨failure, failed, escapes⟩ := readExpires_eq_error_iff.mp given
    rw [http] at failed
    obtain ⟨reason, rfl⟩ := http_rejects failed
    cases escapes

end Profile

/-! ## Runs -/

section Run

variable {profile : Profile} {chunked : Bool}

/-- The step: only a date leaves notes. -/
theorem Trail.of_effect {header : Header} {effect : Effect}
    (result : header.effect profile chunked = .ok effect) :
    Trail profile.dates profile.noteChannel (valuesOf Field.expires.name [header])
      (effect.notes.map Note.entry) := by
  rw [valuesOf_single]
  cases yields_of_effect result with
  | other named | mediaType named | disposition named | coding named | language named
  | lengthOfChunks named | length named | digest named =>
    simp only [named]
    exact .nil
  | expires named read =>
    simp only [named, if_true]
    exact (Profile.readExpires_eq_ok read).2

/-- The run: readable headers leave the entries of their dates, in order. -/
theorem trail_applyAll {headers : List Header} (record : Metadata)
    (readable : ∀ header ∈ headers, header.Readable profile chunked) :
    Trail profile.dates profile.noteChannel (valuesOf Field.expires.name headers)
      ((record.applyAll profile chunked headers).notes.map Note.entry) := by
  induction headers generalizing record with
  | nil => exact .nil
  | cons header rest ih =>
    obtain ⟨effect, result⟩ := readable_iff_exists_effect.mp (readable header (by simp))
    have later := ih (record.apply effect) fun other mem => readable other (by simp [mem])
    have values : valuesOf Field.expires.name (header :: rest) =
        valuesOf Field.expires.name [header] ++ valuesOf Field.expires.name rest :=
      valuesOf_append _ [header] rest
    rw [Metadata.applyAll_cons_ok result, List.map_append, values]
    exact (Trail.of_effect result).append later

/-- Headers that can be read may be left out without a change of the fault. -/
theorem fault_applyAll_filter {keep : Header → Bool} {headers : List Header}
    (readable : ∀ header ∈ headers, keep header = false → header.Readable profile chunked)
    (record other : Metadata) :
    (record.applyAll profile chunked (headers.filter keep)).fault =
      (other.applyAll profile chunked headers).fault := by
  induction headers generalizing record other with
  | nil => rfl
  | cons header rest ih =>
    have later := ih fun next mem => readable next (by simp [mem])
    cases kept : keep header with
    | true =>
      -- both runs look at the header, and it has the same effect on either record
      rw [List.filter_cons_of_pos kept, Metadata.applyAll, Metadata.applyAll]
      cases header.effect profile chunked with
      | error fault => rfl
      | ok effect => exact later _ _
    | false =>
      obtain ⟨effect, result⟩ := readable_iff_exists_effect.mp (readable header (by simp) kept)
      rw [List.filter_cons_of_neg (by simp [kept]), Metadata.applyAll_cons_ok result]
      exact later _ _

end Run

/-! ## Decodings -/

/-- The headers without those that are dates. -/
def withoutDates (headers : List Header) : List Header :=
  headers.filter fun header => !sameName header.name Field.expires.name

theorem isChunked_withoutDates (headers : List Header) :
    isChunked (withoutDates headers) = isChunked headers := by
  rw [isChunked, isChunked, withoutDates, List.any_filter]
  congr 1
  funext header
  cases dated : sameName header.name Field.expires.name with
  | false => simp
  | true =>
    have other := Field.not_sameName_transferEncoding (Field.ofName?_eq_some_iff.mpr dated)
    simp [Header.saysChunked, other]

theorem readable_of_date {profile : Profile} (http : profile.dates = .http) {chunked : Bool}
    {header : Header} (dated : sameName header.name Field.expires.name = true) :
    header.Readable profile chunked := by
  obtain ⟨timestamp, notes, read⟩ := profile.exists_readExpires http header.value
  apply readable_iff_exists_effect.mpr
  exact ⟨{ assignment := some (.expires timestamp), notes }, by
    simp [Header.effect, Field.ofName?_eq_some_iff.mpr dated, Field.effect, read]⟩

namespace Metadata

/-- The notes of a decoding are those of the rejected dates among the headers that it applies,
    and of these the last date settles the timestamp.  Under HTTP dates every value of a date
    gives something, and a decoding ends as it would without the dates. -/
theorem decode_trail (profile : Profile) (headers : List Header) (target : Metadata) :
    (∃ applied channel,
      Applied profile (isChunked headers) headers applied
        (target.decode profile (.ofHeaders headers)).fault ∧
      profile.KeepsNotesIn channel ∧
      Trail profile.dates channel (valuesOf "Expires" applied)
        ((target.decode profile (.ofHeaders headers)).notes.map Note.entry) ∧
      LastCounts profile.Gives (valuesOf "Expires" applied) target.expires
        (target.decode profile (.ofHeaders headers)).record.expires) ∧
    (profile.dates = .http →
      (∀ value : Option String,
        ∃ timestamp notes, profile.readExpires? value = .ok (timestamp, notes)) ∧
      (target.decode profile (.ofHeaders headers)).fault =
        (target.decode profile (.ofHeaders (withoutDates headers))).fault) := by
  simp only [decode_ofHeaders, applyHeaders, isChunked_withoutDates]
  refine ⟨?_, fun http => ⟨?_, ?_⟩⟩
  · obtain ⟨applied, run, record, notes⟩ :=
      exists_applied profile (isChunked headers) headers target
    have superseded := (applyAll_of_readable target run.readable).2
    rw [record, notes]
    refine ⟨applied, _, run, profile.keepsNotesIn_noteChannel,
      trail_applyAll target run.readable, ?_, superseded.expires.kept⟩
    intro value last
    obtain ⟨_, read⟩ := superseded.expires.last value last
    exact (Profile.readExpires_eq_ok read).1
  · rintro (_ | value)
    · exact ⟨none, [], rfl⟩
    · exact profile.exists_readExpires http value
  · refine (fault_applyAll_filter ?_ target target).symm
    intro header _ dated
    exact readable_of_date http (by simpa using dated)

end Metadata

end EntityHeaders
