import EntityHeaders.Proofs.RoundTrip

/-! # What headers do not tell

Of a record that could be made only the timestamp loses something when it is written: its
offset, the part of a second, and all of an instant outside of the calendar but the side on
which it lies.

* `Timestamp.second` — what is left of it, with `toSecond_eq_iff`.
* `toHeaders_toSecond` — a record is written as if it had no more than that.
* `toHeaders_eq_iff` — so two records have the same headers if and only if they agree in
  everything else and in these seconds.
-/

namespace EntityHeaders

open Calendar (Timestamp)

/-! ## Seconds -/

namespace Calendar.Timestamp

/-- The second of UTC, from the start of the calendar, into which the instant or the nearest
    one of the calendar falls. -/
def second (t : Timestamp) : Nat :=
  clamp t.instant / 1000000

theorem instant_toSecond_eq_second (t : Timestamp) :
    t.toSecond.instant = (t.second * 1000000 : Nat) := by
  rw [instant_toSecond, second]
  omega

theorem toSecond_eq_iff {s t : Timestamp} : s.toSecond = t.toSecond ↔ s.second = t.second := by
  constructor
  · intro same
    have instants := congrArg instant same
    rw [instant_toSecond_eq_second, instant_toSecond_eq_second] at instants
    omega
  · intro same
    -- both are on the clock of UTC, where the instant tells all
    calc s.toSecond = ofInstant s.toSecond.instant := (ofInstant_instant s.zone_toSecond).symm
      _ = ofInstant t.toSecond.instant := by
        rw [instant_toSecond_eq_second, instant_toSecond_eq_second, same]
      _ = t.toSecond := ofInstant_instant t.zone_toSecond

end Calendar.Timestamp

theorem HttpDate.format_toSecond (t : Timestamp) : format t.toSecond = format t := by
  simp only [format, Timestamp.toUtc_eq_ofInstant]
  rw [Timestamp.ofInstant_instant t.zone_toSecond]
  rfl

namespace Metadata

/-! ## Records -/

theorem headersOf_congr {profile : Profile} {a b : Metadata} {fields : List Field}
    (same : ∀ field ∈ fields, a.fieldText profile field = b.fieldText profile field) :
    a.headersOf profile fields = b.headersOf profile fields := by
  induction fields with
  | nil => rfl
  | cons field rest ih =>
    have later := ih fun other mem => same other (by simp [mem])
    rw [headersOf, headersOf, same field (by simp), later]

/-- A record is written as what its headers tell of it. -/
theorem toHeaders_toSecond {profile : Profile} (http : profile.dates = .http)
    (record : Metadata) : record.toSecond.toHeaders profile = record.toHeaders profile := by
  apply headersOf_congr
  intro field _
  cases field with
  | mediaType | disposition | coding | language | length | digest => rfl
  | expires =>
    cases held : record.expires with
    | none => simp [fieldText, toSecond, held]
    | some t =>
      simp [fieldText, toSecond, held, expiresText_http http, HttpDate.format_toSecond]

theorem map_toSecond_eq_iff {a b : Option Timestamp} :
    a.map Timestamp.toSecond = b.map Timestamp.toSecond ↔
      Both (fun s t => s.second = t.second) a b := by
  cases a <;> cases b <;> simp [Both, Timestamp.toSecond_eq_iff]

theorem toSecond_eq_iff {a b : Metadata} :
    a.toSecond = b.toSecond ↔
      a.mediaType = b.mediaType ∧ a.disposition = b.disposition ∧ a.coding = b.coding ∧
        a.language = b.language ∧ a.length = b.length ∧ a.digest = b.digest ∧
        Both (fun s t => s.second = t.second) a.expires b.expires := by
  rw [← map_toSecond_eq_iff]
  simp [toSecond]

end Metadata

/-! ## Agreement -/

theorem Both.imp {α : Type} {related weaker : α → α → Prop} {a b : Option α}
    (agree : Both related a b) (step : ∀ x ∈ a, ∀ y ∈ b, related x y → weaker x y) :
    Both weaker a b := by
  cases a <;> cases b
  · trivial
  · exact agree
  · exact agree
  · exact step _ rfl _ rfl agree

theorem both_eq_iff {α : Type} {a b : Option α} : Both (· = ·) a b ↔ a = b := by
  cases a <;> cases b <;> simp [Both]

theorem Calendar.Timestamp.second_eq_of_agrees {s t : Timestamp} (agree : s.Agrees t) :
    s.second = t.second := by
  rw [second, second, agree.2]

namespace Metadata

/-- No value of a valid record has a second form that agrees with it. -/
theorem Valid.eq_of_agrees {a b : Metadata} (left : a.Valid) (right : b.Valid)
    (agree : a.Agrees b) : a.length = b.length ∧ a.digest = b.digest := by
  obtain ⟨-, -, -, -, lengths, digests, -⟩ := agree
  constructor
  · refine both_eq_iff.mp (lengths.imp ?_)
    intro x short y long same
    obtain ⟨m, rfl, -⟩ := left.length x short
    obtain ⟨n, rfl, -⟩ := right.length y long
    exact congrArg Length.whole (Length.agrees_whole_iff.mp same)
  · refine both_eq_iff.mp (digests.imp ?_)
    intro x first y second same
    obtain ⟨data, rfl⟩ := left.digest x first
    obtain ⟨other, rfl⟩ := right.digest y second
    exact congrArg Digest.ofOctets same

/-- Two records that could be made have the same headers if and only if their texts, lengths
    and digests are the same and their timestamps fall into the same second of UTC, once an
    instant outside of the calendar has been moved to its nearest end.  So records that
    agree have the same headers, whatever the offsets of their timestamps are. -/
theorem toHeaders_eq_iff {fields others a b : Metadata} (profile : Profile)
    (http : profile.dates = .http) (made : fields.checked = .ok a)
    (also : others.checked = .ok b) :
    ∃ headers headers', a.toHeaders profile = .ok headers ∧
      b.toHeaders profile = .ok headers' ∧
      (headers = headers' ↔
        a.mediaType = b.mediaType ∧ a.disposition = b.disposition ∧ a.coding = b.coding ∧
          a.language = b.language ∧ a.length = b.length ∧ a.digest = b.digest ∧
          Both (fun s t => s.second = t.second) a.expires b.expires) ∧
      (a.Agrees b → headers = headers') := by
  have left := valid_of_checked made
  have right := valid_of_checked also
  obtain ⟨headers, written, laid⟩ := applyHeaders_toHeaders http left
  obtain ⟨headers', written', laid'⟩ := applyHeaders_toHeaders http right
  have same : headers = headers' ↔ a.toSecond = b.toSecond := by
    constructor
    · rintro rfl
      -- the same headers are read as the same record
      have read := (laid {}).symm.trans (laid' {})
      simpa using congrArg Outcome.record read
    · intro told
      have again := toHeaders_toSecond http a
      rw [told, toHeaders_toSecond http b, written, written'] at again
      exact (Except.ok.inj again).symm
  refine ⟨headers, headers', written, written', same.trans toSecond_eq_iff, ?_⟩
  intro agree
  have parts := left.eq_of_agrees right agree
  obtain ⟨mediaType, disposition, coding, language, -, -, expires⟩ := agree
  have seconds := expires.imp fun _ _ _ _ => Timestamp.second_eq_of_agrees
  exact same.mpr (toSecond_eq_iff.mpr
    ⟨mediaType, disposition, coding, language, parts.1, parts.2, seconds⟩)

/-- A record that expires at the last moment of the calendar, on the clock of this zone. -/
def lastMoment (zone : Option Calendar.Offset) : Metadata where
  mediaType := some "text/plain"
  digest := some (.ofOctets [0, 255])
  expires := some { Timestamp.last with zone }

/-- An hour behind UTC, the last moment lies beyond the calendar; it is not that of a clock
    without an offset, but has the same headers. -/
theorem toHeaders_eq_iff_late :
    (lastMoment (some { micros := -3600000000 })).checked =
        .ok (lastMoment (some { micros := -3600000000 })) ∧
      (lastMoment none).checked = .ok (lastMoment none) ∧
      ¬ (lastMoment (some { micros := -3600000000 })).Agrees (lastMoment none) ∧
      (lastMoment (some { micros := -3600000000 })).toHeaders {} =
        (lastMoment none).toHeaders {} := by
  have made : (lastMoment (some { micros := -3600000000 })).checked =
      .ok (lastMoment (some { micros := -3600000000 })) := rfl
  have also : (lastMoment none).checked = .ok (lastMoment none) := rfl
  obtain ⟨headers, headers', written, written', same, -⟩ := toHeaders_eq_iff {} rfl made also
  refine ⟨made, also, by decide, ?_⟩
  have seconds : Both (fun s t : Timestamp => s.second = t.second)
      (lastMoment (some { micros := -3600000000 })).expires (lastMoment none).expires := by
    decide
  rw [written, written', same.mpr ⟨rfl, rfl, rfl, rfl, rfl, rfl, seconds⟩]

end Metadata

end EntityHeaders
