import EntityHeaders.Proofs.Gates
import EntityHeaders.Proofs.Losses

/-! # Copies of edited records

A copy is made as every record is: its length is checked and its digest is kept as fixed
octets.  The record that is copied may have been edited, so this can fail, and where it does
not, the copy may hold its digest in another carrier.

* `IsCopy.agrees_iff` — a copy agrees with its record unless it has made octets of numbers.
* `step_copy_outcome` — whether a record is copied, what is reported otherwise, and how the copy
  compares with it.
-/

namespace EntityHeaders

namespace Metadata

variable {profile : Profile} {record copied : Metadata}

/-! ## How a copy compares -/

namespace IsCopy

/-- A digest in a carrier is copied, whatever the carrier, to one that agrees with it and is
    written alike. -/
theorem digests_of_octets (copy : copied.IsCopy record)
    (unlisted : ∀ values, record.digest ≠ some (.numbers values)) :
    Both Digest.Agrees copied.digest record.digest ∧
      copied.digest.mapM digestText = record.digest.mapM digestText := by
  rcases both_iff.mp copy.digest with ⟨none, absent⟩ | ⟨digest, _, held, kept, data, holds, rfl⟩
  · rw [none, absent]
    exact ⟨trivial, rfl⟩
  · rw [held, kept]
    cases digest with
    | numbers values => exact absurd held (unlisted values)
    | octets carrier own =>
      cases holds
      exact ⟨rfl, rfl⟩

theorem agrees_iff (copy : copied.IsCopy record) (valid : copied.Valid) :
    copied.Agrees record ↔ ∀ values, record.digest ≠ some (.numbers values) := by
  constructor
  · rintro ⟨-, -, -, -, -, digests, -⟩ values held
    rcases both_iff.mp copy.digest with ⟨none, -⟩ | ⟨_, _, -, kept, _, -, rfl⟩
    · cases held.symm.trans none
    · rw [held, kept] at digests
      exact digests
  · intro unlisted
    refine ⟨copy.mediaType, copy.disposition, copy.coding, copy.language, ?_,
      (copy.digests_of_octets unlisted).1, ?_⟩
    · rw [← copy.length]
      exact valid.lengths_agree
    · rw [copy.expires]
      exact Both.refl fun _ _ => ⟨rfl, rfl⟩

theorem toHeaders_eq (copy : copied.IsCopy record)
    (unlisted : ∀ values, record.digest ≠ some (.numbers values)) :
    copied.toHeaders profile = record.toHeaders profile := by
  apply headersOf_congr
  intro field _
  cases field with
  | mediaType => simp only [fieldText, copy.mediaType]
  | disposition => simp only [fieldText, copy.disposition]
  | coding => simp only [fieldText, copy.coding]
  | language => simp only [fieldText, copy.language]
  | length => simp only [fieldText, copy.length]
  | digest => exact (copy.digests_of_octets unlisted).2
  | expires => simp only [fieldText, copy.expires]

end IsCopy

end Metadata

namespace Session

theorem step_copy_of_fault {profile : Profile} {session : Session} {source : String} {key : Nat}
    {fault : Metadata.FieldFault} (bound : session.key? source = some key)
    (failed : (session.records key).checked = .error fault) (target : String) :
    session.step profile (.copy source target) =
      { answer := .error (.metadata fault), notes := [], session } := by
  simp [Session.step, Session.record, key_eq_ok_iff.mpr bound, failed, moving, answering]

/-- A record is copied exactly if its length is a number of octets within range and its digest
    lists nothing but octets, and it is reported for its length first.  It stays as it is.  The
    copy has its values, agrees with it unless it listed its digest, and can be written if its date
    can be, with the same headers if the record itself can be. -/
theorem step_copy_outcome {profile : Profile} {session : Session} {source : String} {key : Nat}
    (bound : session.key? source = some key) {record : Metadata}
    (held : session.records key = record) (target : String) {result : StepResult}
    (taken : session.step profile (.copy source target) = result) :
    (result.answer = .ok .done ↔ record.Sized ∧ record.ListsOctets) ∧
    (¬ record.Sized → ∃ length fault, record.length = some length ∧
      result.answer = .error (.metadata (.length fault)) ∧
      length.Refusal (Fault.metadata (.length fault)).message) ∧
    (record.Sized → ¬ record.ListsOctets →
      result.answer = .error (.metadata (.digest .notAnOctet)) ∧
      (Fault.metadata (.digest .notAnOctet)).message = "bytes must be in range(0, 256)") ∧
    result.session.records key = record ∧
    (result.answer = .ok .done → ∃ duplicate copied,
      result.session.key? target = some duplicate ∧ duplicate ≠ key ∧
      result.session.records duplicate = copied ∧ copied.IsCopy record ∧
      (copied.Agrees record ↔ ∀ values, record.digest ≠ some (.numbers values)) ∧
      (record.Datable profile → ∃ headers, copied.toHeaders profile = .ok headers) ∧
      ∀ own, record.toHeaders profile = .ok own → copied.toHeaders profile = .ok own) := by
  subst held
  cases made : (session.records key).checked with
  | error fault =>
    have failed : ¬ ((session.records key).Sized ∧ (session.records key).ListsOctets) := by
      rw [← Metadata.exists_checked_iff]
      rintro ⟨copied, again⟩
      cases made.symm.trans again
    rw [step_copy_of_fault bound made] at taken
    subst taken
    refine ⟨by simp [failed], ?_, ?_, rfl, by simp⟩
    · intro unsized
      obtain ⟨length, reason, held, refused⟩ := Metadata.not_sized_iff.mp unsized
      cases made.symm.trans (Metadata.checked_of_refused held refused)
      exact ⟨length, reason, held, rfl, Length.check_eq_error refused⟩
    · intro sized other
      cases made.symm.trans (Metadata.checked_of_otherNumbers sized other)
      exact ⟨rfl, rfl⟩
  | ok copied =>
    have able := Metadata.exists_checked_iff.mp ⟨copied, made⟩
    have copy := Metadata.isCopy_of_checked made
    have valid := Metadata.valid_of_checked made
    rw [step_copy_of_checked bound made] at taken
    subst taken
    refine ⟨by simp [able], fun unsized => absurd able.1 unsized,
      fun _ other => absurd able.2 other, records_add_of_bound bound copied, fun _ => ?_⟩
    refine ⟨session.freshKey, copied, ?_, (ne_freshKey bound).symm, records_add_freshKey _ _ _,
      copy, copy.agrees_iff valid, ?_, ?_⟩
    · rw [key?_add, if_pos rfl]
    · intro datable
      rw [Metadata.Datable, ← copy.expires] at datable
      exact valid.exists_headersOf datable Field.all
    · intro own given
      have unlisted := (Metadata.exists_toHeaders_iff.mp ⟨own, given⟩).2.1
      rw [copy.toHeaders_eq unlisted, given]

/-- A record whose digest has been replaced by a list of numbers. -/
def listedRecord : Metadata :=
  { length := some (.whole 5), digest := some (.numbers [1, 255]) }

def listedSteps : List Step :=
  [.create "a" { length := some (.whole 5) }, .assign "a" (.digest (some (.numbers [1, 255])))]

/-- The copy can be written although its record cannot, and the two do not agree. -/
theorem step_copy_outcome_listed :
    ∃ start result, Session.after {} {} listedSteps = start ∧ start.records 0 = listedRecord ∧
      start.step {} (.copy "a" "b") = result ∧ result.answer = .ok .done ∧
      result.session.records 0 = listedRecord ∧
      (∃ duplicate copied, result.session.key? "b" = some duplicate ∧
        result.session.records duplicate = copied ∧ copied.IsCopy listedRecord ∧
        ¬ copied.Agrees listedRecord ∧ ∃ headers, copied.toHeaders {} = .ok headers) ∧
      listedRecord.toHeaders {} = .error (.metadata (.digest .notOctets)) := by
  have sized : listedRecord.Sized := by
    rintro length ⟨⟩
    exact ⟨5, rfl, by decide⟩
  have listed : listedRecord.ListsOctets := by
    rintro values ⟨⟩
    decide
  have bound : (Session.after {} {} listedSteps).key? "a" = some 0 := rfl
  have held : (Session.after {} {} listedSteps).records 0 = listedRecord := rfl
  obtain ⟨result, taken⟩ :
      ∃ result, (Session.after {} {} listedSteps).step {} (.copy "a" "b") = result := ⟨_, rfl⟩
  obtain ⟨answered, -, -, same, copies⟩ := step_copy_outcome bound held "b" taken
  have done := answered.mpr ⟨sized, listed⟩
  obtain ⟨duplicate, copied, own, -, kept, copy, agrees, answers, -⟩ := copies done
  obtain ⟨headers, written⟩ := answers (Metadata.datable_of_http rfl listedRecord)
  have apart : ¬ copied.Agrees listedRecord := fun agree => agrees.mp agree _ rfl
  exact ⟨_, result, rfl, held, taken, done, same,
    ⟨duplicate, copied, own, kept, copy, apart, headers, written⟩,
    Metadata.toHeaders_of_numbers sized rfl⟩

end Session

end EntityHeaders
