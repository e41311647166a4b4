import EntityHeaders.Proofs.Transition

/-! # Records of a session stay valid

As long as no field is edited by hand, every record that a register is bound to is valid: a
record is valid when it is made, and headers keep it valid however far they are applied.

* `Sound.step`, `sound_after` — the step and the run.
* `valid_after` — what this is good for: any record of such a session can be copied, and
  written if its date can be; `encode_of_brokenDates` shows what keeps one from it.
-/

namespace EntityHeaders

namespace Session

/-- Every record that a register is bound to is valid. -/
def Sound (session : Session) : Prop :=
  ∀ register key, session.key? register = some key → (session.records key).Valid

theorem sound_empty : Sound {} :=
  fun _ _ bound => nomatch bound

theorem Sound.add {session : Session} (sound : session.Sound) (register : String)
    {record : Metadata} (valid : record.Valid) : (session.add register record).Sound := by
  intro other key bound
  rw [key?_add] at bound
  by_cases same : other = register
  · rw [if_pos same] at bound
    cases bound
    rwa [records_add_freshKey]
  · rw [if_neg same] at bound
    rw [records_add_of_bound bound]
    exact sound other key bound

theorem Sound.bind {session : Session} (sound : session.Sound) (register : String)
    {source : String} {key : Nat} (held : session.key? source = some key) :
    (session.bind register key).Sound := by
  intro other key' bound
  rw [key?_bind] at bound
  rw [records_bind]
  by_cases same : other = register
  · rw [if_pos same] at bound
    cases bound
    exact sound source key held
  · rw [if_neg same] at bound
    exact sound other key' bound

theorem Sound.store {session : Session} (sound : session.Sound) (key : Nat) {record : Metadata}
    (valid : record.Valid) : (session.store key record).Sound := by
  intro other key' bound
  rw [records_store]
  by_cases same : key' = key
  · rwa [if_pos same]
  · rw [if_neg same]
    exact sound other key' bound

/-- The step: only an edit can put a record that is not valid into a session. -/
theorem Sound.step {profile : Profile} {before after : Session} {step : Step}
    {answer : Except Fault Reply} (sound : before.Sound)
    (unedited : ∀ register assignment, step ≠ .assign register assignment)
    (moved : before.Transition profile step answer after) : after.Sound := by
  cases moved with
  | asked | failed => exact sound
  | made role valid => exact sound.add _ valid
  | shared held => exact sound.bind _ held
  | edited held => exact absurd rfl (unedited _ _)
  | applied role held => exact sound.store _ (Metadata.valid_applyAll (sound _ _ held))

/-- The run: without an edit a sound session stays sound. -/
theorem sound_after {profile : Profile} {session : Session} {steps : List Step}
    (sound : session.Sound)
    (unedited : ∀ register assignment, Step.assign register assignment ∉ steps) :
    (session.after profile steps).Sound := by
  induction steps generalizing session with
  | nil => exact sound
  | cons step rest ih =>
    have moved := step_transition profile session step
    have first : ∀ register assignment, step ≠ .assign register assignment :=
      fun register assignment same => unedited register assignment (by simp [same])
    have later : ∀ register assignment, Step.assign register assignment ∉ rest :=
      fun register assignment mem => unedited register assignment (by simp [mem])
    exact ih (sound.step first moved) later

/-- After any steps without an edit, whatever the date format does and however the steps end,
    the record of a register is valid.  So it can be written unless the format breaks down over
    its date, which is then reported and changes nothing, and a copy of it gets a record that no
    register has had and that agrees with it. -/
theorem valid_after {profile : Profile} {steps : List Step} {session : Session}
    (reached : Session.after profile {} steps = session)
    (unedited : ∀ register assignment, Step.assign register assignment ∉ steps)
    {register : String} {key : Nat} (bound : session.key? register = some key) :
    (session.records key).Valid ∧
      ((session.records key).Datable profile →
        ∃ headers, session.step profile (.encode register) =
          { answer := .ok (.headers headers), notes := [], session }) ∧
      (∀ t breakdown, (session.records key).expires = some t →
        profile.dates.write t = .error breakdown →
        session.step profile (.encode register) =
          { answer := .error (.breakdown breakdown), notes := [], session }) ∧
      ∀ target, ∃ next duplicate,
        session.step profile (.copy register target) =
          { answer := .ok .done, notes := [], session := next } ∧
        next.key? target = some duplicate ∧
        (∀ other held, session.key? other = some held → held ≠ duplicate) ∧
        (next.records duplicate).Agrees (session.records key) ∧
        next.records key = session.records key := by
  have valid : (session.records key).Valid := by
    rw [← reached] at bound ⊢
    exact sound_after sound_empty unedited register key bound
  refine ⟨valid, ?_, ?_, fun target => ?_⟩
  · intro datable
    obtain ⟨headers, written⟩ := valid.exists_headersOf datable Field.all
    refine ⟨headers, ?_⟩
    rw [step_encode_of_bound bound, Metadata.toHeaders, written, Fallible.map_ok]
  · intro t breakdown held failed
    have unwritten :=
      Metadata.toHeaders_of_breakdown valid.length valid.digest_ne_numbers held failed
    rw [step_encode_of_bound bound, unwritten, Fallible.map_error]
  · refine ⟨_, session.freshKey, step_copy_of_checked bound valid.checked_eq, ?_, ?_, ?_, ?_⟩
    · rw [key?_add, if_pos rfl]
    · intro other held found
      exact ne_freshKey found
    · rw [records_add_freshKey]
      exact valid.agrees_self
    · exact records_add_of_bound bound _

/-- A date format that breaks down in either direction. -/
def brokenDates : Profile where
  dates :=
    { write := fun _ => .error ⟨"OSError", "no clock"⟩
      read := fun _ => .error (.broken ⟨"OSError", "no clock"⟩) }

/-- The decoding ends at the date, after it has replaced the length. -/
def interruptedSteps : List Step :=
  [.create "a" { length := some (.whole 5) },
    .decode "a" (.ofHeaders [⟨"Content-Length", "7"⟩, ⟨"Expires", "0"⟩])]

/-- The record of a decoding that stopped midway can still be written. -/
theorem valid_after_interrupted :
    ((Session.after brokenDates {} interruptedSteps).records 0).length = some (.whole 7) ∧
      ((Session.after brokenDates {} interruptedSteps).records 0).Valid ∧
      ∃ headers, ((Session.after brokenDates {} interruptedSteps).step brokenDates
        (.encode "a")).answer = .ok (.headers headers) := by
  have unedited : ∀ register assignment,
      Step.assign register assignment ∉ interruptedSteps := by
    simp [interruptedSteps]
  have bound : (Session.after brokenDates {} interruptedSteps).key? "a" = some 0 := rfl
  have held : (Session.after brokenDates {} interruptedSteps).records 0 =
      { length := some (.whole 7) } := by
    decide +kernel
  obtain ⟨valid, answers, -⟩ := valid_after rfl unedited bound
  obtain ⟨headers, written⟩ := answers (by simp [Metadata.Datable, held])
  exact ⟨by rw [held], valid, headers, by rw [written]⟩

/-- A valid record is not written where the format breaks down over its date.  And where it
    breaks down in reading, nothing is kept, so that there is nothing to write. -/
theorem encode_of_brokenDates :
    ((Session.after brokenDates {} [.create "a" { expires := some .epoch }]).records 0).Valid ∧
      ((Session.after brokenDates {} [.create "a" { expires := some .epoch }]).step brokenDates
        (.encode "a")).answer = .error (.breakdown ⟨"OSError", "no clock"⟩) ∧
      ((Session.after brokenDates {} [.read "a" (.ofHeaders [⟨"Expires", "0"⟩])]).step brokenDates
        (.encode "a")).answer = .error (.missingKey "a") := by
  have made : ({ expires := some .epoch } : Metadata).checked =
      .ok { expires := some .epoch } := rfl
  exact ⟨Metadata.valid_of_checked made, rfl, rfl⟩

end Session

end EntityHeaders
