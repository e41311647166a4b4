import EntityHeaders.Proofs.Validity
import EntityHeaders.Session

/-! # What a step of a session can do

A step plays one of four roles (`Step.role`): it asks for something, it makes a record of
its own for a register, it lets a register share the record of another, or it changes the
record that a register has.

* `Session.Transition` — the answers and the sessions that a step can lead to, by
  `step_transition` for every step; what holds of sessions is derived from its cases.
* `key?_add`, `records_add_of_bound` — a new record takes the place of no other.
* `after_cons` — a run is its first step and the run after it.
-/

namespace EntityHeaders

open Fallible (bind_eq_ok_iff map_ok ok_bind)

/-! ## Roles -/

inductive Step.Role where
  | asks
  | makes (register : String)
  | shares (source register : String)
  | changes (register : String)
deriving DecidableEq, Repr

def Step.role : Step → Step.Role
  | .create register _ | .copy _ register | .read register _ => .makes register
  | .share source register => .shares source register
  | .assign register _ | .decode register _ | .transfer _ register => .changes register
  | .isEmpty _ | .agree _ _ | .same _ _ | .encode _ | .readExpires _ => .asks

theorem Step.eq_share_of_role {step : Step} {source register : String}
    (role : step.role = .shares source register) : step = .share source register := by
  cases step <;> cases role
  rfl

namespace Metadata

/-- Whatever the collection, decoding it applies some list of headers. -/
theorem exists_applyAll_of_decode (profile : Profile) (collection : Collection)
    (record : Metadata) :
    ∃ chunked headers, (record.decode profile collection).record =
      (record.applyAll profile chunked headers).record := by
  unfold decode
  cases collection.flatten with
  | ok headers => exact ⟨isChunked headers, headers, rfl⟩
  | error fault => exact ⟨false, [], rfl⟩

theorem valid_empty : Valid {} :=
  canonical_empty.toValid

theorem valid_read (profile : Profile) (collection : Collection) :
    (read profile collection).record.Valid := by
  obtain ⟨chunked, headers, same⟩ := exists_applyAll_of_decode profile collection {}
  rw [read, same]
  exact valid_applyAll valid_empty

end Metadata

namespace Session

/-! ## Keys of new records -/

theorem key_eq_ok_iff {session : Session} {register : String} {key : Nat} :
    session.key register = .ok key ↔ session.key? register = some key := by
  unfold Session.key
  cases session.key? register <;> simp

theorem ne_freshKey {session : Session} {register : String} {key : Nat}
    (bound : session.key? register = some key) : key ≠ session.freshKey :=
  Nat.ne_of_lt (lt_freshKey bound)

theorem key?_add (session : Session) (register other : String) (record : Metadata) :
    (session.add register record).key? other =
      if other = register then some session.freshKey else session.key? other := by
  rw [add, key?_bind, key?_store]

@[simp]
theorem records_add_freshKey (session : Session) (register : String) (record : Metadata) :
    (session.add register record).records session.freshKey = record := by
  simp [add, records_store]

theorem records_add_of_bound {session : Session} {register other : String} {key : Nat}
    (bound : session.key? other = some key) (record : Metadata) :
    (session.add register record).records key = session.records key := by
  rw [add, records_bind, records_store, if_neg (ne_freshKey bound)]

/-! ## Steps -/

/-- What a step can lead to: a failure or a question leaves the session alone, a new record
    is a valid one, and a record that is changed has been edited in one field or has had
    headers applied to it, not necessarily all that there were. -/
inductive Transition (profile : Profile) (session : Session) :
    Step → Except Fault Reply → Session → Prop where
  | asked {step : Step} {answer : Except Fault Reply} : step.role = .asks →
      Transition profile session step answer session
  | failed {step : Step} {fault : Fault} : Transition profile session step (.error fault) session
  | made {step : Step} {register : String} {record : Metadata} :
      step.role = .makes register → record.Valid →
      Transition profile session step (.ok .done) (session.add register record)
  | shared {source register : String} {key : Nat} : session.key? source = some key →
      Transition profile session (.share source register) (.ok .done) (session.bind register key)
  | edited {register : String} {key : Nat} {assignment : Assignment} :
      session.key? register = some key →
      Transition profile session (.assign register assignment) (.ok .done)
        (session.store key ((session.records key).assign assignment))
  | applied {step : Step} {answer : Except Fault Reply} {register : String} {key : Nat}
      {chunked : Bool} {headers : List Header} :
      step.role = .changes register → session.key? register = some key →
      Transition profile session step answer
        (session.store key ((session.records key).applyAll profile chunked headers).record)

theorem step_transition (profile : Profile) (session : Session) (step : Step) :
    session.Transition profile step (session.step profile step).answer
      (session.step profile step).session := by
  cases step with
  | isEmpty | agree | same | encode => exact .asked rfl
  | readExpires value =>
    simp only [Session.step]
    cases profile.readExpires? value <;> exact .asked rfl
  | create register fields =>
    cases made : fields.checked with
    | error fault => simpa [Session.step, made, moving, answering] using .failed
    | ok record =>
      have valid := Metadata.valid_of_checked made
      simpa [Session.step, made, moving] using .made rfl valid
  | share source register =>
    cases held : session.key source with
    | error fault => simpa [Session.step, held, moving, answering] using .failed
    | ok key => simpa [Session.step, held, moving] using .shared (key_eq_ok_iff.mp held)
  | copy source register =>
    cases held : session.key source with
    | error fault => simpa [Session.step, record, held, moving, answering] using .failed
    | ok key =>
      cases made : (session.records key).checked with
      | error fault => simpa [Session.step, record, held, made, moving, answering] using .failed
      | ok copied =>
        have valid := Metadata.valid_of_checked made
        simpa [Session.step, record, held, made, moving] using .made rfl valid
  | assign register assignment =>
    cases held : session.key register with
    | error fault => simpa [Session.step, held, moving, answering] using .failed
    | ok key => simpa [Session.step, held, moving] using .edited (key_eq_ok_iff.mp held)
  | decode register collection =>
    cases held : session.key register with
    | error fault => simpa [Session.step, held, answering] using .failed
    | ok key =>
      obtain ⟨chunked, headers, same⟩ :=
        Metadata.exists_applyAll_of_decode profile collection (session.records key)
      simp only [Session.step, held, applying, same]
      exact .applied rfl (key_eq_ok_iff.mp held)
  | read register collection =>
    have valid := Metadata.valid_read profile collection
    simp only [Session.step]
    cases (Metadata.read profile collection).fault with
    | none => exact .made rfl valid
    | some fault => exact .failed
  | transfer source target =>
    simp only [Session.step]
    split
    · exact .failed
    next headers key reached =>
      -- the source has been written and the target found
      obtain ⟨_, -, reached⟩ := bind_eq_ok_iff.mp reached
      obtain ⟨_, -, reached⟩ := bind_eq_ok_iff.mp reached
      obtain ⟨found, held, reached⟩ := bind_eq_ok_iff.mp reached
      cases reached
      exact .applied rfl (key_eq_ok_iff.mp held)

/-- A copy of a record that passes its check again. -/
theorem step_copy_of_checked {profile : Profile} {session : Session} {source register : String}
    {key : Nat} {record : Metadata} (bound : session.key? source = some key)
    (made : (session.records key).checked = .ok record) :
    session.step profile (.copy source register) =
      { answer := .ok .done, notes := [], session := session.add register record } := by
  simp [Session.step, Session.record, key_eq_ok_iff.mpr bound, made, moving]

/-- Writing a record answers with its headers, or with what keeps it from being written, and
    changes nothing. -/
theorem step_encode_of_bound {profile : Profile} {session : Session} {register : String}
    {key : Nat} (bound : session.key? register = some key) :
    session.step profile (.encode register) =
      { answer := Reply.headers <$> (session.records key).toHeaders profile, notes := [],
        session } := by
  simp only [Session.step, Session.record, key_eq_ok_iff.mpr bound, map_ok, ok_bind, answering]
  cases (session.records key).toHeaders profile <;> rfl

/-! ## Runs -/

theorem after_cons (profile : Profile) (session : Session) (step : Step) (rest : List Step) :
    session.after profile (step :: rest) = (session.step profile step).session.after profile rest :=
  rfl

end Session

end EntityHeaders
