import EntityHeaders.Proofs.Transition

/-! # What the steps of a session leave alone

* `Session.Framed` — what a step may change of the registers and the records, by its role;
  `framed_of_transition` shows it of every step, whether it succeeds or fails.
* `exists_share_of_meet` — the run: registers of different records come to have the same
  one by a step that shares it, and by no other.
* `records_after_of_spared` — the run: a record that is held and not changed through the
  registers that hold it is the same in the end.
* `step_frame` — the frame of a step and what follows from it for runs, a copy and its
  original among them.

The key of a record tells it from others only while a register holds the record: a key that
has been dropped may be given to a new one.  So what is said of a record over a run is said
of a record that is held all the time (`Along`).
-/

namespace EntityHeaders

namespace Session

/-! ## One step -/

/-- What a step of each role does at most.  A question changes nothing, and neither does a
    failure to make a record or to share one.  A record that is made is that of its register
    alone, and a change reaches one record, at success as well as at failure. -/
def Framed (before : Session) (answer : Except Fault Reply) (after : Session) : Step.Role → Prop
  | .asks => after = before
  | .makes register =>
    (∀ fault, answer = .error fault → after = before) ∧
      ∀ reply, answer = .ok reply → ∃ key, after.key? register = some key ∧
        (∀ other, other ≠ register →
          after.key? other = before.key? other ∧ after.key? other ≠ some key) ∧
        ∀ other held, before.key? other = some held → after.records held = before.records held
  | .shares source register =>
    (∀ fault, answer = .error fault → after = before) ∧
      (∀ reply, answer = .ok reply → after.key? register = before.key? source) ∧
      (∀ other, other ≠ register → after.key? other = before.key? other) ∧
      after.records = before.records
  | .changes register =>
    after.bindings = before.bindings ∧
      ∀ key, before.key? register ≠ some key → after.records key = before.records key

theorem framed_self (session : Session) (fault : Fault) (role : Step.Role) :
    session.Framed (.error fault) session role := by
  cases role with
  | asks => rfl
  | makes register => exact ⟨fun _ _ => rfl, (fun _ given => nomatch given)⟩
  | shares source register =>
    exact ⟨fun _ _ => rfl, (fun _ given => nomatch given), fun _ _ => rfl, rfl⟩
  | changes register => exact ⟨rfl, fun _ _ => rfl⟩

theorem framed_add (session : Session) (register : String) (record : Metadata) (reply : Reply) :
    session.Framed (.ok reply) (session.add register record) (.makes register) := by
  refine ⟨(fun _ given => nomatch given), fun _ _ => ⟨session.freshKey, ?_, ?_, ?_⟩⟩
  · rw [key?_add, if_pos rfl]
  · intro other different
    rw [key?_add, if_neg different]
    exact ⟨rfl, fun bound => ne_freshKey bound rfl⟩
  · intro other held bound
    exact records_add_of_bound bound record

theorem framed_store {session : Session} {register : String} {key : Nat}
    (bound : session.key? register = some key) (answer : Except Fault Reply) (record : Metadata) :
    session.Framed answer (session.store key record) (.changes register) := by
  refine ⟨rfl, fun other different => ?_⟩
  have apart : other ≠ key := fun same => different (same ▸ bound)
  rw [records_store, if_neg apart]

theorem framed_of_transition {profile : Profile} {before after : Session} {step : Step}
    {answer : Except Fault Reply} (moved : before.Transition profile step answer after) :
    before.Framed answer after step.role := by
  cases moved with
  | asked role =>
    rw [role]
    rfl
  | failed => exact framed_self before _ _
  | made role valid =>
    rw [role]
    exact framed_add before _ _ _
  | @shared source register key bound =>
    refine ⟨(fun _ given => nomatch given), fun _ _ => ?_, fun other different => ?_, rfl⟩
    · rw [key?_bind, if_pos rfl, bound]
    · rw [key?_bind, if_neg different]
  | edited bound => exact framed_store bound _ _
  | applied role bound =>
    rw [role]
    exact framed_store bound _ _

/-! ## Runs -/

/-- Every step of a run is taken where `holds` is true of the session and the step. -/
def Along (profile : Profile) (holds : Session → Step → Prop) : Session → List Step → Prop
  | _, [] => True
  | session, step :: rest =>
    holds session step ∧ Along profile holds (session.step profile step).session rest

theorem Along.mono {profile : Profile} {holds weaker : Session → Step → Prop}
    (weakens : ∀ now step, holds now step → weaker now step) {session : Session}
    {steps : List Step} (along : session.Along profile holds steps) :
    session.Along profile weaker steps := by
  induction steps generalizing session with
  | nil => trivial
  | cons step rest ih =>
    obtain ⟨here, later⟩ := along
    exact ⟨weakens session step here, ih later⟩

/-! ### Registers that meet -/

theorem key?_of_bindings {before after : Session} (same : after.bindings = before.bindings)
    (register : String) : after.key? register = before.key? register := by
  rw [key?, same, key?]

/-- The step: only sharing brings two registers together, and it binds one of the two. -/
theorem eq_share_of_meet {before after : Session} {step : Step} {answer : Except Fault Reply}
    (framed : before.Framed answer after step.role) {a b : String}
    (apart : before.key? a ≠ before.key? b) (together : after.key? a = after.key? b) :
    ∃ source register, step = .share source register ∧ (register = a ∨ register = b) := by
  cases role : step.role with
  | asks =>
    rw [role] at framed
    cases framed
    exact absurd together apart
  | makes register =>
    rw [role] at framed
    obtain ⟨fails, succeeds⟩ := framed
    cases answer with
    | error fault =>
      cases fails fault rfl
      exact absurd together apart
    | ok reply =>
      -- a record of its own is that of neither register's neighbour
      obtain ⟨key, own, others, -⟩ := succeeds reply rfl
      by_cases left : a = register
      · have right : b ≠ register := fun same => apart (by rw [left, same])
        exact absurd (by rw [← together, left, own]) (others b right).2
      · by_cases right : b = register
        · exact absurd (by rw [together, right, own]) (others a left).2
        · rw [(others a left).1, (others b right).1] at together
          exact absurd together apart
  | shares source register =>
    rw [role] at framed
    obtain ⟨-, -, others, -⟩ := framed
    refine ⟨source, register, Step.eq_share_of_role role, ?_⟩
    by_cases left : register = a
    · exact .inl left
    · by_cases right : register = b
      · exact .inr right
      · rw [others a (Ne.symm left), others b (Ne.symm right)] at together
        exact absurd together apart
  | changes register =>
    rw [role] at framed
    rw [key?_of_bindings framed.1, key?_of_bindings framed.1] at together
    exact absurd together apart

/-- The run: where two registers have come to share a record, there is a step that shares it
    with one of them, before which they had none in common. -/
theorem exists_share_of_meet {profile : Profile} {session : Session} {steps : List Step}
    {a b : String} (apart : session.key? a ≠ session.key? b)
    (together : (session.after profile steps).key? a = (session.after profile steps).key? b) :
    ∃ first source register rest, steps = first ++ .share source register :: rest ∧
      (register = a ∨ register = b) ∧
      (session.after profile first).key? a ≠ (session.after profile first).key? b ∧
      (session.after profile (first ++ [.share source register])).key? a =
        (session.after profile (first ++ [.share source register])).key? b := by
  induction steps generalizing session with
  | nil => exact absurd together apart
  | cons step rest ih =>
    have framed := framed_of_transition (step_transition profile session step)
    by_cases meet : (session.step profile step).session.key? a =
        (session.step profile step).session.key? b
    · obtain ⟨source, register, rfl, bound⟩ := eq_share_of_meet framed apart meet
      exact ⟨[], source, register, rest, rfl, bound, apart, meet⟩
    · obtain ⟨first, source, register, rest, rfl, bound, before, met⟩ := ih meet together
      exact ⟨step :: first, source, register, rest, rfl, bound, before, met⟩

/-! ### Records that are spared -/

def Held (session : Session) (key : Nat) : Prop :=
  ∃ register, session.key? register = some key

/-- If the step changes a record, it is not the one of the key. -/
def Spares (key : Nat) (session : Session) (step : Step) : Prop :=
  ∀ register, step.role = .changes register → session.key? register ≠ some key

/-- If the step changes a record, it is the one of the key. -/
def ChangesOnly (key : Nat) (session : Session) (step : Step) : Prop :=
  ∀ register bound, step.role = .changes register → session.key? register = some bound →
    bound = key

theorem spares_of_changesOnly {key other : Nat} (different : other ≠ key) {session : Session}
    {step : Step} (only : session.ChangesOnly other step) : session.Spares key step := by
  intro register role bound
  exact different (only register key role bound).symm

/-- The step: a record that is held is left alone unless the step changes it. -/
theorem records_of_spared {before after : Session} {step : Step} {answer : Except Fault Reply}
    (framed : before.Framed answer after step.role) {key : Nat} (held : before.Held key)
    (spared : before.Spares key step) : after.records key = before.records key := by
  cases role : step.role with
  | asks =>
    rw [role] at framed
    rw [show after = before from framed]
  | makes register =>
    rw [role] at framed
    obtain ⟨fails, succeeds⟩ := framed
    cases answer with
    | error fault => rw [fails fault rfl]
    | ok reply =>
      obtain ⟨_, _, _, kept⟩ := succeeds reply rfl
      obtain ⟨holder, bound⟩ := held
      exact kept holder key bound
  | shares source register =>
    rw [role] at framed
    rw [framed.2.2.2]
  | changes register =>
    rw [role] at framed
    exact framed.2 key (spared register role)

/-- The run: a record that is held all the time and never changed is what it was. -/
theorem records_after_of_spared {profile : Profile} {session : Session} {steps : List Step}
    {key : Nat}
    (kept : session.Along profile (fun now step => now.Held key ∧ now.Spares key step) steps) :
    (session.after profile steps).records key = session.records key := by
  induction steps generalizing session with
  | nil => rfl
  | cons step rest ih =>
    obtain ⟨⟨held, spared⟩, later⟩ := kept
    have framed := framed_of_transition (step_transition profile session step)
    rw [after_cons, ih later, records_of_spared framed held spared]

/-! ### Copies -/

theorem exists_checked_of_copy {profile : Profile} {session : Session} {source register : String}
    {key : Nat} (bound : session.key? source = some key)
    (done : (session.step profile (.copy source register)).answer = .ok .done) :
    ∃ record, (session.records key).checked = .ok record := by
  cases made : (session.records key).checked with
  | ok record => exact ⟨record, rfl⟩
  | error fault =>
    simp [step, record, key_eq_ok_iff.mpr bound, made, moving, answering] at done

/-! ## The frame of sessions -/

/-- Every step keeps to the frame of its role.  So two registers of different records get the
    same one only by a step that lets one of them share it.  And once a register has been
    copied, changes that go through registers of the one record leave the other as it is, for
    as long as any register holds it. -/
theorem step_frame (profile : Profile) :
    (∀ (session : Session) (step : Step),
      session.Framed (session.step profile step).answer (session.step profile step).session
        step.role) ∧
    (∀ (session : Session) (steps : List Step) (a b : String),
      session.key? a ≠ session.key? b →
      (session.after profile steps).key? a = (session.after profile steps).key? b →
      ∃ first source register rest, steps = first ++ .share source register :: rest ∧
        (register = a ∨ register = b) ∧
        (session.after profile first).key? a ≠ (session.after profile first).key? b ∧
        (session.after profile (first ++ [.share source register])).key? a =
          (session.after profile (first ++ [.share source register])).key? b) ∧
    ∀ (session : Session) (source target : String) (original : Nat),
      session.key? source = some original →
      (session.step profile (.copy source target)).answer = .ok .done →
      ∃ start duplicate, (session.step profile (.copy source target)).session = start ∧
        start.key? target = some duplicate ∧ duplicate ≠ original ∧
        (source ≠ target → start.key? source = some original) ∧
        start.records original = session.records original ∧
        ∀ steps,
          (start.Along profile
              (fun now step => now.Held original ∧ now.ChangesOnly duplicate step) steps →
            (start.after profile steps).records original = start.records original) ∧
          (start.Along profile
              (fun now step => now.Held duplicate ∧ now.ChangesOnly original step) steps →
            (start.after profile steps).records duplicate = start.records duplicate) := by
  refine ⟨?_, ?_, ?_⟩
  · intro session step
    exact framed_of_transition (step_transition profile session step)
  · intro session steps a b apart together
    exact exists_share_of_meet apart together
  · intro session source target original bound done
    obtain ⟨record, made⟩ := exists_checked_of_copy bound done
    have different : session.freshKey ≠ original := (ne_freshKey bound).symm
    rw [step_copy_of_checked bound made]
    refine ⟨_, session.freshKey, rfl, ?_, different, ?_, records_add_of_bound bound record, ?_⟩
    · rw [key?_add, if_pos rfl]
    · intro apart
      rw [key?_add, if_neg apart, bound]
    · intro steps
      constructor
      · intro along
        apply records_after_of_spared
        exact along.mono fun _ _ here => ⟨here.1, spares_of_changesOnly different here.2⟩
      · intro along
        apply records_after_of_spared
        exact along.mono fun _ _ here => ⟨here.1, spares_of_changesOnly different.symm here.2⟩

/-- A session with one record. -/
def sharedStart : Session :=
  Session.after {} {} [.create "a" { length := some (.whole 1) }]

/-- Changes of a copy, the last of which stops at a digest that cannot be read. -/
def copyChanges : List Step :=
  [.assign "b" (.length none), .decode "b" (.ofHeaders [⟨"Content-MD5", "?"⟩])]

/-- The original has its length still when the copy has lost it. -/
theorem step_frame_copy :
    ∃ start, (sharedStart.step {} (.copy "a" "b")).session = start ∧
      ((start.after {} copyChanges).records 0).length = some (.whole 1) ∧
      ((start.after {} copyChanges).records 1).length = none := by
  obtain ⟨-, -, copies⟩ := step_frame {}
  obtain ⟨start, duplicate, reached, held, -, -, -, runs⟩ :=
    copies sharedStart "a" "b" 0 rfl rfl
  cases reached
  obtain rfl : 1 = duplicate := Option.some.inj held
  have spared := (runs copyChanges).1 ?_
  · refine ⟨_, rfl, ?_, by decide +kernel⟩
    rw [spared]
    rfl
  · -- both steps change the record of the copy, and the original keeps its register
    refine ⟨⟨⟨"a", rfl⟩, ?_⟩, ⟨⟨"a", rfl⟩, ?_⟩, trivial⟩ <;>
      rintro register bound ⟨⟩ ⟨⟩ <;> rfl

end Session

end EntityHeaders
