import EntityHeaders.Metadata.Headers

/-! # Sessions

A session keeps records under the names of registers.  Several registers may share
one record: a change through one of them is then seen through all.  So a register
is bound to a key, and the key leads to the record.

* `Step` — what can be done in a session.
* `step` — the reply to a step, the notes it leaves, and the session after it.  A
  step that fails leaves the session as it was, except that applying headers to a
  record may have changed that record.

Binding a register changes one key (`key?_bind`), storing a record changes one
record (`records_store`), and a new record gets a key of its own (`lt_freshKey`).
-/

namespace EntityHeaders

open Calendar (Timestamp)

structure Session where
  bindings : List (String × Nat) := []
  records : Nat → Metadata := fun _ => {}

inductive Step where
  | create (register : String) (fields : Metadata)
  | share (source register : String)
  | copy (source register : String)
  | assign (register : String) (assignment : Assignment)
  | isEmpty (register : String)
  | agree (left right : String)
  | same (left right : String)
  | encode (register : String)
  | decode (register : String) (headers : Collection)
  | read (register : String) (headers : Collection)
  | transfer (source target : String)
  | readExpires (value : Option String)

inductive Reply where
  | done
  | truth (b : Bool)
  | headers (headers : List Header)
  | timestamp (timestamp : Option Timestamp)
deriving DecidableEq

structure StepResult where
  answer : Except Fault Reply
  notes : List Note
  session : Session

namespace Session

/-! ## Registers -/

def key? (session : Session) (register : String) : Option Nat :=
  (session.bindings.find? (·.1 = register)).map (·.2)

def key (session : Session) (register : String) : Except Fault Nat :=
  match session.key? register with
  | some key => .ok key
  | none => .error (.missingKey register)

/-- A key above all that are bound. -/
def freshKey (session : Session) : Nat :=
  session.bindings.foldr (fun binding above => max (binding.2 + 1) above) 0

def bind (session : Session) (register : String) (key : Nat) : Session :=
  { session with
    bindings := session.bindings.filter (·.1 ≠ register) ++ [(register, key)] }

def store (session : Session) (key : Nat) (record : Metadata) : Session :=
  { session with
    records := fun other => if other = key then record else session.records other }

def add (session : Session) (register : String) (record : Metadata) : Session :=
  (session.store session.freshKey record).bind register session.freshKey

def record (session : Session) (register : String) : Except Fault Metadata :=
  session.records <$> session.key register

def contents (session : Session) : List (String × Metadata) :=
  session.bindings.map fun (register, key) => (register, session.records key)

/-! ## What binding and storing change -/

@[simp]
theorem records_bind (session : Session) (register : String) (key : Nat) :
    (session.bind register key).records = session.records :=
  rfl

@[simp]
theorem bindings_store (session : Session) (key : Nat) (record : Metadata) :
    (session.store key record).bindings = session.bindings :=
  rfl

@[simp]
theorem key?_store (session : Session) (key : Nat) (record : Metadata) (register : String) :
    (session.store key record).key? register = session.key? register :=
  rfl

theorem records_store (session : Session) (key other : Nat) (record : Metadata) :
    (session.store key record).records other =
      if other = key then record else session.records other :=
  rfl

/-- Binding a register changes the key of this register only. -/
theorem key?_bind (session : Session) (register other : String) (key : Nat) :
    (session.bind register key).key? other =
      if other = register then some key else session.key? other := by
  by_cases same : other = register
  · subst same
    have none : List.find? (fun _ => false) session.bindings = none := by simp
    simp [key?, bind, List.find?_append, List.find?_filter, none]
  · simp [key?, bind, List.find?_append, List.find?_filter, same, Ne.symm same]
    congr 1
    apply congrArg (fun p => List.find? p session.bindings)
    funext binding
    by_cases h : binding.1 = other <;> simp [h, same]

/-- A fresh key is above every key that is bound. -/
theorem lt_freshKey {session : Session} {register : String} {key : Nat}
    (bound : session.key? register = some key) : key < session.freshKey := by
  obtain ⟨binding, found, rfl⟩ := Option.map_eq_some_iff.mp bound
  have mem := List.mem_of_find?_eq_some found
  unfold freshKey
  generalize session.bindings = bindings at mem
  induction bindings with
  | nil => simp at mem
  | cons first rest ih =>
    rcases List.mem_cons.mp mem with rfl | mem
    · simp only [List.foldr_cons]
      omega
    · have := ih mem
      simp only [List.foldr_cons]
      omega

/-! ## Steps -/

/-- An answer that changes nothing. -/
def answering (session : Session) (answer : Except Fault Reply) : StepResult :=
  { answer, notes := [], session }

/-- A new session, or the same one and the fault. -/
def moving (session : Session) : Except Fault Session → StepResult
  | .ok next => { answer := .ok .done, notes := [], session := next }
  | .error fault => session.answering (.error fault)

/-- The outcome of headers for the record of a key; `reply` answers success. -/
def applying (session : Session) (key : Nat) (reply : Reply) (outcome : Outcome) :
    StepResult :=
  { answer :=
      match outcome.fault with
      | none => .ok reply
      | some fault => .error fault
    notes := outcome.notes
    session := session.store key outcome.record }

/-- What a step does. -/
def step (profile : Profile) (session : Session) : Step → StepResult
  | .create register fields =>
    session.moving do
      let record ← fields.checked.mapError .metadata
      return session.add register record
  | .share source register =>
    session.moving do
      return session.bind register (← session.key source)
  | .copy source register =>
    session.moving do
      -- an edited record may fail the check that it passed when it was made
      let record ← (← session.record source).checked.mapError .metadata
      return session.add register record
  | .assign register assignment =>
    session.moving do
      let key ← session.key register
      return session.store key ((session.records key).assign assignment)
  | .isEmpty register =>
    session.answering do
      let record ← session.record register
      return .truth (decide record.IsEmpty)
  | .agree left right =>
    session.answering do
      let left ← session.key left
      let right ← session.key right
      -- a record agrees with itself, even where it holds what is equal to nothing
      return .truth (left == right ||
        decide ((session.records left).Agrees (session.records right)))
  | .same left right =>
    session.answering do
      let left ← session.key left
      let right ← session.key right
      return .truth (left == right)
  | .encode register =>
    session.answering do
      let record ← session.record register
      return .headers (← record.toHeaders profile)
  | .decode register headers =>
    -- an unbound register comes before anything that is wrong with the headers
    match session.key register with
    | .error fault => session.answering (.error fault)
    | .ok key => session.applying key (.truth true) ((session.records key).decode profile headers)
  | .read register headers =>
    let outcome := Metadata.read profile headers
    match outcome.fault with
    | none =>
      { answer := .ok .done, notes := outcome.notes
        session := session.add register outcome.record }
    -- the record read in part is dropped, its notes are not
    | some fault => { answer := .error fault, notes := outcome.notes, session }
  | .transfer source target =>
    -- the source is written before the target is looked up
    match (do
      let headers ← (← session.record source).toHeaders profile
      let key ← session.key target
      return (headers, key)) with
    | .error fault => session.answering (.error fault)
    | .ok (headers, key) =>
      session.applying key .done ((session.records key).applyHeaders profile headers)
  | .readExpires value =>
    match profile.readExpires? value with
    | .ok (timestamp, notes) => { answer := .ok (.timestamp timestamp), notes, session }
    | .error fault => session.answering (.error fault)

def run (profile : Profile) (session : Session) : List Step → List StepResult
  | [] => []
  | step :: rest =>
    let result := session.step profile step
    result :: result.session.run profile rest

/-- The session after steps taken one after the other. -/
def after (profile : Profile) (session : Session) (steps : List Step) : Session :=
  steps.foldl (fun session step => (session.step profile step).session) session

end Session

end EntityHeaders
