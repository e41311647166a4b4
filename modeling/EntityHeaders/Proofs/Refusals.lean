import EntityHeaders.Proofs.Served
import Mathlib.Data.List.TakeWhile

/-! # Texts that a message refuses

A message carries its headers in a character set: that of a client in ASCII, a response in
Latin-1.  The names of the fields belong to both, so only a value can keep a record from being
sent, and it is refused for the first of its characters that the set does not have.

* `Unencodable.FirstIn`, `firstIn_of_encode` — where the characters lie for which a text is
  refused; `Unencodable.Report`, `report_message` — the words that tell it.
* `Charset.Refuses`, `refuses_of_encodeAll` — of several values the first one is reported.
* `sent_or_refused` — what becomes of a record that is sent by a client or in a response.
-/

namespace EntityHeaders

open Fallible (bind_eq_error_iff map_eq_error_iff map_eq_ok_iff mapError_error)
open Text (Charset Unencodable decimal)

/-! ## One text -/

namespace Text

/-- The run holds the first character of the text that its character set does not have, and
    those next to it up to the first one that the set has again. -/
structure Unencodable.FirstIn (run : Unencodable) (text : List Char) : Prop where
  before : ∀ i < run.start, ∃ c, text[i]? = some c ∧ c.toNat < run.charset.size
  first : text[run.start]? = some run.first
  ordered : run.start ≤ run.stop
  outside : ∀ i, run.start ≤ i → i ≤ run.stop →
    ∃ c, text[i]? = some c ∧ run.charset.size ≤ c.toNat
  ended : ∀ c, text[run.stop + 1]? = some c → c.toNat < run.charset.size

/-- How a character set and its size are called in the words of a refusal. -/
inductive Charset.Called : Charset → String → String → Prop
  | ascii : Called .ascii "ascii" "128"
  | latin1 : Called .latin1 "latin-1" "256"

/-- What is said of a run.  A single character is shown by its code point; of several ones only
    the places of the first and the last are told. -/
inductive Unencodable.Report : Unencodable → String → Prop
  | single {charset : Charset} {name size : String} (called : charset.Called name size)
      (first : Char) (place : Nat) :
      Report ⟨charset, first, place, place⟩
        ("'" ++ name ++ "' codec can't encode " ++ ("character '" ++
          String.ofList (codeEscape first) ++ "' in position " ++ toString place) ++
          ": ordinal not in range(" ++ size ++ ")")
  | several {charset : Charset} {name size : String} (called : charset.Called name size)
      (first : Char) {start stop : Nat} (apart : start < stop) :
      Report ⟨charset, first, start, stop⟩
        ("'" ++ name ++ "' codec can't encode " ++ ("characters in position " ++
          toString start ++ "-" ++ toString stop) ++ ": ordinal not in range(" ++ size ++ ")")

theorem Charset.called (charset : Charset) :
    charset.Called (charsetName charset) (toString charset.size) := by
  cases charset with
  | ascii => exact .ascii
  | latin1 => exact .latin1

/-- A run whose places are in order is reported in these words. -/
theorem Unencodable.report_message {run : Unencodable} (ordered : run.start ≤ run.stop) :
    run.Report (Fault.unencodable run).message := by
  obtain ⟨charset, first, start, stop⟩ := run
  change Report _ (unencodableMessage _)
  rcases Nat.eq_or_lt_of_le ordered with same | apart
  · cases same
    simp only [unencodableMessage, if_true]
    exact .single charset.called first start
  · simp only [unencodableMessage, if_neg (Nat.ne_of_lt apart)]
    exact .several charset.called first apart

theorem Unencodable.firstIn_split {charset : Charset} {held outside after : List Char}
    {first : Char} (within : ∀ c ∈ held, c.toNat < charset.size)
    (beyond : ∀ c ∈ first :: outside, charset.size ≤ c.toNat)
    (ended : ∀ c, after.head? = some c → c.toNat < charset.size) :
    FirstIn ⟨charset, first, held.length, held.length + outside.length⟩
      (held ++ (first :: outside ++ after)) where
  before := by
    intro i before
    rw [List.getElem?_append_left before, List.getElem?_eq_getElem before]
    exact ⟨_, rfl, within _ (List.getElem_mem before)⟩
  first := by
    rw [List.getElem?_append_right (Nat.le_refl _), Nat.sub_self]
    rfl
  ordered := Nat.le_add_right _ _
  outside := by
    intro i from_start to_stop
    have inside : i - held.length < (first :: outside).length := by
      rw [List.length_cons]
      simp only at to_stop
      omega
    rw [List.getElem?_append_right from_start, List.getElem?_append_left inside,
      List.getElem?_eq_getElem inside]
    exact ⟨_, rfl, beyond _ (List.getElem_mem inside)⟩
  ended := by
    intro c next
    have passed : held.length + outside.length + 1 = (held ++ first :: outside).length := by
      rw [List.length_append, List.length_cons, Nat.add_assoc]
    simp only at next
    rw [passed, ← List.append_assoc, List.getElem?_append_right (Nat.le_refl _), Nat.sub_self,
      ← List.head?_eq_getElem?] at next
    exact ended c next

namespace Charset

theorem not_holds_iff {charset : Charset} {c : Char} :
    charset.holds c = false ↔ charset.size ≤ c.toNat := by
  rw [Bool.eq_false_iff, ne_eq, holds_iff, Nat.not_lt]

/-- A text is refused for the first run of characters outside the set. -/
theorem firstIn_of_encode {charset : Charset} {text : List Char} {run : Unencodable}
    (refused : charset.encode text = .error run) :
    run.charset = charset ∧ run.FirstIn text := by
  unfold encode at refused
  split at refused
  next => cases refused
  next first rest cut =>
    obtain rfl := Except.error.inj refused
    refine ⟨rfl, ?_⟩
    have whole : text = text.takeWhile charset.holds ++
        (first :: rest.takeWhile (!charset.holds ·) ++ rest.dropWhile (!charset.holds ·)) := by
      rw [List.cons_append, List.takeWhile_append_dropWhile, ← cut,
        List.takeWhile_append_dropWhile]
    have start : charset.holds first = false := by
      have stopped := List.head?_dropWhile_not charset.holds text
      rwa [cut] at stopped
    have stop := List.head?_dropWhile_not (!charset.holds ·) rest
    conv => rhs; rw [whole]
    apply Unencodable.firstIn_split
    · intro c mem
      exact holds_iff.mp (List.mem_takeWhile_imp mem)
    · intro c mem
      rcases List.mem_cons.mp mem with rfl | mem
      · exact not_holds_iff.mp start
      · exact not_holds_iff.mp (by simpa using List.mem_takeWhile_imp mem)
    · intro c next
      rw [next] at stop
      exact holds_iff.mp (by simpa using stop)

/-! ## Several values -/

/-- The run is that of the first of the values that has a character outside the set. -/
inductive Refuses (charset : Charset) : List String → Unencodable → Prop
  | here {value : String} {rest : List String} {run : Unencodable}
      (same : run.charset = charset) (found : run.FirstIn value.toList) :
      Refuses charset (value :: rest) run
  | later {value : String} {rest : List String} {run : Unencodable}
      (within : ∀ c ∈ value.toList, c.toNat < charset.size)
      (found : Refuses charset rest run) : Refuses charset (value :: rest) run

theorem Refuses.report {charset : Charset} {values : List String} {run : Unencodable}
    (refused : charset.Refuses values run) : run.Report (Fault.unencodable run).message := by
  induction refused with
  | here same found => exact Unencodable.report_message found.ordered
  | later within found ih => exact ih

end Charset

end Text

namespace Header

variable {charset : Charset} {headers : List Header}

/-- A header whose name belongs to the set is refused for its value. -/
theorem firstIn_of_encode {header : Header} {run : Unencodable}
    (name : ∀ c ∈ header.name.toList, c.toNat < charset.size)
    (refused : header.encode charset = .error run) :
    run.charset = charset ∧ run.FirstIn header.value.toList := by
  rw [encode, Charset.encode_of_lt name] at refused
  rcases bind_eq_error_iff.mp refused with own | ⟨octets, -, own⟩
  · cases own
  · rcases bind_eq_error_iff.mp own with own | ⟨_, -, made⟩
    · exact Charset.firstIn_of_encode own
    · cases made

/-- Headers whose names belong to the set are refused for the first of their values that
    does not. -/
theorem refuses_of_encodeAll {fault : Fault}
    (names : ∀ header ∈ headers, ∀ c ∈ header.name.toList, c.toNat < charset.size)
    (refused : encodeAll charset headers = .error fault) :
    ∃ run, fault = .unencodable run ∧ charset.Refuses (headers.map value) run := by
  induction headers with
  | nil => cases refused
  | cons header rest ih =>
    rw [encodeAll, List.mapM_cons] at refused
    cases result : header.encode charset with
    | error run =>
      rw [result, mapError_error] at refused
      cases refused
      obtain ⟨same, found⟩ := firstIn_of_encode (names header (by simp)) result
      exact ⟨run, rfl, .here same found⟩
    | ok raw =>
      rw [result] at refused
      rcases bind_eq_error_iff.mp refused with own | ⟨_, -, remaining⟩
      · cases own
      rcases bind_eq_error_iff.mp remaining with others | ⟨_, -, made⟩
      · obtain ⟨run, rfl, found⟩ := ih (fun other mem => names other (by simp [mem])) others
        exact ⟨run, rfl, .later (encode_eq_ok_iff.mp result).1.value found⟩
      · cases made

/-- They are refused exactly if one of the values has a character outside the set. -/
theorem exists_encodeAll_error_iff
    (names : ∀ header ∈ headers, ∀ c ∈ header.name.toList, c.toNat < charset.size) :
    (∃ fault, encodeAll charset headers = .error fault) ↔
      ∃ header ∈ headers, ∃ c ∈ header.value.toList, charset.size ≤ c.toNat := by
  constructor
  · rintro ⟨fault, refused⟩
    by_contra none
    push Not at none
    have within : ∀ header ∈ headers, header.Within charset := fun header mem =>
      ⟨names header mem, none header mem⟩
    rw [encodeAll_of_within within] at refused
    cases refused
  · rintro ⟨header, mem, c, held, beyond⟩
    cases result : encodeAll charset headers with
    | error fault => exact ⟨fault, rfl⟩
    | ok raws =>
      have within := (encodeAll_eq_ok_iff.mp result).1 header mem
      exact absurd (within.value c held) (Nat.not_lt.mpr beyond)

end Header

/-! ## Octets read again -/

/-- The characters of octets, each of which must be one of the set. -/
def Text.Charset.decode? (charset : Charset) (octets : List UInt8) : Option (List Char) :=
  if octets.all (·.toNat < charset.size) then some (decodeLatin1 octets) else none

def RawHeader.decode? (charset : Charset) (raw : RawHeader) : Option Header := do
  let name ← charset.decode? raw.name
  let value ← charset.decode? raw.value
  return { name := String.ofList name, value := String.ofList value }

theorem Text.Charset.decode?_octets {charset : Charset} {text : List Char}
    (within : ∀ c ∈ text, c.toNat < charset.size) : charset.decode? (octets text) = some text := by
  have latin1 : ∀ c ∈ text, c.toNat < 256 := fun c mem =>
    Nat.lt_of_lt_of_le (within c mem) charset.size_le
  have each : (octets text).all (·.toNat < charset.size) = true := by
    rw [octets, List.all_map, List.all_eq_true]
    intro c mem
    exact decide_eq_true (toNat_octet (latin1 c mem) ▸ within c mem)
  rw [decode?, if_pos each, decodeLatin1_octets latin1]

theorem Header.decode?_raw {charset : Charset} {header : Header} (within : header.Within charset) :
    header.raw.decode? charset = some header := by
  simp [raw, RawHeader.decode?, Charset.decode?_octets within.name,
    Charset.decode?_octets within.value]

theorem Header.mapM_decode?_raw {charset : Charset} {headers : List Header}
    (within : ∀ header ∈ headers, header.Within charset) :
    (headers.map raw).mapM (RawHeader.decode? charset) = some headers := by
  have read : (headers.map raw).mapM (RawHeader.decode? charset) = some (headers.map id) :=
    mapM_raw fun header mem => decode?_raw (within header mem)
  rw [read, List.map_id]

namespace Metadata

variable {profile : Profile} {record : Metadata} {headers : List Header}

/-! ## Records that are sent -/

theorem smallNames_within (written : record.toHeaders profile = .ok headers) (charset : Charset) :
    ∀ header ∈ headers.map Header.lowerName, ∀ c ∈ header.name.toList,
      c.toNat < charset.size := by
  intro header mem
  obtain ⟨capital, held, rfl⟩ := List.mem_map.mp mem
  exact Header.lowerName_lt (names_within written charset capital held)

theorem clientHeaders_eq (written : record.toHeaders profile = .ok headers) :
    record.clientHeaders profile = Header.encodeAll .ascii headers := by
  rw [clientHeaders, written]
  rfl

/-- A response that is sent has the octets of the headers and of the length that it adds. -/
theorem decode?_response {response : Response} {status : Int} {body : List UInt8}
    (written : record.toHeaders profile = .ok headers)
    (sent : record.response profile status body = .ok response) :
    response.headers.mapM (RawHeader.decode? .latin1) =
      some ((record.sentHeaders status body.length headers).map Header.lowerName) := by
  rw [response_eq_map written, map_eq_ok_iff] at sent
  obtain ⟨raws, encoded, rfl⟩ := sent
  obtain ⟨small, rfl⟩ := Header.encodeAll_eq_ok_iff.mp encoded
  have within : ∀ header ∈ headers, header.Within .latin1 := fun header mem =>
    ⟨names_within written .latin1 header mem, (small _ (List.mem_map_of_mem mem)).value⟩
  simp only
  rw [← Header.map_lowerRaw, withLength_toHeaders written, Header.map_lowerRaw]
  exact Header.mapM_decode?_raw
    (Header.forall_within_lowerName (within_sentHeaders record within status body.length))

theorem map_value_lowerName (headers : List Header) :
    (headers.map Header.lowerName).map Header.value = headers.map Header.value := by
  rw [List.map_map]
  rfl

theorem lowerName_lengthField (size : Nat) :
    (lengthField size).lowerName =
      { name := "content-length", value := String.ofList (decimal size) } := by
  simp [lengthField, Header.lowerName, Field.lower_name, Field.smallName]

theorem mem_names_of_isText {field : Field} (text : field.isText = true) :
    field.name ∈
      ["Content-Type", "Content-Disposition", "Content-Encoding", "Content-Language"] := by
  cases field with
  | mediaType | disposition | coding | language => simp [Field.name]
  | length | digest | expires => cases text

/-- What is sent of a record that can be written.  A client refuses a value beyond ASCII and a
    response one beyond Latin-1, whatever else it carries, and either reports the first such
    value.  Otherwise the octets are those of the values, in order, to which a response adds the
    length of its body.  Under HTTP dates only the four texts of a record can be refused. -/
theorem sent_or_refused (written : record.toHeaders profile = .ok headers) :
    (((∃ fault, record.clientHeaders profile = .error fault) ↔
        ∃ header ∈ headers, ∃ c ∈ header.value.toList, 0x7F < c.toNat) ∧
      (∀ fault, record.clientHeaders profile = .error fault →
        ∃ run, fault = .unencodable run ∧
          Charset.ascii.Refuses (headers.map Header.value) run ∧ run.Report fault.message) ∧
      ∀ raws, record.clientHeaders profile = .ok raws →
        raws.mapM (RawHeader.decode? .ascii) = some headers) ∧
    (∀ (status : Int) (body : List UInt8),
      ((∃ fault, record.response profile status body = .error fault) ↔
        ∃ header ∈ headers, ∃ c ∈ header.value.toList, 0xFF < c.toNat) ∧
      (∀ fault, record.response profile status body = .error fault →
        ∃ run, fault = .unencodable run ∧
          Charset.latin1.Refuses (headers.map Header.value) run ∧ run.Report fault.message) ∧
      ∀ response, record.response profile status body = .ok response →
        response.headers.mapM (RawHeader.decode? .latin1) =
          some (headers.map Header.lowerName ++
            if record.AddsLength status then
              [{ name := "content-length", value := String.ofList (decimal body.length) }]
            else [])) ∧
    (profile.dates = .http →
      ∀ header ∈ headers, (∃ c ∈ header.value.toList, 0x7F < c.toNat) →
        header.value ∈ record.texts ∧ header.name ∈
          ["Content-Type", "Content-Disposition", "Content-Encoding", "Content-Language"]) := by
  refine ⟨⟨?_, ?_, ?_⟩, fun status body => ⟨?_, ?_, ?_⟩, ?_⟩
  · rw [clientHeaders_eq written]
    exact Header.exists_encodeAll_error_iff (names_within written .ascii)
  · intro fault refused
    rw [clientHeaders_eq written] at refused
    obtain ⟨run, rfl, found⟩ :=
      Header.refuses_of_encodeAll (names_within written .ascii) refused
    exact ⟨run, rfl, found, found.report⟩
  · intro raws sent
    rw [clientHeaders_eq written] at sent
    obtain ⟨within, rfl⟩ := Header.encodeAll_eq_ok_iff.mp sent
    exact Header.mapM_decode?_raw within
  · rw [response_eq_map written]
    simp only [map_eq_error_iff]
    rw [Header.exists_encodeAll_error_iff (smallNames_within written .latin1)]
    simp only [List.mem_map, exists_exists_and_eq_and]
    rfl
  · intro fault refused
    rw [response_eq_map written, map_eq_error_iff] at refused
    obtain ⟨run, rfl, found⟩ :=
      Header.refuses_of_encodeAll (smallNames_within written .latin1) refused
    rw [map_value_lowerName] at found
    exact ⟨run, rfl, found, found.report⟩
  · intro response sent
    rw [decode?_response written sent, sentHeaders, List.map_append]
    split
    · rw [List.map_singleton, lowerName_lengthField]
    · rfl
  · rintro http header mem ⟨c, held, high⟩
    have accented : ¬ Text.IsAscii header.value.toList := fun ascii =>
      Nat.not_le.mpr high (Nat.le_of_lt_succ (Text.isAscii_iff.mp ascii c held))
    obtain ⟨text, field, kind, named⟩ := text_of_accented http written mem accented
    exact ⟨text, named ▸ mem_names_of_isText kind⟩

/-- A format that writes every date with arrows, which are beyond Latin-1. -/
def arrowProfile : Profile where
  dates := { write := fun _ => .ok "é →→ 6", read := fun _ => .error (.rejected "") }

def accentedDate : Metadata where
  coding := some "gzip, é"
  expires := some .epoch

/-- A client stops at the accent of the first value, and a response at the arrows of the
    second. -/
theorem sent_or_refused_arrows :
    ∃ headers, accentedDate.toHeaders arrowProfile = .ok headers ∧
      accentedDate.clientHeaders arrowProfile = .error (.unencodable ⟨.ascii, 'é', 6, 6⟩) ∧
      Charset.ascii.Refuses (headers.map Header.value) ⟨.ascii, 'é', 6, 6⟩ ∧
      Unencodable.Report ⟨.ascii, 'é', 6, 6⟩ ("'ascii' codec can't encode character '\\xe9' " ++
        "in position 6: ordinal not in range(128)") ∧
      accentedDate.response arrowProfile 200 [] = .error (.unencodable ⟨.latin1, '→', 2, 3⟩) ∧
      Charset.latin1.Refuses (headers.map Header.value) ⟨.latin1, '→', 2, 3⟩ := by
  have written : accentedDate.toHeaders arrowProfile =
      .ok [⟨"Content-Encoding", "gzip, é"⟩, ⟨"Expires", "é →→ 6"⟩] := rfl
  have unsent : accentedDate.clientHeaders arrowProfile =
      .error (.unencodable ⟨.ascii, 'é', 6, 6⟩) := rfl
  have unanswered : accentedDate.response arrowProfile 200 [] =
      .error (.unencodable ⟨.latin1, '→', 2, 3⟩) := by
    decide +kernel
  obtain ⟨⟨-, client, -⟩, response, -⟩ := sent_or_refused written
  obtain ⟨_, same, accent, words⟩ := client _ unsent
  cases same
  obtain ⟨_, same, arrows, -⟩ := (response 200 []).2.1 _ unanswered
  cases same
  exact ⟨_, written, unsent, accent, words, unanswered, arrows⟩

end Metadata

end EntityHeaders
