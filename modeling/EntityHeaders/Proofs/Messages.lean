import EntityHeaders.Proofs.Faults
import EntityHeaders.Proofs.Quotations

/-! # Messages about malformed values

The message about a malformed value quotes the value, and the words around the quotation are
those of the header and of the reason.  So it says all of the three, and it can be printed
whatever the value holds.

* `toList_message` — the five parts of such a message.
* `message_malformed_inj` — no two malformations have the same message, although a value may
  look like the end of one.
* `refusal_message` — the messages of the values that the readers refuse.
-/

namespace EntityHeaders

open Text (Shows isPrintable quote)

/-! ## Telling messages apart -/

theorem Field.name_append_inj {a b : Field} {left right : List Char}
    (same : a.name.toList ++ ' ' :: left = b.name.toList ++ ' ' :: right) :
    a = b ∧ left = right := by
  -- a name goes on to the first space
  have word : ∀ (field : Field) (rest : List Char),
      (field.name.toList ++ ' ' :: rest).takeWhile (· ≠ ' ') = field.name.toList := by
    intro field rest
    have letters : field.name.toList.all (· ≠ ' ') = true := by
      cases field <;> decide
    rw [List.takeWhile_append_of_pos (List.all_eq_true.mp letters)]
    simp
  have names := congrArg (List.takeWhile (· ≠ ' ')) same
  rw [word, word, String.toList_inj] at names
  obtain rfl := name_injective names
  exact ⟨rfl, by simpa using same⟩

namespace Fault

variable {field other : Field} {value value' : String} {malformation malformation' : Malformation}

theorem message_malformed (field : Field) (value : String) (malformation : Malformation) :
    (malformed field value malformation).message =
      "Invalid " ++ field.name ++ " header (" ++ quoted value ++ "): " ++ malformation.message :=
  rfl

theorem toList_message (field : Field) (value : String) (malformation : Malformation) :
    (malformed field value malformation).message.toList =
      "Invalid ".toList ++ (field.name.toList ++ ' ' :: ("header (".toList ++
        (quote value.toList ++ ("): ".toList ++ malformation.message.toList)))) := by
  have space : " header (".toList = ' ' :: "header (".toList := rfl
  rw [message_malformed]
  simp only [quoted, String.toList_append, String.toList_ofList, List.append_assoc, space,
    List.cons_append]

/-- The message tells the header, the value and the reason. -/
theorem message_malformed_inj
    (same : (malformed field value malformation).message =
      (malformed other value' malformation').message) :
    field = other ∧ value = value' ∧ malformation = malformation' := by
  have parts := congrArg String.toList same
  rw [toList_message, toList_message, List.append_cancel_left_eq] at parts
  obtain ⟨rfl, rest⟩ := Field.name_append_inj parts
  obtain ⟨values, reasons⟩ := Text.quote_append_inj (List.append_cancel_left rest)
  rw [List.append_cancel_left_eq, String.toList_inj] at reasons
  exact ⟨rfl, String.toList_inj.mp values, Malformation.message_injective reasons⟩

theorem isPrintable_of_mem_message {c : Char}
    (mem : c ∈ (malformed field value malformation).message.toList) : isPrintable c = true := by
  have words : ∀ text ∈ ["Invalid ", " ", "header (", "): "],
      text.toList.all isPrintable = true := by
    decide +kernel
  have name : field.name.toList.all isPrintable = true := by
    cases field <;> decide +kernel
  have reason : malformation.message.toList.all isPrintable = true := by
    cases malformation <;> decide +kernel
  simp only [List.all_eq_true] at words name reason
  simp only [toList_message, List.mem_append, List.mem_cons] at mem
  rcases mem with mem | mem | rfl | mem | mem | mem | mem
  · exact words "Invalid " (by simp) c mem
  · exact name c mem
  · exact words " " (by simp) ' ' (by decide)
  · exact words "header (" (by simp) c mem
  · exact Text.isPrintable_of_mem_quote mem
  · exact words "): " (by simp) c mem
  · exact reason c mem

end Fault

/-- The readers of header values refuse the text with this fault. -/
def Refused (text : String) (fault : Fault) : Prop :=
  readLength text = .error fault ∨ readDigest text = .error fault

theorem Refused.value_eq {text : String} {fault : Fault} (refused : Refused text fault)
    {header value reason : String} (about : fault.IsAbout header value reason) : value = text := by
  obtain ⟨field, malformation, rfl, -, -⟩ := about
  rcases refused with length | digest
  · rcases readLength_eq_error length with ⟨_, named⟩ | ⟨numeral, long⟩
    · cases named
      rfl
    · rw [readLength_of_long numeral long] at length
      cases length
  · cases readDigest_eq_error digest
    rfl

/-- A value that is refused as malformed is quoted as it stands, so that two such values have
    the same message only if header, value and reason are the same, and every character of a
    message has a visible form. -/
theorem refusal_message {text text' : String} {fault fault' : Fault}
    {header value reason header' value' reason' : String}
    (refused : Refused text fault) (about : fault.IsAbout header value reason)
    (refused' : Refused text' fault') (about' : fault'.IsAbout header' value' reason') :
    (value = text ∧ value' = text') ∧
    (fault.message = fault'.message → header = header' ∧ text = text' ∧ reason = reason') ∧
    ∀ c ∈ fault.message.toList, Shows c := by
  obtain rfl := refused.value_eq about
  obtain rfl := refused'.value_eq about'
  obtain ⟨field, malformation, rfl, rfl, rfl⟩ := about
  obtain ⟨field', malformation', rfl, rfl, rfl⟩ := about'
  refine ⟨⟨rfl, rfl⟩, ?_, ?_⟩
  · intro same
    obtain ⟨rfl, rfl, rfl⟩ := Fault.message_malformed_inj same
    exact ⟨rfl, rfl, rfl⟩
  · intro c mem
    exact Text.shows_of_isPrintable (Fault.isPrintable_of_mem_message mem)

/-- A line break and the two characters that stand for one in a quotation are told apart, and so
    is a value that looks like the end of the message. -/
theorem refusal_message_lookalikes :
    Refused "\n" (.malformed .length "\n" .notWhole) ∧
      Refused "\\n" (.malformed .length "\\n" .notWhole) ∧
      Refused "'): not an integer" (.malformed .digest "'): not an integer" .notBase64) ∧
      (Fault.malformed .length "\n" .notWhole).message ≠
        (Fault.malformed .length "\\n" .notWhole).message ∧
      (Fault.malformed .length "\n" .notWhole).message ≠
        (Fault.malformed .digest "'): not an integer" .notBase64).message ∧
      ∀ c ∈ (Fault.malformed .length "\n" .notWhole).message.toList, Shows c := by
  have line : Refused "\n" (.malformed .length "\n" .notWhole) := .inl rfl
  have slash : Refused "\\n" (.malformed .length "\\n" .notWhole) := .inl rfl
  have ended : Refused "'): not an integer" (.malformed .digest "'): not an integer" .notBase64) :=
    .inr rfl
  have about : ∀ field value malformation, (Fault.malformed field value malformation).IsAbout
      field.name value malformation.message := fun field value malformation =>
    (Fault.isAbout_iff field value malformation).mpr rfl
  have first := refusal_message line (about ..) slash (about ..)
  have second := refusal_message line (about ..) ended (about ..)
  refine ⟨line, slash, ended, ?_, ?_, first.2.2⟩
  · intro same
    exact absurd (first.2.1 same).2.1 (by decide)
  · intro same
    exact absurd (second.2.1 same).2.1 (by decide)

end EntityHeaders
