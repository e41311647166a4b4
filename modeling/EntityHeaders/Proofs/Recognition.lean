import EntityHeaders.Metadata.Headers
import EntityHeaders.Proofs.Fallible
import EntityHeaders.Proofs.SmallLetters

/-! # Headers by their name

A header belongs to at most one field: the small forms of the names tell the fields
apart (`smallName_injective`), so looking a name up in the list of fields is the same
as comparing it with the name of one (`sameName_name`).  `valuesOf` is what is seen of
a list of headers under one name.
-/

namespace EntityHeaders

open Text (IsAscii lower lower_of_ascii strip)

/-! ## Names of fields -/

theorem sameName_iff {a b : String} : sameName a b = true ↔ lower a.toList = lower b.toList := by
  simp [sameName]

theorem sameName_refl (a : String) : sameName a a = true := by
  simp [sameName]

namespace Field

def smallName : Field → String
  | mediaType => "content-type"
  | disposition => "content-disposition"
  | coding => "content-encoding"
  | language => "content-language"
  | length => "content-length"
  | digest => "content-md5"
  | expires => "expires"

theorem lower_name (field : Field) : lower field.name.toList = field.smallName.toList := by
  cases field <;> rw [lower_of_ascii (by decide)] <;> decide

theorem smallName_injective {a b : Field} (same : a.smallName = b.smallName) : a = b := by
  cases a <;> cases b <;> first | rfl | exact absurd same (by decide)

theorem mem_all (field : Field) : field ∈ all := by
  cases field <;> decide

/-- The field of a name is the one whose name it is. -/
theorem ofName?_eq_some_iff {name : String} {field : Field} :
    ofName? name = some field ↔ sameName name field.name = true := by
  constructor
  · intro found
    simpa using List.find?_some found
  · intro same
    cases found : ofName? name with
    | none =>
      have missed := List.find?_eq_none.mp found field (mem_all field)
      exact absurd same (by simpa using missed)
    | some other =>
      -- both names have the small form of the given one, and no two fields share theirs
      have also : sameName name other.name = true := by simpa using List.find?_some found
      rw [sameName_iff] at same also
      rw [same, lower_name, lower_name, String.toList_inj] at also
      rw [smallName_injective also]

theorem ofName?_of_ascii {name : String} {field : Field} (ascii : IsAscii name.toList)
    (same : name.toList.map Char.toLower = field.name.toList.map Char.toLower) :
    ofName? name = some field := by
  have own : IsAscii field.name.toList := by
    cases field <;> decide
  rw [ofName?_eq_some_iff, sameName_of_ascii ascii own, same, beq_self_eq_true]

theorem sameName_name (name : String) (field : Field) :
    sameName name field.name = decide (ofName? name = some field) := by
  rw [Bool.eq_iff_iff, decide_eq_true_iff, ofName?_eq_some_iff]

@[simp]
theorem ofName?_name (field : Field) : ofName? field.name = some field :=
  ofName?_eq_some_iff.mpr (sameName_refl _)

theorem lower_transferEncoding :
    lower transferEncoding.toList = "transfer-encoding".toList := by
  rw [lower_of_ascii (by decide)]
  decide

/-- No field tells how the body is sent. -/
theorem not_sameName_transferEncoding {name : String} {field : Field}
    (named : ofName? name = some field) : sameName name transferEncoding = false := by
  rw [ofName?_eq_some_iff, sameName_iff, lower_name] at named
  rw [Bool.eq_false_iff, ne_eq, sameName_iff, lower_transferEncoding, named, String.toList_inj]
  cases field <;> decide

end Field

/-! ## Values under a name -/

/-- The values of the headers of a name, in their order. -/
def valuesOf (name : String) (headers : List Header) : List String :=
  (headers.filter fun header => sameName header.name name).map Header.value

@[simp]
theorem valuesOf_nil (name : String) : valuesOf name [] = [] :=
  rfl

theorem valuesOf_append (name : String) (left right : List Header) :
    valuesOf name (left ++ right) = valuesOf name left ++ valuesOf name right := by
  simp [valuesOf]

theorem valuesOf_single (field : Field) (header : Header) :
    valuesOf field.name [header] =
      if Field.ofName? header.name = some field then [header.value] else [] := by
  by_cases named : Field.ofName? header.name = some field
  · simp [valuesOf, Field.sameName_name, named]
  · simp [valuesOf, Field.sameName_name, named]

theorem valuesOf_of_ascii {name : String} {headers : List Header} (ascii : IsAscii name.toList)
    (names : ∀ header ∈ headers, IsAscii header.name.toList) :
    valuesOf name headers =
      (headers.filter fun header =>
        header.name.toList.map Char.toLower == name.toList.map Char.toLower).map Header.value := by
  unfold valuesOf
  congr 1
  apply List.filter_congr
  intro header mem
  exact sameName_of_ascii (names header mem) ascii

theorem mem_valuesOf {name value : String} {headers : List Header} :
    value ∈ valuesOf name headers ↔
      ∃ header ∈ headers, sameName header.name name = true ∧ header.value = value := by
  simp [valuesOf, and_assoc]

theorem isChunked_eq_any (headers : List Header) :
    isChunked headers = (valuesOf transferEncoding headers).any fun value =>
      lower (strip value.toList) == chunkedEncoding.toList := by
  simp only [isChunked, valuesOf, List.any_map, List.any_filter]
  rfl

theorem not_isChunked_of_fields {headers : List Header}
    (named : ∀ header ∈ headers, ∃ field, Field.ofName? header.name = some field) :
    isChunked headers = false := by
  apply List.any_eq_false.mpr
  intro header mem
  obtain ⟨field, name⟩ := named header mem
  simp [Header.saysChunked, Field.not_sameName_transferEncoding name]

/-! ## Plain lists -/

def Collection.ofHeaders (headers : List Header) : Collection :=
  .rows (headers.map fun header => [header.name, header.value])

@[simp]
theorem Collection.flatten_ofHeaders (headers : List Header) :
    (ofHeaders headers).flatten = .ok headers := by
  unfold ofHeaders flatten
  induction headers with
  | nil => rfl
  | cons header rest ih =>
    simp only [List.map_cons, List.mapM_cons, ih]
    rfl

@[simp]
theorem Metadata.decode_ofHeaders (profile : Profile) (headers : List Header)
    (record : Metadata) :
    record.decode profile (.ofHeaders headers) = record.applyHeaders profile headers := by
  simp [decode]

end EntityHeaders
