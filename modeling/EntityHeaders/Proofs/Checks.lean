import EntityHeaders.Metadata
import EntityHeaders.Proofs.Fallible

/-! # What making a record checks

A length must be a number of octets within range, and a digest is kept as fixed octets, which
a list of numbers has only if each of them is one.  What is neither is refused, the length
before the digest.

* `Length.Refusal` — the words about a value that is no length, by `check_eq_error` the ones
  that are given.
* `Digest.Holds` — the octets that a digest consists of, by `freeze_eq_ok_iff` the ones that
  are kept.
* `exists_checked_iff` — the fields that make a record; `checked_of_refused` and
  `checked_of_otherNumbers` tell what is reported of all others.
* `IsCopy` — what the record has in common with the fields, by `isCopy_of_checked`.
-/

namespace EntityHeaders

open Fallible (bind_eq_ok_iff mapError_eq_ok_iff mapM_eq_ok_iff)
open Text (decimal decimalInt digitLimit isWritable)

/-! ## Lengths -/

theorem Length.check_eq_ok_iff {length : Length} {n : Nat} :
    length.check = .ok n ↔ length = .whole n ∧ n ≤ maxLength := by
  cases length with
  | whole m =>
    simp only [check]
    constructor
    · intro checked
      split at checked
      · cases checked
      · split at checked
        · cases checked
        · cases checked
          exact ⟨congrArg Length.whole (by omega), by omega⟩
    · rintro ⟨same, fits⟩
      cases same
      rw [if_neg (by omega), if_neg (by omega), Int.toNat_natCast]
  | flag | fraction | text => simp [check]

/-- What is said of a value that is no length.  It is about the kind of the value, or it
    shows the number, unless that has too many digits to be written at all. -/
inductive Length.Refusal : Length → String → Prop where
  | flag {b : Bool} : Refusal (.flag b) "Content length must be an int, got bool"
  | fraction {x : Fraction} : Refusal (.fraction x) "Content length must be an int, got float"
  | text {s : String} : Refusal (.text s) "Content length must be an int, got str"
  | negative {n : Nat} (below : 0 < n) (short : (decimal n).length ≤ 4300) :
      Refusal (.whole (-n))
        ("Content length must be non-negative, got " ++ String.ofList ('-' :: decimal n))
  | tooGreat {n : Nat} (great : Nat.pow 2 63 - 1 < n) (short : (decimal n).length ≤ 4300) :
      Refusal (.whole n)
        ("Content length " ++ String.ofList (decimal n) ++ " does not fit in 64 bits")
  | unwritable {n : Int} (outside : n < 0 ∨ ((Nat.pow 2 63 - 1 : Nat) : Int) < n)
      (long : 4300 < (decimal n.natAbs).length) :
      Refusal (.whole n) ("Exceeds the limit (4300 digits) for integer string conversion; " ++
        "use sys.set_int_max_str_digits() to increase the limit")

theorem Text.decimalInt_neg {n : Nat} (below : 0 < n) : decimalInt (-n) = '-' :: decimal n := by
  cases n with
  | zero => omega
  | succ n => rfl

theorem Text.isWritable_iff {n : Int} :
    isWritable n = true ↔ (decimal n.natAbs).length ≤ digitLimit := by
  have places := Nat.length_toDigits_le_iff (b := 10) (k := digitLimit) (n := n.natAbs) (by decide)
    (by decide)
  rw [isWritable, decide_eq_true_iff, Nat.pow_eq, decimal, places]

namespace Length

theorem Fault.withDigits_of_short {n : Int} (short : (decimal n.natAbs).length ≤ digitLimit)
    (message : String → String) :
    withDigits n message = message (String.ofList (decimalInt n)) := by
  rw [withDigits, if_pos (Text.isWritable_iff.mpr short)]

theorem Fault.withDigits_of_long {n : Int} (long : digitLimit < (decimal n.natAbs).length)
    (message : String → String) :
    withDigits n message = "Exceeds the limit (4300 digits) for integer string conversion; " ++
      "use sys.set_int_max_str_digits() to increase the limit" := by
  have unwritable : ¬ isWritable n = true :=
    fun writable => Nat.not_le.mpr long (Text.isWritable_iff.mp writable)
  rw [withDigits, if_neg unwritable]
  rfl

theorem refusal_negative {n : Nat} (below : 0 < n) :
    Refusal (.whole (-n)) (Fault.negative (-n)).message := by
  have magnitude : (-n : Int).natAbs = n := by omega
  unfold Fault.message
  dsimp only
  rcases Nat.lt_or_ge digitLimit (decimal n).length with long | short
  · rw [Fault.withDigits_of_long (by rwa [magnitude])]
    exact .unwritable (.inl (by omega)) (by rwa [magnitude])
  · rw [Fault.withDigits_of_short (by rwa [magnitude]), Text.decimalInt_neg below]
    exact .negative below short

theorem refusal_tooGreat {n : Nat} (great : maxLength < n) :
    Refusal (.whole n) (Fault.tooGreat n).message := by
  have magnitude : (n : Int).natAbs = n := by omega
  unfold Fault.message
  dsimp only
  rcases Nat.lt_or_ge digitLimit (decimal n).length with long | short
  · rw [Fault.withDigits_of_long (by rwa [magnitude])]
    exact .unwritable (.inr (Int.ofNat_lt.mpr great)) (by rwa [magnitude])
  · rw [Fault.withDigits_of_short (by rwa [magnitude])]
    exact .tooGreat great short

/-- A value that is no length is refused, in the words for it. -/
theorem check_eq_error {length : Length} {fault : Fault} (refused : length.check = .error fault) :
    length.Refusal fault.message := by
  cases length with
  | whole n =>
    simp only [check] at refused
    split at refused
    next below =>
      cases refused
      obtain ⟨m, rfl⟩ : ∃ m : Nat, n = -m := ⟨n.natAbs, by omega⟩
      exact refusal_negative (by omega)
    next =>
      split at refused
      next great =>
        cases refused
        obtain ⟨m, rfl⟩ : ∃ m : Nat, n = m := ⟨n.natAbs, by omega⟩
        exact refusal_tooGreat (Int.ofNat_lt.mp great)
      next => cases refused
  | flag b =>
    cases refused
    exact .flag
  | fraction x =>
    cases refused
    exact .fraction
  | text s =>
    cases refused
    exact .text

end Length

/-! ## Digests -/

namespace Digest

/-- The digest consists of these octets, kept in a carrier or listed as numbers. -/
def Holds (data : List UInt8) : Digest → Prop
  | octets _ own => own = data
  | numbers values => values = data.map fun octet => (octet.toNat : Int)

theorem isOctet_iff {n : Int} : isOctet n = true ↔ 0 ≤ n ∧ n ≤ 255 := by
  simp only [isOctet, Bool.and_eq_true, decide_eq_true_eq]
  omega

theorem map_ofNat_octets (data : List UInt8) :
    (data.map fun octet => (octet.toNat : Int)).map (fun n => UInt8.ofNat n.toNat) = data := by
  rw [List.map_map]
  conv => rhs; rw [← List.map_id data]
  apply List.map_congr_left
  intro octet _
  simp only [Function.comp, Int.toNat_natCast, UInt8.ofNat_toNat, id]

theorem map_octets_ofNat {values : List Int} (octets : ∀ n ∈ values, 0 ≤ n ∧ n ≤ 255) :
    (values.map fun n => UInt8.ofNat n.toNat).map (fun octet => (octet.toNat : Int)) = values := by
  rw [List.map_map]
  conv => rhs; rw [← List.map_id values]
  apply List.map_congr_left
  intro n mem
  have range := octets n mem
  have kept : (UInt8.ofNat n.toNat).toNat = n.toNat := by
    rw [UInt8.toNat_ofNat', Nat.mod_eq_of_lt (by omega)]
  simp only [Function.comp, kept, id]
  omega

/-- What is kept as fixed octets is what the digest consists of. -/
theorem freeze_eq_ok_iff {digest frozen : Digest} :
    digest.freeze = .ok frozen ↔ ∃ data, digest.Holds data ∧ frozen = .ofOctets data := by
  cases digest with
  | octets carrier data => simp [freeze, Holds, eq_comm]
  | numbers values =>
    simp only [freeze, Holds]
    constructor
    · intro kept
      split at kept
      next octets =>
        cases kept
        have ranges : ∀ n ∈ values, 0 ≤ n ∧ n ≤ 255 := fun n mem =>
          isOctet_iff.mp (List.all_eq_true.mp octets n mem)
        exact ⟨_, (map_octets_ofNat ranges).symm, rfl⟩
      next => cases kept
    · rintro ⟨data, rfl, rfl⟩
      have octets : (data.map fun octet => (octet.toNat : Int)).all isOctet = true := by
        simp only [List.all_map, List.all_eq_true, Function.comp, isOctet_iff]
        intro octet _
        have := octet.toNat_lt
        omega
      rw [if_pos octets, map_ofNat_octets]

theorem freeze_eq_error {digest : Digest} {fault : Fault} (failed : digest.freeze = .error fault) :
    fault = .notAnOctet ∧ ∃ values, digest = .numbers values ∧
      ¬ ∀ n ∈ values, 0 ≤ n ∧ n ≤ 255 := by
  cases digest with
  | octets carrier data => cases failed
  | numbers values =>
    simp only [freeze] at failed
    split at failed
    next => cases failed
    next other =>
      cases failed
      refine ⟨rfl, values, rfl, fun ranges => other ?_⟩
      exact List.all_eq_true.mpr fun n mem => isOctet_iff.mpr (ranges n mem)

end Digest

/-! ## Records -/

theorem both_iff {α : Type} {related : α → α → Prop} {a b : Option α} :
    Both related a b ↔
      a = none ∧ b = none ∨ ∃ x y, a = some x ∧ b = some y ∧ related x y := by
  cases a <;> cases b <;> simp [Both]

namespace Metadata

variable {record copied : Metadata}

/-- The length, if there is one, is a number of octets within range. -/
def Sized (record : Metadata) : Prop :=
  ∀ length ∈ record.length, ∃ n : Nat, length = .whole n ∧ n ≤ Nat.pow 2 63 - 1

theorem not_sized_iff :
    ¬ record.Sized ↔ ∃ length fault, record.length = some length ∧ length.check = .error fault := by
  constructor
  · intro unsized
    cases held : record.length with
    | none => exact absurd (fun length mem => nomatch held.symm.trans mem) unsized
    | some length =>
      cases checked : length.check with
      | error fault => exact ⟨length, fault, rfl, checked⟩
      | ok n =>
        refine absurd ?_ unsized
        intro other mem
        cases held.symm.trans mem
        exact ⟨n, Length.check_eq_ok_iff.mp checked⟩
  · rintro ⟨length, fault, held, refused⟩ sized
    obtain ⟨n, whole⟩ := sized length held
    cases (Length.check_eq_ok_iff.mpr whole).symm.trans refused

/-- A length that is refused is refused where a record is made, whatever its digest is. -/
theorem checked_of_refused {length : Length} {fault : Length.Fault}
    (held : record.length = some length) (refused : length.check = .error fault) :
    record.checked = .error (.length fault) := by
  simp [checked, held, refused]

/-- Where the digest is a list of numbers, each of them is an octet. -/
def ListsOctets (record : Metadata) : Prop :=
  ∀ values, record.digest = some (.numbers values) → ∀ n ∈ values, 0 ≤ n ∧ n ≤ 255

/-- The digest alone decides about a record with a good length. -/
theorem checked_of_sized (sized : record.Sized) :
    record.checked = do
      let digest ← record.digest.mapM fun digest => digest.freeze.mapError FieldFault.digest
      return { record with digest } := by
  cases held : record.length with
  | none => simp [checked, held]
  | some length =>
    obtain ⟨n, whole⟩ := sized length held
    simp [checked, held, Length.check_eq_ok_iff.mpr whole]

/-- Of a record with a good length a digest that lists other numbers than octets is reported. -/
theorem checked_of_otherNumbers (sized : record.Sized) (other : ¬ record.ListsOctets) :
    record.checked = .error (.digest .notAnOctet) := by
  rw [checked_of_sized sized]
  cases held : record.digest with
  | none => exact absurd (fun values some => nomatch held.symm.trans some) other
  | some digest =>
    cases kept : digest.freeze with
    | error fault =>
      obtain ⟨rfl, -⟩ := Digest.freeze_eq_error kept
      simp [kept]
    | ok frozen =>
      obtain ⟨data, holds, -⟩ := Digest.freeze_eq_ok_iff.mp kept
      refine absurd ?_ other
      intro values same n mem
      cases held.symm.trans same
      obtain ⟨octet, -, rfl⟩ := List.mem_map.mp (holds ▸ mem)
      have := octet.toNat_lt
      omega

theorem exists_checked_iff :
    (∃ copied, record.checked = .ok copied) ↔ record.Sized ∧ record.ListsOctets := by
  constructor
  · rintro ⟨copied, made⟩
    have sized : record.Sized := by
      apply Classical.byContradiction
      intro unsized
      obtain ⟨length, fault, held, refused⟩ := not_sized_iff.mp unsized
      cases (checked_of_refused held refused).symm.trans made
    refine ⟨sized, ?_⟩
    apply Classical.byContradiction
    intro other
    cases (checked_of_otherNumbers sized other).symm.trans made
  · rintro ⟨sized, listed⟩
    rw [checked_of_sized sized]
    cases held : record.digest with
    | none => exact ⟨_, rfl⟩
    | some digest =>
      cases kept : digest.freeze with
      | ok frozen => exact ⟨{ record with digest := some frozen }, by simp [kept]⟩
      | error fault =>
        obtain ⟨-, values, rfl, other⟩ := Digest.freeze_eq_error kept
        exact absurd (listed values held) other

/-- The same values in every field, and the same octets of a digest, which are fixed. -/
structure IsCopy (copied record : Metadata) : Prop where
  mediaType : copied.mediaType = record.mediaType
  disposition : copied.disposition = record.disposition
  coding : copied.coding = record.coding
  language : copied.language = record.language
  length : copied.length = record.length
  digest : Both (fun digest frozen => ∃ data, digest.Holds data ∧ frozen = .ofOctets data)
    record.digest copied.digest
  expires : copied.expires = record.expires

theorem isCopy_of_checked (made : record.checked = .ok copied) : copied.IsCopy record := by
  obtain ⟨_, -, made⟩ := bind_eq_ok_iff.mp made
  obtain ⟨frozen, digests, made⟩ := bind_eq_ok_iff.mp made
  cases made
  refine ⟨rfl, rfl, rfl, rfl, rfl, ?_, rfl⟩
  apply both_iff.mpr
  rcases mapM_eq_ok_iff.mp digests with ⟨absent, rfl⟩ | ⟨digest, kept, held, freezes, rfl⟩
  · exact .inl ⟨absent, rfl⟩
  · have octets := Digest.freeze_eq_ok_iff.mp (mapError_eq_ok_iff.mp freezes)
    exact .inr ⟨digest, kept, held, rfl, octets⟩

end Metadata

end EntityHeaders
