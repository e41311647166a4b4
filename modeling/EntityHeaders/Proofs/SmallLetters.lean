import EntityHeaders.Field
import EntityHeaders.Text.Charset

/-! # Small letters of ASCII and Latin-1 texts

Only the first three runs of capitals lie within Latin-1, and the first of them within
ASCII.  So the small form of a Latin-1 text is taken letter by letter (`lower_of_latin1`)
and has no capitals left (`lower_lower_of_latin1`).  Two ASCII names are the same name if
their small letters are (`sameName_of_ascii`).
-/

namespace EntityHeaders

namespace Text

/-! ## Latin-1 -/

theorem find?_capitalRuns_of_latin1 {n : Nat} (latin1 : n < 0x100) :
    capitalRuns.find? (·.holds n) = (capitalRuns.take 3).find? (·.holds n) := by
  -- every run but the first three starts beyond Latin-1
  have starts : ∀ run ∈ capitalRuns.drop 3, 0x100 ≤ run.first := by decide +kernel
  have rest : (capitalRuns.drop 3).find? (·.holds n) = none := by
    apply List.find?_eq_none.mpr
    intro run mem
    have start := starts run mem
    simp only [CapitalRun.holds, Bool.and_eq_true, decide_eq_true_eq]
    omega
  conv => lhs; rw [← List.take_append_drop 3 capitalRuns, List.find?_append, rest]
  exact Option.or_none

/-- The small form of a character of Latin-1. -/
def smallLetter (c : Char) : Char :=
  if (0x41 ≤ c.toNat ∧ c.toNat ≤ 0x5A) ∨ (0xC0 ≤ c.toNat ∧ c.toNat ≤ 0xDE ∧ c.toNat ≠ 0xD7) then
    Char.ofNat (c.toNat + 32)
  else c

theorem exists_ofNat_of_lt {c : Char} {bound : Nat} (below : c.toNat < bound) :
    ∃ n : Fin bound, c = Char.ofNat n.val :=
  ⟨⟨c.toNat, below⟩, by simp⟩

theorem lowerChar_of_latin1 {c : Char} (latin1 : c.toNat < 0x100) :
    lowerChar c = [smallLetter c] := by
  have dotted : c ≠ '\u0130' := by
    rintro rfl
    simp at latin1
  rw [lowerChar, if_neg dotted, find?_capitalRuns_of_latin1 latin1]
  obtain ⟨n, rfl⟩ := exists_ofNat_of_lt latin1
  revert n
  decide +kernel

theorem lowerAfter_of_latin1 {text : List Char} (latin1 : ∀ c ∈ text, c.toNat < 0x100)
    (before : List Char) : lowerAfter before text = text.map smallLetter := by
  induction text generalizing before with
  | nil => rfl
  | cons c rest ih =>
    have first : c.toNat < 0x100 := latin1 c (by simp)
    -- the one letter that would look at its neighbours is not of Latin-1
    have sigma : c ≠ 'Σ' := by
      rintro rfl
      simp at first
    have small := ih (fun other mem => latin1 other (by simp [mem])) (c :: before)
    rw [lowerAfter, if_neg sigma, lowerChar_of_latin1 first, small]
    rfl

theorem lower_of_latin1 {text : List Char} (latin1 : ∀ c ∈ text, c.toNat < 0x100) :
    lower text = text.map smallLetter :=
  lowerAfter_of_latin1 latin1 []

theorem smallLetter_lt (charset : Charset) {c : Char} (holds : c.toNat < charset.size) :
    (smallLetter c).toNat < charset.size := by
  obtain ⟨n, rfl⟩ := exists_ofNat_of_lt holds
  revert n
  cases charset <;> decide +kernel

theorem smallLetter_smallLetter {c : Char} (latin1 : c.toNat < 0x100) :
    smallLetter (smallLetter c) = smallLetter c := by
  obtain ⟨n, rfl⟩ := exists_ofNat_of_lt latin1
  revert n
  decide +kernel

theorem lower_lower_of_latin1 {text : List Char} (latin1 : ∀ c ∈ text, c.toNat < 0x100) :
    lower (lower text) = lower text := by
  have small : ∀ c ∈ text.map smallLetter, c.toNat < 0x100 := by
    intro c mem
    obtain ⟨capital, held, rfl⟩ := List.mem_map.mp mem
    exact smallLetter_lt .latin1 (latin1 capital held)
  rw [lower_of_latin1 latin1, lower_of_latin1 small, List.map_map]
  exact List.map_congr_left fun c mem => smallLetter_smallLetter (latin1 c mem)

/-! ## ASCII -/

def IsAscii (text : List Char) : Prop :=
  text.all (fun c => c.toNat < 128) = true

instance (text : List Char) : Decidable (IsAscii text) :=
  inferInstanceAs (Decidable (_ = true))

theorem isAscii_iff {text : List Char} : IsAscii text ↔ ∀ c ∈ text, c.toNat < 128 := by
  simp [IsAscii]

theorem latin1_of_ascii {text : List Char} (ascii : ∀ c ∈ text, c.toNat < 128) :
    ∀ c ∈ text, c.toNat < 0x100 :=
  fun c mem => Nat.lt_trans (ascii c mem) (by decide)

theorem smallLetter_of_ascii {c : Char} (ascii : c.toNat < 128) : smallLetter c = c.toLower := by
  obtain ⟨n, rfl⟩ := exists_ofNat_of_lt ascii
  revert n
  decide +kernel

theorem lower_of_ascii {text : List Char} (ascii : IsAscii text) :
    lower text = text.map Char.toLower := by
  rw [isAscii_iff] at ascii
  rw [lower_of_latin1 (latin1_of_ascii ascii)]
  exact List.map_congr_left fun c mem => smallLetter_of_ascii (ascii c mem)

end Text

open Text

theorem sameName_of_ascii {a b : String} (left : IsAscii a.toList) (right : IsAscii b.toList) :
    sameName a b = (a.toList.map Char.toLower == b.toList.map Char.toLower) := by
  rw [sameName, lower_of_ascii left, lower_of_ascii right]

end EntityHeaders
