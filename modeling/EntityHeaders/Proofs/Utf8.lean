import EntityHeaders.Proofs.Wire

/-! # What is UTF-8

`decode?` undoes the encoding of characters that `String.utf8EncodeChar` is, and reads
nothing else:

* `two?_eq_some_iff`, `three?_eq_some_iff`, `four?_eq_some_iff` — the octets of a character,
  by the form that the first of them announces.
* `decode?_eq_some_iff` — octets are read as a text if and only if they are its encoding.
* `length_lt_of_high` — a text whose encoding is not ASCII has fewer characters than octets.
-/

namespace EntityHeaders.Text.Utf8

/-- The octets are the encoding of some text. -/
def IsUtf8 (octets : List UInt8) : Prop :=
  ∃ text : List Char, octets = text.flatMap String.utf8EncodeChar

/-! ## Pieces of a character -/

theorem scalar?_eq_some_iff {least n : Nat} {c : Char} :
    scalar? least n = some c ↔ c.toNat = n ∧ least ≤ n := by
  by_cases valid : n.isValidChar
  · rw [scalar?, dif_pos valid, Option.ite_none_right_eq_some, Option.some.injEq, and_comm]
    apply and_congr_left
    intro _
    constructor
    · rintro rfl
      rfl
    · rintro rfl
      rfl
  · rw [scalar?, dif_neg valid]
    simp only [reduceCtorEq, false_iff, not_and]
    rintro rfl
    exact absurd c.valid valid

theorem continuation?_eq_some_iff {octet : UInt8} {bits : Nat} :
    continuation? octet = some bits ↔ octet.toNat = 0x80 + bits ∧ bits < 0x40 := by
  unfold continuation?
  rw [Option.ite_none_right_eq_some, Option.some.injEq]
  omega

theorem eq_ofNat_iff {octet : UInt8} {n : Nat} (small : n < 256) :
    UInt8.ofNat n = octet ↔ octet.toNat = n := by
  rw [← UInt8.toNat_inj, UInt8.toNat_ofNat', Nat.mod_eq_of_lt small, eq_comm]

/-! ## Characters by their form -/

theorem toNat_lt (c : Char) : c.toNat < 0x110000 := by
  have valid : c.toNat.isValidChar := c.valid
  unfold Nat.isValidChar at valid
  omega

theorem encode_eq_one_iff {c : Char} {a : UInt8} :
    String.utf8EncodeChar c = [a] ↔ c.toNat < 0x80 ∧ a.toNat = c.toNat := by
  have code : c.val.toNat = c.toNat := rfl
  simp only [String.utf8EncodeChar, code]
  split
  · simp (disch := omega) only [List.cons.injEq, and_true, eq_ofNat_iff]
    omega
  · repeat' split
    all_goals simp
    all_goals omega

theorem encode_eq_two_iff {c : Char} {a b : UInt8} :
    String.utf8EncodeChar c = [a, b] ↔
      (0x80 ≤ c.toNat ∧ c.toNat < 0x800) ∧
        a.toNat = 0xC0 + c.toNat / 0x40 ∧ b.toNat = 0x80 + c.toNat % 0x40 := by
  have code : c.val.toNat = c.toNat := rfl
  simp only [String.utf8EncodeChar, code]
  split
  · simp
    omega
  · split
    · simp (disch := omega) only [List.cons.injEq, and_true, eq_ofNat_iff]
      omega
    · split
      all_goals simp
      all_goals omega

theorem encode_eq_three_iff {c : Char} {a b d : UInt8} :
    String.utf8EncodeChar c = [a, b, d] ↔
      (0x800 ≤ c.toNat ∧ c.toNat < 0x10000) ∧ a.toNat = 0xE0 + c.toNat / 0x1000 ∧
        b.toNat = 0x80 + c.toNat / 0x40 % 0x40 ∧ d.toNat = 0x80 + c.toNat % 0x40 := by
  have code : c.val.toNat = c.toNat := rfl
  simp only [String.utf8EncodeChar, code]
  split
  · simp
    omega
  · split
    · simp
      omega
    · split
      · simp (disch := omega) only [List.cons.injEq, and_true, eq_ofNat_iff]
        omega
      · simp
        omega

theorem encode_eq_four_iff {c : Char} {a b d e : UInt8} :
    String.utf8EncodeChar c = [a, b, d, e] ↔
      0x10000 ≤ c.toNat ∧ a.toNat = 0xF0 + c.toNat / 0x40000 ∧
        b.toNat = 0x80 + c.toNat / 0x1000 % 0x40 ∧ d.toNat = 0x80 + c.toNat / 0x40 % 0x40 ∧
        e.toNat = 0x80 + c.toNat % 0x40 := by
  have code : c.val.toNat = c.toNat := rfl
  have last := toNat_lt c
  simp only [String.utf8EncodeChar, code]
  split
  · simp
    omega
  · split
    · simp
      omega
    · split
      · simp
        omega
      · simp (disch := omega) only [List.cons.injEq, and_true, eq_ofNat_iff]
        omega

theorem exists_encode (c : Char) :
    (∃ a, String.utf8EncodeChar c = [a]) ∨ (∃ a b, String.utf8EncodeChar c = [a, b]) ∨
      (∃ a b d, String.utf8EncodeChar c = [a, b, d]) ∨
      ∃ a b d e, String.utf8EncodeChar c = [a, b, d, e] := by
  unfold String.utf8EncodeChar
  simp only
  repeat' split
  · exact .inl ⟨_, rfl⟩
  · exact .inr (.inl ⟨_, _, rfl⟩)
  · exact .inr (.inr (.inl ⟨_, _, _, rfl⟩))
  · exact .inr (.inr (.inr ⟨_, _, _, _, rfl⟩))

theorem two?_eq_some_iff {a b : UInt8} {c : Char} (lead : 0xC0 ≤ a.toNat ∧ a.toNat < 0xE0) :
    two? a b = some c ↔ String.utf8EncodeChar c = [a, b] := by
  simp only [two?, Option.bind_eq_bind, Option.bind_eq_some_iff, continuation?_eq_some_iff,
    scalar?_eq_some_iff, encode_eq_two_iff]
  constructor
  · rintro ⟨x, first, code, least⟩
    omega
  · rintro ⟨range, first, second⟩
    exact ⟨c.toNat % 0x40, by omega, by omega, by omega⟩

theorem three?_eq_some_iff {a b d : UInt8} {c : Char}
    (lead : 0xE0 ≤ a.toNat ∧ a.toNat < 0xF0) :
    three? a b d = some c ↔ String.utf8EncodeChar c = [a, b, d] := by
  simp only [three?, Option.bind_eq_bind, Option.bind_eq_some_iff, continuation?_eq_some_iff,
    scalar?_eq_some_iff, encode_eq_three_iff]
  constructor
  · rintro ⟨x, first, y, second, code, least⟩
    omega
  · rintro ⟨range, first, second, third⟩
    exact ⟨c.toNat / 0x40 % 0x40, by omega, c.toNat % 0x40, by omega, by omega, by omega⟩

theorem four?_eq_some_iff {a b d e : UInt8} {c : Char}
    (lead : 0xF0 ≤ a.toNat ∧ a.toNat < 0xF8) :
    four? a b d e = some c ↔ String.utf8EncodeChar c = [a, b, d, e] := by
  simp only [four?, Option.bind_eq_bind, Option.bind_eq_some_iff, continuation?_eq_some_iff,
    scalar?_eq_some_iff, encode_eq_four_iff]
  constructor
  · rintro ⟨x, first, y, second, z, third, code, least⟩
    omega
  · rintro ⟨range, first, second, third, fourth⟩
    exact ⟨c.toNat / 0x1000 % 0x40, by omega, c.toNat / 0x40 % 0x40, by omega, c.toNat % 0x40,
      by omega, by omega, by omega⟩

/-! ## Texts -/

theorem decode?_cons_two {a b : UInt8} (lead : 0xC0 ≤ a.toNat ∧ a.toNat < 0xE0)
    (rest : List UInt8) :
    decode? (a :: b :: rest) = do return (← two? a b) :: (← decode? rest) := by
  rw [decode?.eq_def]
  simp only
  rw [if_neg (by omega), if_neg (by omega), if_pos lead.2]

theorem decode?_cons_three {a b d : UInt8} (lead : 0xE0 ≤ a.toNat ∧ a.toNat < 0xF0)
    (rest : List UInt8) :
    decode? (a :: b :: d :: rest) = do return (← three? a b d) :: (← decode? rest) := by
  rw [decode?.eq_def]
  simp only
  rw [if_neg (by omega), if_neg (by omega), if_neg (by omega), if_pos lead.2]

theorem decode?_cons_four {a b d e : UInt8} (lead : 0xF0 ≤ a.toNat ∧ a.toNat < 0xF8)
    (rest : List UInt8) :
    decode? (a :: b :: d :: e :: rest) = do return (← four? a b d e) :: (← decode? rest) := by
  rw [decode?.eq_def]
  simp only
  rw [if_neg (by omega), if_neg (by omega), if_neg (by omega), if_neg (by omega), if_pos lead.2]

/-- The first octet tells how many octets to take, and these are read as the character. -/
theorem decode?_encode_append (c : Char) (rest : List UInt8) :
    decode? (String.utf8EncodeChar c ++ rest) = (c :: ·) <$> decode? rest := by
  rcases exists_encode c with ⟨a, form⟩ | ⟨a, b, form⟩ | ⟨a, b, d, form⟩ | ⟨a, b, d, e, form⟩
  · obtain ⟨ascii, octet⟩ := encode_eq_one_iff.mp form
    rw [form, List.cons_append, List.nil_append, decode?_cons_of_lt (octet ▸ ascii), octet,
      Char.ofNat_toNat]
  · have range := encode_eq_two_iff.mp form
    have lead : 0xC0 ≤ a.toNat ∧ a.toNat < 0xE0 := by omega
    simp only [form, List.cons_append, List.nil_append, decode?_cons_two lead,
      (two?_eq_some_iff lead).mpr form]
    cases decode? rest <;> rfl
  · have range := encode_eq_three_iff.mp form
    have lead : 0xE0 ≤ a.toNat ∧ a.toNat < 0xF0 := by omega
    simp only [form, List.cons_append, List.nil_append, decode?_cons_three lead,
      (three?_eq_some_iff lead).mpr form]
    cases decode? rest <;> rfl
  · have range := encode_eq_four_iff.mp form
    have last := toNat_lt c
    have lead : 0xF0 ≤ a.toNat ∧ a.toNat < 0xF8 := by omega
    simp only [form, List.cons_append, List.nil_append, decode?_cons_four lead,
      (four?_eq_some_iff lead).mpr form]
    cases decode? rest <;> rfl

theorem eq_encode_of_decode? {octets : List UInt8} {text : List Char}
    (read : decode? octets = some text) : octets = text.flatMap String.utf8EncodeChar := by
  -- one case for each form that a character can have, beside those that are no character
  fun_induction decode? octets generalizing text with
  | case1 =>
    cases read
    rfl
  | case2 a rest ascii ih =>
    obtain ⟨later, known, rfl⟩ := Option.map_eq_some_iff.mp read
    have one : String.utf8EncodeChar (Char.ofNat a.toNat) = [a] := by
      have code : (Char.ofNat a.toNat).toNat = a.toNat := by
        rw [Char.ofNat, dif_pos (.inl (by omega))]
        rfl
      exact encode_eq_one_iff.mpr ⟨by omega, code.symm⟩
    rw [List.flatMap_cons, one, ← ih known]
    rfl
  | case4 a _ _ lead b rest ih =>
    obtain ⟨c, first, later, known, made⟩ := by simpa [Option.bind_eq_some_iff] using read
    obtain rfl := made
    rw [List.flatMap_cons, (two?_eq_some_iff (by omega)).mp first, ← ih known]
    rfl
  | case6 a _ _ _ lead b d rest ih =>
    obtain ⟨c, first, later, known, made⟩ := by simpa [Option.bind_eq_some_iff] using read
    obtain rfl := made
    rw [List.flatMap_cons, (three?_eq_some_iff (by omega)).mp first, ← ih known]
    rfl
  | case8 a _ _ _ _ lead b d e rest ih =>
    obtain ⟨c, first, later, known, made⟩ := by simpa [Option.bind_eq_some_iff] using read
    obtain rfl := made
    rw [List.flatMap_cons, (four?_eq_some_iff (by omega)).mp first, ← ih known]
    rfl
  | case3 | case5 | case7 | case9 | case10 => cases read

/-- Octets are read as a text exactly if they are its encoding. -/
theorem decode?_eq_some_iff {octets : List UInt8} {text : List Char} :
    decode? octets = some text ↔ octets = text.flatMap String.utf8EncodeChar := by
  constructor
  · exact eq_encode_of_decode?
  · rintro rfl
    induction text with
    | nil => rfl
    | cons c rest ih =>
      rw [List.flatMap_cons, decode?_encode_append, ih]
      rfl

theorem isUtf8_iff {octets : List UInt8} : IsUtf8 octets ↔ ∃ text, decode? octets = some text := by
  simp only [IsUtf8, decode?_eq_some_iff]

instance (octets : List UInt8) : Decidable (IsUtf8 octets) :=
  decidable_of_iff ((decode? octets).isSome = true) <| by rw [isUtf8_iff, Option.isSome_iff_exists]

theorem length_le_encode (text : List Char) :
    text.length ≤ (text.flatMap String.utf8EncodeChar).length := by
  induction text with
  | nil => exact Nat.le_refl _
  | cons c rest ih =>
    have some_octet := c.utf8Size_pos
    rw [List.flatMap_cons, List.length_append, String.length_utf8EncodeChar, List.length_cons]
    omega

theorem two_le_encode_of_high {c : Char} {octet : UInt8}
    (mem : octet ∈ String.utf8EncodeChar c) (high : 0x80 ≤ octet.toNat) :
    2 ≤ (String.utf8EncodeChar c).length := by
  rcases exists_encode c with ⟨a, form⟩ | ⟨a, b, form⟩ | ⟨a, b, d, form⟩ | ⟨a, b, d, e, form⟩
  · obtain rfl : octet = a := by simpa [form] using mem
    have ascii := encode_eq_one_iff.mp form
    omega
  · simp [form]
  · simp [form]
  · simp [form]

/-- An encoding has an octet for each character, and more where it is not ASCII. -/
theorem length_lt_of_high {octets : List UInt8} {text : List Char}
    (read : decode? octets = some text) (high : ∃ octet ∈ octets, 0x80 ≤ octet.toNat) :
    text.length < octets.length := by
  obtain rfl := decode?_eq_some_iff.mp read
  clear read
  obtain ⟨octet, held, high⟩ := high
  obtain ⟨c, mem, own⟩ := List.mem_flatMap.mp held
  clear held
  -- the character with this octet has another one beside it
  obtain ⟨before, after, rfl⟩ := List.append_of_mem mem
  have long := two_le_encode_of_high own high
  have first := length_le_encode before
  have last := length_le_encode after
  rw [List.flatMap_append, List.flatMap_cons]
  simp only [List.length_append, List.length_cons]
  omega

end EntityHeaders.Text.Utf8
