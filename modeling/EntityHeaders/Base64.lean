/-! # Base64

Octets as text, six bits a digit.

* `encode` — three octets become four digits; one or two octets left over become
  two or three digits and are padded with `=` to a group of four.
* `decode?` — digits first, padding after them, nothing else.  Two or three digits
  left over need exactly the padding that completes their group; after complete
  groups any padding is allowed, but padding alone is no text.  Bits left over
  after the last octet are ignored.

`decode?_encode` ties the two: octets are read back from their text.  It rests on
`octets_sextets`, the same for the six-bit numbers between them.
-/

namespace EntityHeaders.Base64

/-! ## Digits -/

/-- The digit of a six-bit number. -/
def digit (n : Nat) : Char :=
  if n < 26 then Char.ofNat (n + 65)
  else if n < 52 then Char.ofNat (n + 71)
  else if n < 62 then Char.ofNat (n - 4)
  else if n = 62 then '+'
  else '/'

def sextet? (c : Char) : Option Nat :=
  if 'A' ≤ c ∧ c ≤ 'Z' then some (c.toNat - 65)
  else if 'a' ≤ c ∧ c ≤ 'z' then some (c.toNat - 71)
  else if '0' ≤ c ∧ c ≤ '9' then some (c.toNat + 4)
  else if c = '+' then some 62
  else if c = '/' then some 63
  else none

def isDigit (c : Char) : Bool :=
  (sextet? c).isSome

/-! ## Octets and sextets -/

/-- The six-bit numbers that carry the octets, the last one filled up with zero
bits. -/
def sextets : List UInt8 → List Nat
  | [] => []
  | [a] => [a.toNat / 4, a.toNat % 4 * 16]
  | [a, b] => [a.toNat / 4, a.toNat % 4 * 16 + b.toNat / 16, b.toNat % 16 * 4]
  | a :: b :: c :: rest =>
    [a.toNat / 4, a.toNat % 4 * 16 + b.toNat / 16, b.toNat % 16 * 4 + c.toNat / 64,
      c.toNat % 64] ++ sextets rest

/-- The octets that six-bit numbers carry; bits that fill no octet are dropped. -/
def octets : List Nat → List UInt8
  | p :: q :: r :: s :: rest =>
    [UInt8.ofNat (p * 4 + q / 16), UInt8.ofNat (q % 16 * 16 + r / 4),
      UInt8.ofNat (r % 4 * 64 + s)] ++ octets rest
  -- the last group: what its digits carry beyond whole octets is lost
  | [p, q, r] => [UInt8.ofNat (p * 4 + q / 16), UInt8.ofNat (q % 16 * 16 + r / 4)]
  | [p, q] => [UInt8.ofNat (p * 4 + q / 16)]
  | _ => []

/-! ## Texts -/

/-- How many padding signs complete the last group of `digits` digits. -/
def paddingFor (digits : Nat) : Nat :=
  (4 - digits % 4) % 4

/-- Whether `padding` signs may follow `digits` digits. -/
def closes (digits padding : Nat) : Bool :=
  match digits % 4 with
  -- after whole groups padding is idle, but it is no text of its own
  | 0 => digits != 0 || padding == 0
  | 1 => false
  | _ => padding == paddingFor digits

def encode (data : List UInt8) : List Char :=
  let digits := (sextets data).map digit
  digits ++ List.replicate (paddingFor digits.length) '='

/-- The octets of a text, if it is digits and an allowed padding. -/
def decode? (text : List Char) : Option (List UInt8) :=
  let digits := text.takeWhile isDigit
  let padding := text.dropWhile isDigit
  if padding.all (· = '=') ∧ closes digits.length padding.length then
    some (octets (digits.filterMap sextet?))
  else none

/-! ## Reading what was written -/

theorem sextet?_digit {n : Nat} (h : n < 64) : sextet? (digit n) = some n := by
  revert n
  decide

theorem isDigit_digit {n : Nat} (h : n < 64) : isDigit (digit n) = true := by
  simp [isDigit, sextet?_digit h]

theorem lt_of_mem_sextets {data : List UInt8} {n : Nat} (h : n ∈ sextets data) : n < 64 := by
  fun_induction sextets data with
  | case1 => simp at h
  | case2 a =>
    have := a.toNat_lt
    simp at h
    omega
  | case3 a b =>
    have := a.toNat_lt
    have := b.toNat_lt
    simp at h
    omega
  | case4 a b c rest ih =>
    have := a.toNat_lt
    have := b.toNat_lt
    have := c.toNat_lt
    simp at h
    rcases h with h | h | h | h | h
    · omega
    · omega
    · omega
    · omega
    · exact ih h

theorem ofNat_eq {a : UInt8} {n : Nat} (h : n % 256 = a.toNat) : UInt8.ofNat n = a := by
  apply UInt8.toNat_inj.mp
  simpa using h

/-- The octets that were cut into six-bit numbers are put together again. -/
theorem octets_sextets (data : List UInt8) : octets (sextets data) = data := by
  fun_induction sextets data with
  | case1 => rfl
  | case2 a =>
    have := a.toNat_lt
    simp only [octets]
    rw [ofNat_eq (a := a) (by omega)]
  | case3 a b =>
    have := a.toNat_lt
    have := b.toNat_lt
    simp only [octets]
    rw [ofNat_eq (a := a) (by omega), ofNat_eq (a := b) (by omega)]
  | case4 a b c rest ih =>
    have := a.toNat_lt
    have := b.toNat_lt
    have := c.toNat_lt
    simp only [octets, List.cons_append, List.nil_append]
    rw [ofNat_eq (a := a) (by omega), ofNat_eq (a := b) (by omega),
      ofNat_eq (a := c) (by omega), ih]

theorem closes_sextets (data : List UInt8) :
    closes (sextets data).length (paddingFor (sextets data).length) = true := by
  fun_induction sextets data with
  | case1 => rfl
  | case2 => rfl
  | case3 => rfl
  | case4 a b c rest ih =>
    simp only [List.length_append, List.length_cons, List.length_nil]
    unfold closes paddingFor at *
    have : (0 + 1 + 1 + 1 + 1 + (sextets rest).length) % 4 = (sextets rest).length % 4 := by omega
    rw [this]
    split at ih <;> simp_all

theorem filterMap_digit {l : List Nat} (h : ∀ n ∈ l, n < 64) :
    (l.map digit).filterMap sextet? = l := by
  induction l with
  | nil => rfl
  | cons a rest ih =>
    simp only [List.mem_cons, forall_eq_or_imp] at h
    simp [sextet?_digit h.1, ih h.2]

theorem not_isDigit_padding : isDigit '=' = false := by decide

/-- The padding sign is no digit, so the digits before it end where they were written to end. -/
theorem takeWhile_padded {digits : List Char} (all : ∀ c ∈ digits, isDigit c = true)
    (padding : Nat) :
    (digits ++ List.replicate padding '=').takeWhile isDigit = digits := by
  rw [List.takeWhile_append_of_pos all]
  cases padding <;> simp [List.replicate_succ, not_isDigit_padding]

theorem dropWhile_padded {digits : List Char} (all : ∀ c ∈ digits, isDigit c = true)
    (padding : Nat) :
    (digits ++ List.replicate padding '=').dropWhile isDigit = List.replicate padding '=' := by
  rw [List.dropWhile_append_of_pos all]
  cases padding <;> simp [List.replicate_succ, not_isDigit_padding]

theorem decode?_encode (data : List UInt8) : decode? (encode data) = some data := by
  have digits : ∀ c ∈ (sextets data).map digit, isDigit c = true := by
    intro c hc
    obtain ⟨n, hn, rfl⟩ := List.mem_map.mp hc
    exact isDigit_digit (lt_of_mem_sextets hn)
  simp only [decode?, encode, takeWhile_padded digits, dropWhile_padded digits,
    List.length_replicate, List.length_map]
  rw [if_pos ⟨by simp, closes_sextets data⟩, filterMap_digit fun n hn => lt_of_mem_sextets hn,
    octets_sextets]

end EntityHeaders.Base64
