import EntityHeaders.Text.Numeral

/-! # Numbers with a fraction

Decimal numbers as they are written with a point and, for very large or small
ones, an exponent; the infinities and the value that is no number belong to them.
Each stands for the nearest binary number of 64 bits.

* `ofText?` and `toText` — reading and writing.
* `nearest` — that binary number, in units of which `unitsPerOne` make one; by
  `nearest_whole` the number itself if it is whole and not too great.
* `Quantity`, `quantity?` — what a number counts as where it is compared, also with
  whole numbers, which are not rounded.  What is no number counts as nothing.
-/

namespace EntityHeaders

open Text (decimal fixedWidth isNumeral value)

/-- A number with a fraction; a finite one is written as `digits / 10 ^ places`. -/
inductive Fraction where
  | finite (negative : Bool) (digits places : Nat)
  | infinite (negative : Bool)
  | notANumber
deriving DecidableEq, Repr

namespace Fraction

/-! ## Reading and writing -/

/-- A finite number without its sign: digits, a point and digits, and an exponent of
ten after `e`. -/
def ofUnsigned? (negative : Bool) (text : List Char) : Option Fraction := do
  let mantissa := text.takeWhile (· ≠ 'e')
  let exponent := (text.dropWhile (· ≠ 'e')).drop 1
  let whole := mantissa.takeWhile (· ≠ '.')
  let part := (mantissa.dropWhile (· ≠ '.')).drop 1
  if !isNumeral whole then none
  let digits := value (whole ++ part)
  let places := part.length
  match exponent with
  | [] => some (finite negative digits places)
  | '-' :: exponent => some (finite negative digits (places + value exponent))
  | sign :: exponent =>
    -- a rising exponent uses up the places first and then adds zeros
    let up := if sign = '+' then value exponent else value (sign :: exponent)
    some (finite negative (digits * Nat.pow 10 (up - places)) (places - up))

def ofText? (text : List Char) : Option Fraction :=
  let negative := text.head? == some '-'
  let magnitude := if negative then text.drop 1 else text
  if magnitude = ['i', 'n', 'f'] then some (infinite negative)
  else if magnitude = ['n', 'a', 'n'] then some notANumber
  else ofUnsigned? negative magnitude

/-- The number in positional notation, with at least one place after the point. -/
def toText : Fraction → List Char
  | finite negative digits places =>
    (if negative then ['-'] else []) ++ decimal (digits / Nat.pow 10 places) ++ ['.'] ++
      (if places = 0 then ['0'] else fixedWidth 10 places digits)
  | infinite negative => (if negative then ['-'] else []) ++ ['i', 'n', 'f']
  | notANumber => ['n', 'a', 'n']

/-! ## Binary numbers -/

/-- The whole number nearest to `n / d`; of two that are equally near, the even one. -/
def roundHalfEven (n d : Nat) : Nat :=
  if 2 * (n % d) < d ∨ 2 * (n % d) = d ∧ n / d % 2 = 0 then n / d else n / d + 1

/-- It lies at most half of one away. -/
theorem roundHalfEven_near (n : Nat) {d : Nat} (some : 0 < d) :
    2 * n ≤ 2 * (d * roundHalfEven n d) + d ∧ 2 * (d * roundHalfEven n d) ≤ 2 * n + d := by
  have whole := Nat.div_add_mod n d
  have rest := Nat.mod_lt n some
  unfold roundHalfEven
  split
  next down => omega
  next up =>
    rw [Nat.mul_succ]
    omega

/-- The binary places of the least number above zero, the unit of all finite ones. -/
@[irreducible]
def unitPlaces : Nat := 1074

def unitsPerOne : Nat := Nat.pow 2 unitPlaces

/-- The binary number nearest to `digits / 10 ^ places`, in units. -/
def nearest (digits places : Nat) : Nat :=
  let n := digits * unitsPerOne
  let d := Nat.pow 10 places
  -- of a great number only the first 53 binary digits are kept
  let step := Nat.pow 2 (Nat.log2 (n / d) - 52)
  roundHalfEven n (d * step) * step

/-- What is as great as this, in units, is infinite. -/
def unitsLimit : Nat := Nat.pow 2 2098

/-! ## Numbers that are not rounded -/

theorem unitsPerOne_pos : 0 < unitsPerOne := by
  decide +kernel

theorem roundHalfEven_mul (n : Nat) {d : Nat} (some : 0 < d) : roundHalfEven (d * n) d = n := by
  rw [roundHalfEven, Nat.mul_mod_right, Nat.mul_div_cancel_left n some, if_pos (.inl some)]

/-- The step is no greater than the units of one, and so divides all whole numbers. -/
theorem exists_steps {n places : Nat} (short : n < 9007199254740992) :
    ∃ steps, n * Nat.pow 2 places = Nat.pow 2 (Nat.log2 (n * Nat.pow 2 places) - 52) * steps := by
  have inside : Nat.log2 (n * Nat.pow 2 places) - 52 ≤ places := by
    by_cases none : n * Nat.pow 2 places = 0
    · rw [none]
      exact Nat.zero_le places
    · have below : n * Nat.pow 2 places < Nat.pow 2 (53 + places) := by
        rw [Nat.pow_eq, Nat.pow_eq, Nat.pow_add]
        exact Nat.mul_lt_mul_of_pos_right short (Nat.pow_pos (by decide))
      have := (Nat.log2_lt none).mpr below
      omega
  exact Nat.dvd_mul_left_of_dvd (Nat.pow_dvd_pow 2 inside) n

/-- A whole number of at most 53 binary digits stands for itself. -/
theorem nearest_whole {n : Nat} (short : n < 9007199254740992) :
    nearest n 0 = n * unitsPerOne := by
  have one : Nat.pow 10 0 = 1 := rfl
  obtain ⟨steps, split⟩ : ∃ steps, n * unitsPerOne =
      Nat.pow 2 (Nat.log2 (n * unitsPerOne) - 52) * steps := exists_steps short
  have some : 0 < Nat.pow 2 (Nat.log2 (n * unitsPerOne) - 52) := Nat.pow_pos (by decide)
  simp only [nearest, one, Nat.div_one, Nat.one_mul]
  generalize Nat.pow 2 (Nat.log2 (n * unitsPerOne) - 52) = step at split some ⊢
  rw [split, roundHalfEven_mul steps some, Nat.mul_comm]

end Fraction

/-! ## Value -/

/-- The value of a number: a finite one in units, or an infinity. -/
inductive Quantity where
  | units (n : Int)
  | infinite (negative : Bool)
deriving DecidableEq, Repr

def Quantity.ofInt (n : Int) : Quantity :=
  units (n * Fraction.unitsPerOne)

def Fraction.quantity? : Fraction → Option Quantity
  | finite negative digits places =>
    let units := nearest digits places
    if units < unitsLimit then some (.units (if negative then -units else units))
    else some (.infinite negative)
  | infinite negative => some (.infinite negative)
  | notANumber => none

end EntityHeaders
