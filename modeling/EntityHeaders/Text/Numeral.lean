/-! # Numerals

Numbers written in digits, most significant first.

* `decimal`, `decimalInt` — as many decimal digits as the number needs.
* `fixedWidth` — exactly the given number of digits in the given base, zeros in
  front; what does not fit is dropped.
* `value` — the number that a run of decimal digits stands for.
* `digitLimit` — the longest numeral that is converted to or from a number.

`value_decimal` and `value_fixedWidth` say what is read from what was written: the
number itself, or as much of it as the width holds.
-/

namespace EntityHeaders.Text

/-- The decimal digits of `n`, without leading zeros. -/
def decimal (n : Nat) : List Char :=
  Nat.toDigits 10 n

def decimalInt : Int → List Char
  | .ofNat n => decimal n
  | .negSucc n => '-' :: decimal (n + 1)

/-- The last `width` digits of `n` in the given base. -/
def fixedWidth (base : Nat) : (width : Nat) → (n : Nat) → List Char
  | 0, _ => []
  | width + 1, n => fixedWidth base width (n / base) ++ [Nat.digitChar (n % base)]

def value (digits : List Char) : Nat :=
  Nat.ofDigitChars 10 digits 0

def isNumeral (text : List Char) : Bool :=
  !text.isEmpty && text.all Char.isDigit

/-- Numerals of more digits than this are neither read nor written. -/
def digitLimit : Nat := 4300

/-- Whether the magnitude of `n` can be written within `digitLimit` digits. -/
def isWritable (n : Int) : Bool :=
  n.natAbs < Nat.pow 10 digitLimit

/-! ## Reading what was written -/

@[simp]
theorem length_fixedWidth (base width n : Nat) : (fixedWidth base width n).length = width := by
  induction width generalizing n with
  | zero => rfl
  | succ width ih => simp [fixedWidth, ih]

theorem isDigit_digitChar {n : Nat} (h : n < 10) : (Nat.digitChar n).isDigit = true := by
  revert n
  decide

theorem all_isDigit_fixedWidth (width n : Nat) : (fixedWidth 10 width n).all Char.isDigit := by
  induction width generalizing n with
  | zero => rfl
  | succ width ih =>
    simp [fixedWidth, ih, isDigit_digitChar (Nat.mod_lt n (by decide : 10 > 0))]

theorem value_append (left : List Char) (c : Char) :
    value (left ++ [c]) = value left * 10 + (c.toNat - '0'.toNat) := by
  simp [value, Nat.ofDigitChars, List.foldl_append]; omega

theorem toNat_digitChar {n : Nat} (h : n < 10) : (Nat.digitChar n).toNat - '0'.toNat = n := by
  revert n
  decide

theorem value_fixedWidth (width n : Nat) :
    value (fixedWidth 10 width n) = n % Nat.pow 10 width := by
  induction width generalizing n with
  | zero => simp [fixedWidth, value, Nat.mod_one]
  | succ width ih =>
    rw [fixedWidth, value_append, ih, toNat_digitChar (Nat.mod_lt n (by decide))]
    show _ = n % 10 ^ (width + 1)
    rw [Nat.pow_succ, Nat.mul_comm (10 ^ width) 10, Nat.mod_mul]
    -- the last digit and what the digits before it stand for
    show n / 10 % 10 ^ width * 10 + n % 10 = _
    omega

@[simp]
theorem value_decimal (n : Nat) : value (decimal n) = n := by
  simp [value, decimal]

end EntityHeaders.Text
