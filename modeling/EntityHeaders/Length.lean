import EntityHeaders.Fraction

/-! # Lengths

The length of a content in octets.  A record may hold other values in its place
until it is checked: a truth value, a number with a fraction, a text.

* `check` — the number of octets, if the value is a whole number in range;
  `require` does the same where a value may be missing.
* `Agrees` — equality of value; a truth value counts as 0 or 1, and a whole number as itself,
  however great it is.
-/

namespace EntityHeaders

open Text (decimalInt digitLimit isWritable)

/-- What a record may hold as a length. -/
inductive Length where
  | whole (n : Int)
  | flag (b : Bool)
  | fraction (x : Fraction)
  | text (s : String)
deriving DecidableEq, Repr

def maxLength : Nat := 9223372036854775807

namespace Length

/-! ## Checking -/

inductive Fault where
  | absent
  | notWhole (value : Length)
  | negative (n : Int)
  | tooGreat (n : Int)
deriving DecidableEq, Repr

/-- The number of octets that the value stands for. -/
def check : Length → Except Fault Nat
  | whole n =>
    if n < 0 then .error (.negative n)
    else if (maxLength : Int) < n then .error (.tooGreat n)
    else .ok n.toNat
  -- also a truth value, although it counts as a number where values are compared
  | value => .error (.notWhole value)

def require : Option Length → Except Fault Nat
  | some length => length.check
  | none => .error .absent

def kind : Length → String
  | whole _ => "int"
  | flag _ => "bool"
  | fraction _ => "float"
  | text _ => "str"

/-- The digits of a number within a message, unless it is too long to be written;
then the message is about that. -/
def Fault.withDigits (n : Int) (message : String → String) : String :=
  if isWritable n then message (String.ofList (decimalInt n))
  else s!"Exceeds the limit ({digitLimit} digits) for integer string conversion; " ++
    "use sys.set_int_max_str_digits() to increase the limit"

def Fault.message : Fault → String
  | absent => "Content length must be an int, got NoneType"
  | notWhole value => "Content length must be an int, got " ++ value.kind
  | negative n => withDigits n fun digits =>
      "Content length must be non-negative, got " ++ digits
  | tooGreat n => withDigits n fun digits =>
      "Content length " ++ digits ++ " does not fit in 64 bits"

/-! ## Equality of value -/

def quantity? : Length → Option Quantity
  | whole n => some (.ofInt n)
  | flag b => some (.ofInt (if b then 1 else 0))
  | fraction x => x.quantity?
  | text _ => none

def text? : Length → Option String
  | text s => some s
  | _ => none

/-- Two numbers of the same value, or the same text twice. -/
def Agrees (a b : Length) : Prop :=
  a.quantity?.isSome ∧ a.quantity? = b.quantity? ∨ a.text?.isSome ∧ a.text? = b.text?

instance (a b : Length) : Decidable (a.Agrees b) :=
  inferInstanceAs (Decidable (_ ∨ _))

/-- A whole number of at most 53 binary digits is the same with a point. -/
theorem agrees_fraction_of_short {n : Nat} (short : n < 9007199254740992) :
    (whole n).Agrees (.fraction (.finite false n 0)) := by
  have fits : n * Fraction.unitsPerOne < Fraction.unitsLimit :=
    Nat.lt_of_lt_of_le (Nat.mul_lt_mul_of_pos_right short Fraction.unitsPerOne_pos)
      (by decide +kernel)
  have value : (Fraction.finite false n 0).quantity? = some (.ofInt n) := by
    simp [Fraction.quantity?, Fraction.nearest_whole short, fits, Quantity.ofInt]
  exact .inl ⟨rfl, value.symm⟩

/-- A greater one may have been rounded. -/
example : ¬ (whole 100000000000000000000000).Agrees
    (.fraction (.finite false 100000000000000000000000 0)) := by
  decide +kernel

end Length

end EntityHeaders
