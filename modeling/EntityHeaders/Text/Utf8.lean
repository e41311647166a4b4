/-! # UTF-8

`decode?` reads octets as UTF-8 in the shortest form: an octet below 80 stands
for itself, and a lead octet is followed by one, two or three octets that carry
six bits each.  Overlong forms, surrogates and numbers beyond the last code point
are no text.
-/

namespace EntityHeaders.Text.Utf8

def continuation? (octet : UInt8) : Option Nat :=
  if 0x80 ≤ octet.toNat ∧ octet.toNat < 0xC0 then some (octet.toNat - 0x80) else none

/-- The character of a code point that needs at least `least` to be written in the
form at hand. -/
def scalar? (least n : Nat) : Option Char :=
  if h : n.isValidChar then
    if least ≤ n then some (Char.ofNatAux n h) else none
  else none

def two? (a b : UInt8) : Option Char := do
  scalar? 0x80 ((a.toNat - 0xC0) * 0x40 + (← continuation? b))

def three? (a b c : UInt8) : Option Char := do
  scalar? 0x800 (((a.toNat - 0xE0) * 0x40 + (← continuation? b)) * 0x40 + (← continuation? c))

def four? (a b c d : UInt8) : Option Char := do
  scalar? 0x10000
    ((((a.toNat - 0xF0) * 0x40 + (← continuation? b)) * 0x40 + (← continuation? c)) * 0x40
      + (← continuation? d))

def decode? : List UInt8 → Option (List Char)
  | [] => some []
  | a :: rest =>
    if a.toNat < 0x80 then (Char.ofNat a.toNat :: ·) <$> decode? rest
    -- an octet that only continues a character starts none
    else if a.toNat < 0xC0 then none
    else if a.toNat < 0xE0 then
      match rest with
      | b :: rest => do return (← two? a b) :: (← decode? rest)
      | _ => none
    else if a.toNat < 0xF0 then
      match rest with
      | b :: c :: rest => do return (← three? a b c) :: (← decode? rest)
      | _ => none
    else if a.toNat < 0xF8 then
      match rest with
      | b :: c :: d :: rest => do return (← four? a b c d) :: (← decode? rest)
      | _ => none
    else none

end EntityHeaders.Text.Utf8
