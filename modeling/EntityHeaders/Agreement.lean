/-! # Agreement of values that may be absent

`Both` lifts a relation to optional values: two absent values are related, an absent
one and a present one never are.
-/

namespace EntityHeaders

/-- Both values are absent, or both are there and related. -/
def Both {α : Type} (related : α → α → Prop) : Option α → Option α → Prop
  | none, none => True
  | some a, some b => related a b
  | _, _ => False

instance {α : Type} (related : α → α → Prop) [∀ a b, Decidable (related a b)] :
    (a b : Option α) → Decidable (Both related a b)
  | none, none => .isTrue trivial
  | some a, some b => inferInstanceAs (Decidable (related a b))
  | none, some _ | some _, none => .isFalse id

end EntityHeaders
