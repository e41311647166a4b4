/-! # Reading a text from its start

Two steps for texts of a fixed shape: `takeClass` splits off a number of
characters of one kind, `expect` splits off given characters.  The two lemmas say
that a step succeeds on a text exactly if the text is the piece and the rest.
-/

namespace EntityHeaders.Text

/-- The first `n` characters and the rest, if those `n` are all there and satisfy
`p`. -/
def takeClass (n : Nat) (p : Char → Bool) (text : List Char) :
    Option (List Char × List Char) :=
  if (text.take n).length = n ∧ (text.take n).all p then some (text.take n, text.drop n)
  else none

def expect (lead text : List Char) : Option (List Char) :=
  if text.take lead.length = lead then some (text.drop lead.length) else none

theorem takeClass_eq_some_iff {n : Nat} {p : Char → Bool} {text front rest : List Char} :
    takeClass n p text = some (front, rest) ↔
      text = front ++ rest ∧ front.length = n ∧ front.all p := by
  unfold takeClass
  constructor
  · intro h
    split at h
    · rename_i ok
      obtain ⟨rfl, rfl⟩ : text.take n = front ∧ text.drop n = rest := by simpa using h
      exact ⟨(List.take_append_drop n text).symm, ok⟩
    · simp at h
  · rintro ⟨rfl, rfl, ok⟩
    simp [ok]

theorem expect_eq_some_iff {lead text rest : List Char} :
    expect lead text = some rest ↔ text = lead ++ rest := by
  unfold expect
  constructor
  · intro h
    split at h
    · rename_i starts
      obtain rfl : text.drop lead.length = rest := by simpa using h
      conv => lhs; rw [← List.take_append_drop lead.length text, starts]
    · simp at h
  · rintro rfl
    simp

end EntityHeaders.Text
