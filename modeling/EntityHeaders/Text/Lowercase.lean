import EntityHeaders.Text.Lowercase.Capitals
import EntityHeaders.Text.Lowercase.Context

/-! # Small letters

`lower` replaces every capital letter of a text by its small form.  One letter
becomes two characters, and one depends on its neighbours: the capital sigma is
a final sigma when a letter with case precedes it and none follows, characters
that do not count being skipped on both sides.
-/

namespace EntityHeaders.Text

/-- The small form of a character whatever its neighbours are. -/
def lowerChar (c : Char) : List Char :=
  -- the dotted capital keeps its dot as a character of its own
  if c = '\u0130' then ['i', '\u0307']
  else
    match capitalRuns.find? (·.holds c.toNat) with
    | some run => [Char.ofNat (run.small c.toNat)]
    | none => [c]

/-- Whether the first of the characters that counts is a letter with case. -/
def meetsCased (neighbours : List Char) : Bool :=
  (neighbours.find? (!isCaseIgnorable ·)).any isCased

/-- The small form of a capital sigma after `before`, nearest first, and ahead of
`rest`. -/
def lowerSigma (before rest : List Char) : Char :=
  if meetsCased before && !meetsCased rest then 'ς' else 'σ'

/-- The small form of a text that follows `before`, whose nearest character comes
first. -/
def lowerAfter (before : List Char) : List Char → List Char
  | [] => []
  | c :: rest =>
    (if c = 'Σ' then [lowerSigma before rest] else lowerChar c) ++
      lowerAfter (c :: before) rest

def lower (text : List Char) : List Char :=
  lowerAfter [] text

end EntityHeaders.Text
