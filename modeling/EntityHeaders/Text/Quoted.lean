import EntityHeaders.Text.Numeral
import EntityHeaders.Text.Printable

/-! # Quoted text

`quote` puts a text between quotation marks so that it can be shown inside a
message: the backslash and the mark in use are escaped, and every character
without a visible form is written by its code point.  The mark is a single quote
unless the text holds single quotes and no double ones.
-/

namespace EntityHeaders.Text

/-- The code point of `c` in the shortest of the three escapes that can hold it. -/
def codeEscape (c : Char) : List Char :=
  if c.toNat < 0x100 then '\\' :: 'x' :: fixedWidth 16 2 c.toNat
  else if c.toNat < 0x10000 then '\\' :: 'u' :: fixedWidth 16 4 c.toNat
  else '\\' :: 'U' :: fixedWidth 16 8 c.toNat

def quoteMark (text : List Char) : Char :=
  if '\'' ∈ text ∧ '"' ∉ text then '"' else '\''

/-- One character of a text that is quoted with `mark`. -/
def escape (mark c : Char) : List Char :=
  if c = '\\' ∨ c = mark then ['\\', c]
  else if c = '\n' then ['\\', 'n']
  else if c = '\r' then ['\\', 'r']
  else if c = '\t' then ['\\', 't']
  else if isPrintable c then [c]
  else codeEscape c

def quote (text : List Char) : List Char :=
  let mark := quoteMark text
  mark :: text.flatMap (escape mark) ++ [mark]

end EntityHeaders.Text
