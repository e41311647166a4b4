import EntityHeaders.Text.Blank
import EntityHeaders.Text.Quoted
import Mathlib.Data.List.Chain

/-! # Quotations

A quoted text can be told from every other, even where text follows it, and it can be shown
whatever stands in it.

* `Spells`, `spells_escape` — the three ways in which a character is spelled in a quotation.
* `unescape`, `Spells.unescape_append` — the character that a spelling is read as, and what
  follows it.  So of two spellings neither is the beginning of the other, whatever their widths
  are.
* `quote_append_inj` — a quotation ends at its own mark, and no text has that of another.
* `Shows`, `shows_of_isPrintable` — a printable character is no control or format character,
  and no blank but the space.
* `isPrintable_of_mem_quote` — a quotation holds nothing else.
-/

namespace EntityHeaders.Text

/-! ## Reading an escape -/

def hexDigit (c : Char) : Nat :=
  if c.isDigit then c.toNat - '0'.toNat else c.toNat - 'a'.toNat + 10

/-- The number that a run of hexadecimal digits stands for. -/
def hexValue (digits : List Char) : Nat :=
  digits.foldl (fun n c => n * 16 + hexDigit c) 0

/-- How many digits follow the letter of an escape by code point. -/
def codeWidth? (kind : Char) : Option Nat :=
  if kind = 'x' then some 2 else if kind = 'u' then some 4 else if kind = 'U' then some 8 else none

/-- The character that a letter stands for after a backslash. -/
def escaped (letter : Char) : Char :=
  if letter = 'n' then '\n' else if letter = 'r' then '\r' else if letter = 't' then '\t'
  else letter

/-- The first character of an escaped text, and the text after it. -/
def unescape : List Char → Option (Char × List Char)
  | [] => none
  | c :: rest =>
    if c = '\\' then
      match rest with
      | [] => none
      | letter :: rest =>
        match codeWidth? letter with
        | some width => some (Char.ofNat (hexValue (rest.take width)), rest.drop width)
        | none => some (escaped letter, rest)
    else some (c, rest)

theorem hexDigit_digitChar : ∀ n < 16, hexDigit (Nat.digitChar n) = n := by
  decide

theorem hexValue_append (digits : List Char) (c : Char) :
    hexValue (digits ++ [c]) = hexValue digits * 16 + hexDigit c := by
  rw [hexValue, List.foldl_append]
  rfl

theorem hexValue_fixedWidth (width n : Nat) :
    hexValue (fixedWidth 16 width n) = n % Nat.pow 16 width := by
  induction width generalizing n with
  | zero => exact (Nat.mod_one n).symm
  | succ width ih =>
    have last : hexDigit (Nat.digitChar (n % 16)) = n % 16 :=
      hexDigit_digitChar _ (Nat.mod_lt n (by decide))
    calc hexValue (fixedWidth 16 (width + 1) n)
        = n / 16 % Nat.pow 16 width * 16 + n % 16 := by rw [fixedWidth, hexValue_append, ih, last]
      _ = n % (16 * Nat.pow 16 width) := by rw [Nat.mod_mul, Nat.mul_comm 16, Nat.add_comm]
      _ = n % Nat.pow 16 (width + 1) := by rw [Nat.mul_comm 16]; rfl

theorem unescape_fixedWidth {letter c : Char} (width : Nat)
    (kind : codeWidth? letter = some width) (fits : c.toNat < Nat.pow 16 width)
    (rest : List Char) :
    unescape ('\\' :: letter :: fixedWidth 16 width c.toNat ++ rest) = some (c, rest) := by
  have code : Char.ofNat (hexValue (fixedWidth 16 width c.toNat)) = c := by
    rw [hexValue_fixedWidth, Nat.mod_eq_of_lt fits, Char.ofNat_toNat]
  simp [unescape, kind, code]

/-! ## Escapes -/

/-- The marks of quotations. -/
def IsMark (mark : Char) : Prop :=
  mark = '\'' ∨ mark = '"'

theorem isMark_quoteMark (text : List Char) : IsMark (quoteMark text) := by
  unfold quoteMark
  split
  · exact .inr rfl
  · exact .inl rfl

/-- The letters that stand for one character after a backslash, among them the backslash and
    the marks for themselves. -/
def escapeLetters : List Char :=
  ['\\', '\'', '"', 'n', 'r', 't']

/-- How a character is spelled in a quotation: as itself, by a letter, or by its code point. -/
inductive Spells (mark c : Char) : List Char → Prop
  | itself (printable : isPrintable c = true) (plain : c ≠ '\\') (unmarked : c ≠ mark) :
      Spells mark c [c]
  | letter {letter : Char} (known : letter ∈ escapeLetters) (meant : escaped letter = c) :
      Spells mark c ['\\', letter]
  | code {kind : Char} {width : Nat} (known : codeWidth? kind = some width)
      (fits : c.toNat < Nat.pow 16 width) :
      Spells mark c ('\\' :: kind :: fixedWidth 16 width c.toNat)

theorem spells_codeEscape (mark c : Char) : Spells mark c (codeEscape c) := by
  have last : c.toNat < 0x110000 := by
    rcases c.valid with low | ⟨-, high⟩
    · exact Nat.lt_trans low (by decide)
    · exact high
  unfold codeEscape
  split
  next two => exact .code rfl two
  · split
    next four => exact .code rfl four
    · exact .code rfl (Nat.lt_trans last (by decide))

theorem spells_escape {mark : Char} (quotes : IsMark mark) (c : Char) :
    Spells mark c (escape mark c) := by
  unfold escape
  split
  next reserved =>
    have known : c = '\\' ∨ c = '\'' ∨ c = '"' := by
      rcases reserved with rfl | rfl
      · exact .inl rfl
      · exact .inr quotes
    rcases known with rfl | rfl | rfl <;> exact .letter (by decide) rfl
  next unreserved =>
    obtain ⟨plain, unmarked⟩ := not_or.mp unreserved
    split
    next line => exact .letter (by decide) line.symm
    split
    next carriage => exact .letter (by decide) carriage.symm
    split
    next tab => exact .letter (by decide) tab.symm
    split
    next printable => exact .itself printable plain unmarked
    next => exact spells_codeEscape mark c

/-- A spelling is read as the character, whatever follows it. -/
theorem Spells.unescape_append {mark c : Char} {spelling : List Char}
    (spells : Spells mark c spelling) (rest : List Char) :
    unescape (spelling ++ rest) = some (c, rest) := by
  cases spells with
  | itself printable plain unmarked => simp [unescape, plain]
  | letter known meant =>
    subst meant
    simp only [escapeLetters, List.mem_cons, List.not_mem_nil, or_false] at known
    rcases known with rfl | rfl | rfl | rfl | rfl | rfl <;> rfl
  | code known fits => exact unescape_fixedWidth _ known fits rest

/-- No spelling begins with the mark in use, so that a quotation goes on until its end. -/
theorem Spells.append_ne_mark {mark c : Char} (quotes : IsMark mark) {spelling : List Char}
    (spells : Spells mark c spelling) (after other : List Char) :
    spelling ++ after ≠ mark :: other := by
  have slash : '\\' ≠ mark := by
    rcases quotes with rfl | rfl <;> decide
  intro same
  cases spells with
  | itself printable plain unmarked => exact unmarked (List.cons.inj same).1
  | letter | code => exact slash (List.cons.inj same).1

/-! ## Telling quotations apart -/

theorem flatMap_escape_inj {mark : Char} (quotes : IsMark mark)
    {left right after other : List Char}
    (same : left.flatMap (escape mark) ++ mark :: after =
      right.flatMap (escape mark) ++ mark :: other) : left = right ∧ after = other := by
  have spells := spells_escape quotes
  induction left generalizing right with
  | nil =>
    cases right with
    | nil => simpa using same
    | cons d rest =>
      rw [List.flatMap_cons, List.append_assoc] at same
      exact absurd same.symm ((spells d).append_ne_mark quotes _ _)
  | cons c before ih =>
    rw [List.flatMap_cons, List.append_assoc] at same
    cases right with
    | nil => exact absurd same ((spells c).append_ne_mark quotes _ _)
    | cons d rest =>
      rw [List.flatMap_cons, List.append_assoc] at same
      have read := congrArg unescape same
      rw [(spells c).unescape_append, (spells d).unescape_append] at read
      obtain ⟨rfl, later⟩ := Prod.mk.inj (Option.some.inj read)
      obtain ⟨rfl, ended⟩ := ih later
      exact ⟨rfl, ended⟩

/-- A text can be told from its quotation even where more follows. -/
theorem quote_append_inj {left right after other : List Char}
    (same : quote left ++ after = quote right ++ other) : left = right ∧ after = other := by
  simp only [quote, List.cons_append, List.append_assoc, List.nil_append, List.cons.injEq] at same
  obtain ⟨mark, rest⟩ := same
  rw [← mark] at rest
  exact flatMap_escape_inj (isMark_quoteMark left) rest

/-! ## Characters that can be shown -/

/-- Control characters. -/
def controlCodes : Ranges := [(0x0, 0x1F), (0x7F, 0x9F)]

/-- Format characters: soft hyphen, joiners, directions, tags and the like. -/
def formatCodes : Ranges := [
  (0xAD, 0xAD), (0x600, 0x605), (0x61C, 0x61C), (0x6DD, 0x6DD), (0x70F, 0x70F), (0x890, 0x891),
  (0x8E2, 0x8E2), (0x180E, 0x180E), (0x200B, 0x200F), (0x202A, 0x202E), (0x2060, 0x2064),
  (0x2066, 0x206F), (0xFEFF, 0xFEFF), (0xFFF9, 0xFFFB), (0x110BD, 0x110BD), (0x110CD, 0x110CD),
  (0x13430, 0x13438), (0x1BCA0, 0x1BCA3), (0x1D173, 0x1D17A), (0xE0001, 0xE0001),
  (0xE0020, 0xE007F)]

/-- The blanks but the space, line breaks among them. -/
def blankCodes : Ranges := [
  (0x09, 0x0D), (0x1C, 0x1F), (0x85, 0x85), (0xA0, 0xA0), (0x1680, 0x1680), (0x2000, 0x200A),
  (0x2028, 0x2029), (0x202F, 0x202F), (0x205F, 0x205F), (0x3000, 0x3000)]

/-- The character has a visible form, and so is no control or format character and no blank
    but the space. -/
structure Shows (c : Char) : Prop where
  printable : isPrintable c = true
  noControl : covers controlCodes c.toNat = false
  noFormat : covers formatCodes c.toNat = false
  noBlank : isBlank c = true → c = ' '

/-- All ranges of code points without a visible form. -/
def unprintable : Ranges :=
  unprintableLow ++ unprintableMiddle ++ unprintableHigh

/-- Every range of the first set is a part of one of the second. -/
def LieWithin (ranges outer : Ranges) : Prop :=
  ∀ range ∈ ranges, ∃ around ∈ outer, around.1 ≤ range.1 ∧ range.2 ≤ around.2

instance (ranges outer : Ranges) : Decidable (LieWithin ranges outer) :=
  inferInstanceAs (Decidable (∀ range ∈ ranges, _))

def StartsBefore (a b : Nat × Nat) : Prop :=
  a.1 ≤ b.1

instance (a b : Nat × Nat) : Decidable (StartsBefore a b) :=
  inferInstanceAs (Decidable (_ ≤ _))

instance : Trans StartsBefore StartsBefore StartsBefore :=
  ⟨Nat.le_trans⟩

/-- Each range starts where or after the one before it does. -/
def Rises (ranges : Ranges) : Prop :=
  ranges.IsChain StartsBefore

instance (ranges : Ranges) : Decidable (Rises ranges) :=
  inferInstanceAs (Decidable (ranges.IsChain _))

/-- Looking a code point up in rising ranges goes on until its own. -/
theorem covers_of_mem {ranges : Ranges} (rises : Rises ranges) {range : Nat × Nat}
    (mem : range ∈ ranges) {n : Nat} (first : range.1 ≤ n) (last : n ≤ range.2) :
    covers ranges n = true := by
  have pairs := List.isChain_iff_pairwise.mp rises
  clear rises
  induction ranges with
  | nil => cases mem
  | cons lead rest ih =>
    obtain ⟨lead_first, later⟩ := List.pairwise_cons.mp pairs
    rcases List.mem_cons.mp mem with rfl | mem
    · simp [covers, Nat.not_lt.mpr first, last]
    · have reached : ¬ n < lead.1 := Nat.not_lt.mpr (Nat.le_trans (lead_first range mem) first)
      simp [covers, reached, ih mem later]

theorem exists_mem_of_covers {ranges : Ranges} {n : Nat} (covered : covers ranges n = true) :
    ∃ range ∈ ranges, range.1 ≤ n ∧ n ≤ range.2 := by
  induction ranges with
  | nil => cases covered
  | cons lead rest ih =>
    obtain ⟨first, last⟩ := lead
    simp only [covers] at covered
    split at covered
    next => cases covered
    next reached =>
      rcases Bool.or_eq_true_iff.mp covered with own | later
      · exact ⟨_, List.mem_cons_self, Nat.not_lt.mp reached, of_decide_eq_true own⟩
      · obtain ⟨range, mem, bounds⟩ := ih later
        exact ⟨range, List.mem_cons_of_mem _ mem, bounds⟩

theorem not_isPrintable_of_mem {range : Nat × Nat} (mem : range ∈ unprintable) {c : Char}
    (first : range.1 ≤ c.toNat) (last : c.toNat ≤ range.2) : isPrintable c = false := by
  have low : Rises unprintableLow := by decide +kernel
  have middle : Rises unprintableMiddle := by decide +kernel
  have high : Rises unprintableHigh := by decide +kernel
  simp only [unprintable, List.mem_append] at mem
  rcases mem with (mem | mem) | mem
  · simp [isPrintable, covers_of_mem low mem first last]
  · simp [isPrintable, covers_of_mem middle mem first last]
  · simp [isPrintable, covers_of_mem high mem first last]

theorem not_mem_of_isPrintable {ranges : Ranges} (within : LieWithin ranges unprintable) {c : Char}
    (printable : isPrintable c = true) :
    ¬ ∃ range ∈ ranges, range.1 ≤ c.toNat ∧ c.toNat ≤ range.2 := by
  rintro ⟨range, mem, first, last⟩
  obtain ⟨around, hidden, before, after⟩ := within range mem
  rw [not_isPrintable_of_mem hidden (Nat.le_trans before first) (Nat.le_trans last after)]
    at printable
  cases printable

theorem not_covers_of_isPrintable {ranges : Ranges} (within : LieWithin ranges unprintable)
    {c : Char} (printable : isPrintable c = true) : covers ranges c.toNat = false := by
  rw [Bool.eq_false_iff]
  intro covered
  exact not_mem_of_isPrintable within printable (exists_mem_of_covers covered)

theorem exists_blankCodes {n : Nat} (blank : isBlankCode n = true) (other : n ≠ 0x20) :
    ∃ range ∈ blankCodes, range.1 ≤ n ∧ n ≤ range.2 := by
  simp only [isBlankCode, Bool.or_eq_true, Bool.and_eq_true, decide_eq_true_eq,
    beq_iff_eq] at blank
  simp only [blankCodes, List.mem_cons, List.not_mem_nil, or_false, exists_eq_or_imp,
    exists_eq_left]
  omega

theorem shows_of_isPrintable {c : Char} (printable : isPrintable c = true) : Shows c := by
  have controls : LieWithin controlCodes unprintable := by decide +kernel
  have formats : LieWithin formatCodes unprintable := by decide +kernel
  have blanks : LieWithin blankCodes unprintable := by decide +kernel
  refine ⟨printable, not_covers_of_isPrintable controls printable,
    not_covers_of_isPrintable formats printable, ?_⟩
  intro blank
  by_contra other
  have code : c.toNat ≠ ' '.toNat := fun same => other (Char.toNat_inj.mp same)
  exact not_mem_of_isPrintable blanks printable (exists_blankCodes blank code)

/-! ## Showing quotations -/

theorem exists_of_mem_fixedWidth {base width n : Nat} (some : 0 < base) {c : Char}
    (mem : c ∈ fixedWidth base width n) : ∃ digit < base, c = Nat.digitChar digit := by
  induction width generalizing n with
  | zero => cases mem
  | succ width ih =>
    rcases List.mem_append.mp mem with mem | last
    · exact ih mem
    · exact ⟨_, Nat.mod_lt n some, List.mem_singleton.mp last⟩

theorem isPrintable_of_codeWidth? {kind : Char} {width : Nat}
    (known : codeWidth? kind = some width) : isPrintable kind = true := by
  have letters := List.all_eq_true.mp (show ['x', 'u', 'U'].all isPrintable = true by
    decide +kernel)
  unfold codeWidth? at known
  split at known
  next two => exact letters kind (by simp [two])
  · split at known
    next four => exact letters kind (by simp [four])
    · split at known
      next eight => exact letters kind (by simp [eight])
      next => cases known

theorem isPrintable_of_isMark {mark : Char} (quotes : IsMark mark) : isPrintable mark = true := by
  rcases quotes with rfl | rfl <;> decide +kernel

theorem Spells.isPrintable_of_mem {mark c d : Char} {spelling : List Char}
    (spells : Spells mark c spelling) (mem : d ∈ spelling) : isPrintable d = true := by
  have letters := List.all_eq_true.mp (show escapeLetters.all isPrintable = true by
    decide +kernel)
  have slash : isPrintable '\\' = true := letters _ (by decide)
  have digits : ∀ n < 16, isPrintable (Nat.digitChar n) = true := by decide +kernel
  cases spells with
  | itself printable plain unmarked => exact List.mem_singleton.mp mem ▸ printable
  | letter known meant =>
    rcases List.mem_cons.mp mem with rfl | mem
    · exact slash
    · exact List.mem_singleton.mp mem ▸ letters _ known
  | code known fits =>
    rw [List.mem_cons, List.mem_cons] at mem
    rcases mem with rfl | rfl | mem
    · exact slash
    · exact isPrintable_of_codeWidth? known
    · obtain ⟨digit, small, rfl⟩ := exists_of_mem_fixedWidth (by decide) mem
      exact digits digit small

theorem isPrintable_of_mem_quote {text : List Char} {d : Char} (mem : d ∈ quote text) :
    isPrintable d = true := by
  have quotes := isMark_quoteMark text
  rw [quote, List.mem_append, List.mem_cons, List.mem_flatMap, List.mem_singleton] at mem
  rcases mem with (rfl | ⟨c, -, escapes⟩) | rfl
  · exact isPrintable_of_isMark quotes
  · exact (spells_escape quotes c).isPrintable_of_mem escapes
  · exact isPrintable_of_isMark quotes

end EntityHeaders.Text
