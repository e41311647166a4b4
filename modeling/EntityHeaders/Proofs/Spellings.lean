import EntityHeaders.Proofs.Collections
import EntityHeaders.Proofs.DateTexts

/-! # Spellings of names and words

Names are compared by their small letters, and those are taken of the whole character set.  Of
all characters beyond ASCII only the kelvin sign has a small form within it, which is the letter
k (`exists_high_of_not_ascii`).  So an ASCII text is the small form of its spellings in ASCII and
of those that have a kelvin sign for a k (`lower_eq_iff`).

* `sameName_iff_sameLetters` — no known name has a k, so their other spellings are those in ASCII
  capitals.
* `isChunked_iff` — the word for a body in chunks has one.
* `countsForNothing_of_unknown`, `Alike.countsAs` — headers that may be left out of any list,
  and headers that may stand for each other in it.
* `counts_by_spelling` — which headers count, and as what.
-/

namespace EntityHeaders

open HttpDate (SameLetters toLower_of_not_ascii)
open Text (IsAscii isAscii_iff lower strip)

namespace Text

/-! ## Small letters within ASCII -/

def kelvinSign : Char := '\u212A'

/-- The small form of an ASCII letter or of the kelvin sign. -/
def foldLetter (c : Char) : Char :=
  if c = kelvinSign then 'k' else c.toLower

theorem toNat_ofNat_of_valid {n : Nat} (valid : n.isValidChar) : (Char.ofNat n).toNat = n := by
  rw [Char.ofNat, dif_pos valid]
  rfl

/-- A run of capitals within ASCII, that of the kelvin sign, or one whose small letters are
    all characters beyond ASCII. -/
def CapitalRun.KeepsOutOfAscii (run : CapitalRun) : Prop :=
  run.last < 128 ∨ run = ⟨0x212A, 0x212A, 1, 0x6B⟩ ∨
    128 ≤ run.target ∧ (run.target + (run.last - run.first) < 0xD800 ∨
      0xDFFF < run.target ∧ run.target + (run.last - run.first) < 0x110000)

instance (run : CapitalRun) : Decidable run.KeepsOutOfAscii :=
  inferInstanceAs (Decidable (_ ∨ _ ∨ _))

theorem capitalRuns_keepOutOfAscii : ∀ run ∈ capitalRuns, run.KeepsOutOfAscii := by
  decide +kernel

/-- A character beyond ASCII that is not the kelvin sign has a character beyond ASCII in its
    small form. -/
theorem exists_high_of_not_ascii {c : Char} (high : 128 ≤ c.toNat) (other : c ≠ kelvinSign) :
    ∃ d ∈ lowerChar c, 128 ≤ d.toNat := by
  unfold lowerChar
  split
  · exact ⟨'\u0307', by simp, by decide⟩
  · split
    next run found =>
      have held : run.holds c.toNat = true := by simpa using List.find?_some found
      simp only [CapitalRun.holds, Bool.and_eq_true, decide_eq_true_eq] at held
      obtain ⟨⟨first, last⟩, -⟩ := held
      refine ⟨_, List.mem_singleton_self _, ?_⟩
      rcases capitalRuns_keepOutOfAscii run (List.mem_of_find?_eq_some found) with
        low | kelvin | ⟨above, valid⟩
      · omega
      · -- the run holds one character
        subst kelvin
        have only : c.toNat = kelvinSign.toNat := Nat.le_antisymm last first
        exact absurd (Char.toNat_inj.mp only) other
      · have small : (run.small c.toNat).isValidChar := by
          unfold Nat.isValidChar CapitalRun.small
          omega
        rw [toNat_ofNat_of_valid small, CapitalRun.small]
        omega
    next => exact ⟨c, by simp, high⟩

theorem lowerChar_of_foldable {c : Char} (foldable : c.toNat < 128 ∨ c = kelvinSign) :
    lowerChar c = [foldLetter c] := by
  rcases foldable with ascii | rfl
  · have other : c ≠ kelvinSign := by
      rintro rfl
      exact absurd ascii (by decide)
    rw [lowerChar_of_latin1 (Nat.lt_trans ascii (by decide)), smallLetter_of_ascii ascii,
      foldLetter, if_neg other]
  · decide +kernel

/-- An ASCII text is the small form of the texts that become it letter by letter. -/
theorem lowerAfter_eq_iff {text target : List Char} (ascii : IsAscii target)
    (before : List Char) : lowerAfter before text = target ↔ text.map foldLetter = target := by
  induction text generalizing before target with
  | nil => rfl
  | cons c rest ih =>
    rw [isAscii_iff] at ascii
    by_cases foldable : c.toNat < 128 ∨ c = kelvinSign
    · have sigma : c ≠ 'Σ' := by
        rintro rfl
        exact absurd foldable (by decide)
      rw [lowerAfter, if_neg sigma, lowerChar_of_foldable foldable, List.singleton_append,
        List.map_cons]
      cases target with
      | nil => simp
      | cons d later =>
        have rest_ascii : IsAscii later :=
          isAscii_iff.mpr fun e mem => ascii e (List.mem_cons_of_mem d mem)
        rw [List.cons.injEq, List.cons.injEq, ih rest_ascii]
    · -- neither text is ASCII, the one for its first character and the other for its small form
      obtain ⟨high, other⟩ : 128 ≤ c.toNat ∧ c ≠ kelvinSign := by
        simpa only [not_or, Nat.not_lt] using foldable
      constructor
      · intro same
        obtain ⟨d, mem, above⟩ : ∃ d ∈ (if c = 'Σ' then [lowerSigma before rest] else lowerChar c),
            128 ≤ d.toNat := by
          split
          · refine ⟨_, List.mem_singleton_self _, ?_⟩
            unfold lowerSigma
            split <;> decide
          · exact exists_high_of_not_ascii high other
        have below := ascii d (by rw [← same, lowerAfter]; exact List.mem_append_left _ mem)
        omega
      · intro same
        have below := ascii (foldLetter c) (by simp [← same])
        rw [foldLetter, if_neg other, toLower_of_not_ascii high] at below
        omega

theorem lower_eq_iff {text target : List Char} (ascii : IsAscii target) :
    lower text = target ↔ text.map foldLetter = target :=
  lowerAfter_eq_iff ascii []

/-- Where there is no k, there is nothing that a kelvin sign could stand for. -/
theorem map_foldLetter_eq_iff {text target : List Char} (ascii : IsAscii target)
    (without : 'k' ∉ target) :
    text.map foldLetter = target ↔ text.map Char.toLower = target := by
  have letters : (∀ c ∈ text, c ≠ kelvinSign) → text.map foldLetter = text.map Char.toLower :=
    fun others => List.map_congr_left fun c mem => if_neg (others c mem)
  constructor
  · intro same
    rw [← letters, same]
    rintro c mem rfl
    exact without (same ▸ List.mem_map_of_mem mem)
  · intro same
    rw [letters, same]
    rintro c mem rfl
    have below := isAscii_iff.mp ascii kelvinSign.toLower (same ▸ List.mem_map_of_mem mem)
    exact absurd below (by decide)

/-- What is no blank is not stripped off. -/
theorem mem_strip {text : List Char} {c : Char} (mem : c ∈ text) (inner : isBlank c = false) :
    c ∈ strip text := by
  have kept : ∀ {other : List Char}, c ∈ other → c ∈ other.dropWhile isBlank := by
    intro other held
    rw [← List.takeWhile_append_dropWhile (p := isBlank) (l := other)] at held
    rcases List.mem_append.mp held with front | rest
    · have blank := List.all_eq_true.mp List.all_takeWhile c front
      rw [inner] at blank
      cases blank
    · exact rest
  rw [strip, stripEnd, stripStart, List.mem_reverse]
  exact kept (List.mem_reverse.mpr (kept mem))

end Text

/-! ## Names -/

/-- The names that count: those of the fields, and the one that tells how the body is sent. -/
def knownNames : List String :=
  transferEncoding :: Field.all.map Field.name

theorem Field.name_mem_knownNames (field : Field) : field.name ∈ knownNames :=
  List.mem_cons_of_mem _ (List.mem_map_of_mem (mem_all field))

/-- Known names are in ASCII and without a k, so they are spelled in ASCII capitals only. -/
theorem sameName_iff_sameLetters {name known : String} (listed : known ∈ knownNames) :
    sameName name known = true ↔ SameLetters name.toList known.toList := by
  have plain : ∀ known ∈ knownNames, IsAscii known.toList ∧
      IsAscii (known.toList.map Char.toLower) ∧ 'k' ∉ known.toList.map Char.toLower := by
    decide
  obtain ⟨ascii, small, without⟩ := plain known listed
  rw [sameName_iff, Text.lower_of_ascii ascii, Text.lower_eq_iff small,
    Text.map_foldLetter_eq_iff small without]
  rfl

theorem isAscii_of_sameLetters {text known : List Char} (ascii : IsAscii known)
    (same : SameLetters text known) : IsAscii text := by
  rw [isAscii_iff] at ascii ⊢
  intro c mem
  apply Classical.byContradiction
  intro above
  -- such a character is its own small form, and those of the known letters are in ASCII
  have small : c ∈ known.map Char.toLower := by
    rw [← same, ← toLower_of_not_ascii (Nat.not_lt.mp above)]
    exact List.mem_map_of_mem mem
  obtain ⟨d, held, rfl⟩ := List.mem_map.mp small
  rw [← Text.smallLetter_of_ascii (ascii d held)] at above
  exact above (Text.smallLetter_lt .ascii (ascii d held))

/-! ## Bodies in chunks -/

/-- The word for a body in chunks, in any ASCII capitals, and with a kelvin sign instead of its
    k or not. -/
def SpellsChunked (text : List Char) : Prop :=
  ∃ front k back, text = front ++ k :: back ∧ SameLetters front "chun".toList ∧
    (SameLetters [k] "k".toList ∨ k = '\u212A') ∧ SameLetters back "ed".toList

theorem spellsChunked_iff {text : List Char} :
    SpellsChunked text ↔ text.map Text.foldLetter = chunkedEncoding.toList := by
  have word : chunkedEncoding.toList = "chun".toList ++ 'k' :: "ed".toList := by decide
  have letter : ∀ k, Text.foldLetter k = 'k' ↔ SameLetters [k] "k".toList ∨ k = '\u212A' := by
    intro k
    by_cases kelvin : k = '\u212A' <;> simp [Text.foldLetter, Text.kelvinSign, SameLetters, kelvin]
  have front : ∀ text : List Char,
      text.map Text.foldLetter = "chun".toList ↔ SameLetters text "chun".toList :=
    fun text => Text.map_foldLetter_eq_iff (by decide) (by decide)
  have back : ∀ text : List Char,
      text.map Text.foldLetter = "ed".toList ↔ SameLetters text "ed".toList :=
    fun text => Text.map_foldLetter_eq_iff (by decide) (by decide)
  rw [word, List.map_eq_append_iff]
  simp only [List.map_eq_cons_iff, front, back, letter]
  constructor
  · rintro ⟨front, k, back, rfl, chun, middle, ed⟩
    exact ⟨front, k :: back, rfl, chun, k, back, rfl, middle, ed⟩
  · rintro ⟨front, _, rfl, chun, k, back, rfl, middle, ed⟩
    exact ⟨front, k, back, rfl, chun, middle, ed⟩

theorem saysChunked_iff {header : Header} :
    header.saysChunked = true ↔ SameLetters header.name.toList transferEncoding.toList ∧
      SpellsChunked (strip header.value.toList) := by
  rw [Header.saysChunked, Bool.and_eq_true, beq_iff_eq, sameName_iff_sameLetters (by decide),
    Text.lower_eq_iff (by decide), spellsChunked_iff]

theorem isChunked_iff {headers : List Header} :
    isChunked headers = true ↔ ∃ header ∈ headers,
      SameLetters header.name.toList transferEncoding.toList ∧
        SpellsChunked (strip header.value.toList) := by
  simp only [isChunked, List.any_eq_true, saysChunked_iff]

-- a kelvin sign in the word, and a long s in the name
example : isChunked [⟨"TRANSFER-encoding", " Chun\u212Aed\t"⟩] = true := by decide +kernel
example : isChunked [⟨"Tran\u017Ffer-Encoding", "chunked"⟩] = false := by decide +kernel

/-- A list of encodings is not that word. -/
theorem not_spellsChunked_of_comma {text : List Char} (comma : ',' ∈ text) :
    ¬ SpellsChunked (strip text) := by
  intro spelled
  have held := List.mem_map_of_mem (f := Text.foldLetter) (Text.mem_strip comma (by decide))
  rw [spellsChunked_iff.mp spelled] at held
  exact absurd held (by decide)

/-! ## Headers in a list -/

namespace Header

/-- Leaving the header out of any list changes nothing of a decoding, and nothing of whether the
    body is in chunks. -/
def CountsForNothing (header : Header) : Prop :=
  ∀ (profile : Profile) (before after : List Header) (target : Metadata),
    target.decode profile (.ofHeaders (before ++ header :: after)) =
      target.decode profile (.ofHeaders (before ++ after)) ∧
    isChunked (before ++ header :: after) = isChunked (before ++ after)

/-- Replacing the one header by the other in any list changes nothing of a decoding, and nothing
    of whether the body is in chunks. -/
def CountsAs (header other : Header) : Prop :=
  ∀ (profile : Profile) (before after : List Header) (target : Metadata),
    target.decode profile (.ofHeaders (before ++ header :: after)) =
      target.decode profile (.ofHeaders (before ++ other :: after)) ∧
    isChunked (before ++ header :: after) = isChunked (before ++ other :: after)

theorem countsForNothing_of_idle {header : Header} (silent : header.saysChunked = false)
    (idle : ∀ profile chunked, header.effect profile chunked = .ok {}) :
    header.CountsForNothing := by
  intro profile before after target
  have chunks : isChunked (before ++ header :: after) = isChunked (before ++ after) := by
    simp [isChunked, silent]
  refine ⟨?_, chunks⟩
  rw [Metadata.decode_ofHeaders, Metadata.decode_ofHeaders, Metadata.applyHeaders,
    Metadata.applyHeaders, chunks, Metadata.applyAll_append, Metadata.applyAll_append]
  simp only [Metadata.applyAll_cons_ok (idle _ _), Metadata.apply, List.nil_append]

theorem Alike.countsAs {header other : Header} (alike : header.Alike other) :
    header.CountsAs other := by
  intro profile before after target
  have chunks : isChunked (before ++ header :: after) = isChunked (before ++ other :: after) := by
    simp [isChunked, alike.saysChunked_eq]
  refine ⟨?_, chunks⟩
  rw [Metadata.decode_ofHeaders, Metadata.decode_ofHeaders, Metadata.applyHeaders,
    Metadata.applyHeaders, chunks, Metadata.applyAll_append, Metadata.applyAll_append]
  simp only [Metadata.applyAll, alike.effect_eq]

theorem countsForNothing_of_unknown {header : Header}
    (unknown : ∀ name ∈ knownNames, ¬ SameLetters header.name.toList name.toList) :
    header.CountsForNothing := by
  have unnamed : Field.ofName? header.name = none := by
    cases found : Field.ofName? header.name with
    | none => rfl
    | some field =>
      have listed := field.name_mem_knownNames
      have same := Field.ofName?_eq_some_iff.mp found
      exact absurd ((sameName_iff_sameLetters listed).mp same) (unknown _ listed)
  apply countsForNothing_of_idle
  · rw [Bool.eq_false_iff, ne_eq, saysChunked_iff]
    exact fun said => unknown _ List.mem_cons_self said.1
  · intro profile chunked
    simp [effect, unnamed]

/-- A header counts as one of those that are known if its name is that of one, up to the capitals
    of ASCII, and for nothing otherwise, as do all names that are not in ASCII.  A list says that
    the body is in chunks if a header of that name has the word for it and no other as its value,
    between blanks. -/
theorem counts_by_spelling (header : Header) :
    ((∀ name ∈ knownNames, ¬ SameLetters header.name.toList name.toList) →
      header.CountsForNothing) ∧
    (∀ name ∈ knownNames, SameLetters header.name.toList name.toList →
      header.CountsAs { header with name }) ∧
    ((∃ c ∈ header.name.toList, 128 ≤ c.toNat) → header.CountsForNothing) ∧
    (∀ headers, isChunked headers = true ↔ ∃ other ∈ headers,
      SameLetters other.name.toList "Transfer-Encoding".toList ∧
        SpellsChunked (strip other.value.toList)) ∧
    ∀ value : String, ',' ∈ value.toList → ¬ SpellsChunked (strip value.toList) := by
  refine ⟨countsForNothing_of_unknown, ?_, ?_, fun _ => isChunked_iff,
    fun _ => not_spellsChunked_of_comma⟩
  · intro name listed same
    exact Alike.countsAs ⟨(sameName_iff_sameLetters listed).mpr same, rfl⟩
  · rintro ⟨c, mem, high⟩
    apply countsForNothing_of_unknown
    intro name listed same
    have known : ∀ name ∈ knownNames, IsAscii name.toList := by decide
    have ascii := isAscii_of_sameLetters (known name listed) same
    have below := isAscii_iff.mp ascii c mem
    omega

end Header

end EntityHeaders
