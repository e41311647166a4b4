import EntityHeaders.Base64

/-! # The forms of Base64

A text is Base64 if it consists of groups of four digits and an ending.  The ending is a last
group that is padded to four signs, or padding that is idle after a whole group.

* `Form` — such a text by the six-bit numbers of its digits; `Form.text` spells it, and
  `Form.data` is the octets that it carries.
* `decode?_eq_some_iff` — these texts are the ones that are read, and as these octets.
* `Form.canonical`, `encode_data` — written again, the octets of a text have no idle padding, and
  no bits where a padded group has room for more than its octets.
* `canonical_text_eq_iff` — when nothing of that changes the text.

A text is read in three cuts: into digits and padding (`exists_padded`), the digits into groups
and up to three that are left (`exists_groups`), and those by the padding that may follow them.
-/

namespace EntityHeaders.Base64

/-! ## Digits -/

/-- The digits in the order of their six-bit numbers. -/
def alphabet : List Char :=
  "ABCDEFGHIJKLMNOPQRSTUVWXYZabcdefghijklmnopqrstuvwxyz0123456789+/".toList

theorem length_alphabet : alphabet.length = 64 := rfl

abbrev Sextet := Fin 64

def letter (n : Sextet) : Char :=
  alphabet.get (n.cast length_alphabet.symm)

theorem digit_eq_letter (n : Sextet) : digit n.val = letter n := by
  revert n
  decide

theorem sextet?_letter (n : Sextet) : sextet? (letter n) = some n.val := by
  rw [← digit_eq_letter, sextet?_digit n.isLt]

theorem isDigit_letter (n : Sextet) : isDigit (letter n) = true := by
  rw [← digit_eq_letter, isDigit_digit n.isLt]

theorem letter_injective {m n : Sextet} (same : letter m = letter n) : m = n := by
  have numbers := sextet?_letter m
  rw [same, sextet?_letter] at numbers
  exact Fin.ext (Option.some.inj numbers).symm

theorem letter_lt (n : Sextet) : (letter n).toNat < 128 := by
  revert n
  decide +kernel

theorem digit_of_sextet? {c : Char} {n : Nat} (stands : sextet? c = some n) :
    n < 64 ∧ digit n = c := by
  unfold sextet? at stands
  -- one range of the alphabet after the other
  split at stands
  next upper =>
    obtain ⟨low, high⟩ : 65 ≤ c.toNat ∧ c.toNat ≤ 90 := upper
    obtain rfl := Option.some.inj stands
    refine ⟨by omega, ?_⟩
    rw [digit, if_pos (by omega), Nat.sub_add_cancel low, Char.ofNat_toNat]
  split at stands
  next lower =>
    obtain ⟨low, high⟩ : 97 ≤ c.toNat ∧ c.toNat ≤ 122 := lower
    obtain rfl := Option.some.inj stands
    refine ⟨by omega, ?_⟩
    rw [digit, if_neg (by omega), if_pos (by omega), Nat.sub_add_cancel (by omega),
      Char.ofNat_toNat]
  split at stands
  next number =>
    obtain ⟨low, high⟩ : 48 ≤ c.toNat ∧ c.toNat ≤ 57 := number
    obtain rfl := Option.some.inj stands
    refine ⟨by omega, ?_⟩
    rw [digit, if_neg (by omega), if_neg (by omega), if_pos (by omega), Nat.add_sub_cancel,
      Char.ofNat_toNat]
  split at stands
  next plus =>
    obtain rfl := Option.some.inj stands
    exact ⟨by decide, plus.symm⟩
  split at stands
  next slash =>
    obtain rfl := Option.some.inj stands
    exact ⟨by decide, slash.symm⟩
  next => cases stands

theorem exists_letter {c : Char} (digit : isDigit c = true) : ∃ n : Sextet, c = letter n := by
  obtain ⟨n, stands⟩ := Option.isSome_iff_exists.mp digit
  obtain ⟨small, same⟩ := digit_of_sextet? stands
  exact ⟨⟨n, small⟩, by rw [← digit_eq_letter, same]⟩

theorem exists_letters {text : List Char} (digits : ∀ c ∈ text, isDigit c = true) :
    ∃ sextets : List Sextet, text = sextets.map letter := by
  induction text with
  | nil => exact ⟨[], rfl⟩
  | cons c rest ih =>
    obtain ⟨n, first⟩ := exists_letter (digits c List.mem_cons_self)
    obtain ⟨sextets, others⟩ := ih fun d mem => digits d (List.mem_cons_of_mem c mem)
    exact ⟨n :: sextets, by rw [first, others, List.map_cons]⟩

theorem filterMap_letter (sextets : List Sextet) :
    (sextets.map letter).filterMap sextet? = sextets.map Fin.val := by
  induction sextets with
  | nil => rfl
  | cons n rest ih => simp [sextet?_letter, ih]

/-! ## Digits and padding -/

/-- Digits and then padding signs. -/
def padded (sextets : List Sextet) (padding : Nat) : List Char :=
  sextets.map letter ++ List.replicate padding '='

theorem isDigit_of_mem_letters {sextets : List Sextet} {c : Char}
    (mem : c ∈ sextets.map letter) : isDigit c = true := by
  obtain ⟨n, -, rfl⟩ := List.mem_map.mp mem
  exact isDigit_letter n

/-- The digits and the padding can be told apart. -/
theorem padded_injective {sextets others : List Sextet} {padding signs : Nat}
    (same : padded sextets padding = padded others signs) :
    sextets = others ∧ padding = signs := by
  have front := congrArg (List.takeWhile isDigit) same
  have back := congrArg (fun text => (text.dropWhile isDigit).length) same
  simp only [padded, takeWhile_padded fun _ => isDigit_of_mem_letters] at front
  simp only [padded, dropWhile_padded fun _ => isDigit_of_mem_letters,
    List.length_replicate] at back
  exact ⟨List.map_inj_right (fun _ _ => letter_injective) |>.mp front, back⟩

theorem padded_ascii (sextets : List Sextet) (padding : Nat) :
    (padded sextets padding).all (·.toNat < 128) = true := by
  rw [padded, List.all_append, List.all_map, List.all_replicate]
  simp [letter_lt]

theorem decode?_padded (sextets : List Sextet) (padding : Nat) :
    decode? (padded sextets padding) =
      if closes sextets.length padding then some (octets (sextets.map Fin.val)) else none := by
  simp only [decode?, padded, takeWhile_padded fun _ => isDigit_of_mem_letters,
    dropWhile_padded fun _ => isDigit_of_mem_letters, List.length_replicate, List.length_map,
    filterMap_letter]
  simp

/-- The first cut: what is read is digits and a padding that may follow so many of them. -/
theorem exists_padded {text : List Char} {data : List UInt8} (read : decode? text = some data) :
    ∃ sextets padding, text = padded sextets padding ∧ closes sextets.length padding = true := by
  have digits : ∀ c ∈ text.takeWhile isDigit, isDigit c = true :=
    fun c mem => List.all_eq_true.mp List.all_takeWhile c mem
  obtain ⟨sextets, front⟩ := exists_letters digits
  unfold decode? at read
  simp only [Option.ite_none_right_eq_some] at read
  obtain ⟨⟨signs, closed⟩, -⟩ := read
  have back : text.dropWhile isDigit = List.replicate (text.dropWhile isDigit).length '=' := by
    apply List.eq_replicate_of_mem
    intro c mem
    simpa using List.all_eq_true.mp signs c mem
  rw [front, List.length_map] at closed
  refine ⟨sextets, _, ?_, closed⟩
  rw [padded, ← front, ← back, List.takeWhile_append_dropWhile]

/-! ## Groups and endings -/

/-- Four digits, which carry three octets. -/
structure Group where
  first : Sextet
  second : Sextet
  third : Sextet
  fourth : Sextet
deriving DecidableEq

namespace Group

def digits (group : Group) : List Sextet :=
  [group.first, group.second, group.third, group.fourth]

/-- The number of 24 bits that the digits write. -/
def number (group : Group) : Nat :=
  ((group.first.val * 64 + group.second.val) * 64 + group.third.val) * 64 + group.fourth.val

def octets (group : Group) : List UInt8 :=
  [UInt8.ofNat (group.number / 65536), UInt8.ofNat (group.number / 256), UInt8.ofNat group.number]

end Group

/-- What follows the whole groups: padding alone, or two or three digits padded to a group of
    four signs. -/
inductive Ending where
  | idle (padding : Nat)
  | two (first second : Sextet)
  | three (first second third : Sextet)
deriving DecidableEq

namespace Ending

def digits : Ending → List Sextet
  | idle _ => []
  | two first second => [first, second]
  | three first second third => [first, second, third]

def padding : Ending → Nat
  | idle padding => padding
  | two .. => 2
  | three .. => 1

/-- The whole octets in the digits: of 12 bits the first 8, of 18 bits the first 16. -/
def octets : Ending → List UInt8
  | idle _ => []
  | two first second => [UInt8.ofNat ((first.val * 64 + second.val) / 16)]
  | three first second third =>
    let bits := ((first.val * 64 + second.val) * 64 + third.val) / 4
    [UInt8.ofNat (bits / 256), UInt8.ofNat bits]

/-- The ending without idle padding, and with zeros for the bits beyond the octets. -/
def canonical : Ending → Ending
  | idle _ => idle 0
  | two first second => two first ⟨second.val / 16 * 16, by omega⟩
  | three first second third => three first second ⟨third.val / 4 * 4, by omega⟩

def IsCanonical : Ending → Prop
  | idle padding => padding = 0
  | two _ second => second.val % 16 = 0
  | three _ _ third => third.val % 4 = 0

end Ending

/-- A text of groups and an ending, in which idle padding has a group before it. -/
structure Form where
  groups : List Group
  ending : Ending
  idle_after_group : groups = [] → ∀ padding, ending = .idle padding → padding = 0

namespace Form

def digits (form : Form) : List Sextet :=
  form.groups.flatMap Group.digits ++ form.ending.digits

def text (form : Form) : List Char :=
  padded form.digits form.ending.padding

def data (form : Form) : List UInt8 :=
  form.groups.flatMap Group.octets ++ form.ending.octets

def canonical (form : Form) : Form where
  groups := form.groups
  ending := form.ending.canonical
  idle_after_group := by
    intro _ padding idle
    cases ending : form.ending <;> simp_all [Ending.canonical]

@[simp]
theorem groups_canonical (form : Form) : form.canonical.groups = form.groups :=
  rfl

@[simp]
theorem ending_canonical (form : Form) : form.canonical.ending = form.ending.canonical :=
  rfl

end Form

theorem length_digits (groups : List Group) :
    (groups.flatMap Group.digits).length = 4 * groups.length := by
  induction groups with
  | nil => rfl
  | cons group rest ih =>
    simp only [List.flatMap_cons, List.length_append, List.length_cons, ih, Group.digits,
      List.length_nil]
    omega

theorem closes_of_groups (count digits padding : Nat) (some : 0 < digits) :
    closes (4 * count + digits) padding = closes digits padding := by
  have left : (4 * count + digits) % 4 = digits % 4 := by omega
  have both : (4 * count + digits != 0) = (digits != 0) := by
    rw [bne_iff_ne.mpr (by omega), bne_iff_ne.mpr (by omega)]
  simp only [closes, paddingFor, left, both]

/-- The second cut: whole groups and fewer than four digits. -/
theorem exists_groups : (sextets : List Sextet) → ∃ (groups : List Group) (left : List Sextet),
    left.length < 4 ∧ sextets = groups.flatMap Group.digits ++ left
  | [] => ⟨[], [], by simp, rfl⟩
  | [a] => ⟨[], [a], by simp, rfl⟩
  | [a, b] => ⟨[], [a, b], by simp, rfl⟩
  | [a, b, c] => ⟨[], [a, b, c], by simp, rfl⟩
  | a :: b :: c :: d :: rest => by
    obtain ⟨groups, left, few, split⟩ := exists_groups rest
    refine ⟨⟨a, b, c, d⟩ :: groups, left, few, ?_⟩
    rw [split, List.flatMap_cons, List.append_assoc]
    rfl

/-- The third cut: the padding tells the ending. -/
theorem exists_form {sextets : List Sextet} {padding : Nat}
    (closed : closes sextets.length padding = true) :
    ∃ form : Form, form.digits = sextets ∧ form.ending.padding = padding := by
  obtain ⟨groups, left, few, rfl⟩ := exists_groups sextets
  rw [List.length_append, length_digits] at closed
  match left, few with
  | [], _ =>
    refine ⟨⟨groups, .idle padding, ?_⟩, rfl, rfl⟩
    rintro rfl other same
    cases same
    simpa [closes] using closed
  | [a], _ =>
    rw [closes_of_groups groups.length [a].length padding (Nat.succ_pos _)] at closed
    simp [closes] at closed
  | [a, b], _ =>
    rw [closes_of_groups groups.length [a, b].length padding (Nat.succ_pos _)] at closed
    have signs : padding = 2 := by simpa [closes, paddingFor] using closed
    exact ⟨⟨groups, .two a b, by simp⟩, rfl, signs.symm⟩
  | [a, b, c], _ =>
    rw [closes_of_groups groups.length [a, b, c].length padding (Nat.succ_pos _)] at closed
    have signs : padding = 1 := by simpa [closes, paddingFor] using closed
    exact ⟨⟨groups, .three a b c, by simp⟩, rfl, signs.symm⟩

theorem Form.closes (form : Form) :
    closes form.digits.length form.ending.padding = true := by
  rw [digits, List.length_append, length_digits]
  cases ending : form.ending with
  | idle padding =>
    have idle := form.idle_after_group
    cases groups : form.groups with
    | nil => simp [Base64.closes, Ending.digits, Ending.padding, idle groups padding ending]
    | cons group rest => simp [Base64.closes, Ending.digits]
  | two | three => exact closes_of_groups _ _ _ (Nat.succ_pos _)

/-! ## Reading a form -/

theorem ofNat_congr {m n : Nat} (same : m % 256 = n % 256) : UInt8.ofNat m = UInt8.ofNat n := by
  apply UInt8.toNat_inj.mp
  simpa using same

/-- One group: its 24 bits are cut into octets as its digits say. -/
theorem octets_group (group : Group) (left : List Nat) :
    octets (group.digits.map Fin.val ++ left) = group.octets ++ octets left := by
  obtain ⟨a, b, c, d⟩ := group
  have first : (a.val * 4 + b.val / 16) % 256 =
      (((a.val * 64 + b.val) * 64 + c.val) * 64 + d.val) / 65536 % 256 := by omega
  have second : (b.val % 16 * 16 + c.val / 4) % 256 =
      (((a.val * 64 + b.val) * 64 + c.val) * 64 + d.val) / 256 % 256 := by omega
  have third : (c.val % 4 * 64 + d.val) % 256 =
      (((a.val * 64 + b.val) * 64 + c.val) * 64 + d.val) % 256 := by omega
  simp only [Group.digits, Group.octets, Group.number, List.map_cons, List.map_nil,
    List.cons_append, List.nil_append, octets, ofNat_congr first, ofNat_congr second,
    ofNat_congr third]

theorem octets_groups (groups : List Group) (left : List Nat) :
    octets ((groups.flatMap Group.digits).map Fin.val ++ left) =
      groups.flatMap Group.octets ++ octets left := by
  induction groups with
  | nil => rfl
  | cons group rest ih =>
    rw [List.flatMap_cons, List.map_append, List.append_assoc, octets_group, ih,
      List.flatMap_cons, List.append_assoc]

theorem octets_ending (ending : Ending) :
    octets (ending.digits.map Fin.val) = ending.octets := by
  cases ending with
  | idle => rfl
  | two a b =>
    have first : (a.val * 4 + b.val / 16) % 256 = (a.val * 64 + b.val) / 16 % 256 := by omega
    simp only [Ending.digits, Ending.octets, List.map_cons, List.map_nil, octets,
      ofNat_congr first]
  | three a b c =>
    have first : (a.val * 4 + b.val / 16) % 256 =
        ((a.val * 64 + b.val) * 64 + c.val) / 4 / 256 % 256 := by omega
    have second : (b.val % 16 * 16 + c.val / 4) % 256 =
        ((a.val * 64 + b.val) * 64 + c.val) / 4 % 256 := by omega
    simp only [Ending.digits, Ending.octets, List.map_cons, List.map_nil, octets,
      ofNat_congr first, ofNat_congr second]

theorem decode?_text (form : Form) : decode? form.text = some form.data := by
  rw [Form.text, decode?_padded, if_pos form.closes, Form.digits, List.map_append, octets_groups,
    octets_ending, Form.data]

/-- A text is read if and only if it has a form, and then as the octets of this form. -/
theorem decode?_eq_some_iff {text : List Char} {data : List UInt8} :
    decode? text = some data ↔ ∃ form : Form, text = form.text ∧ data = form.data := by
  refine ⟨?_, ?_⟩
  · intro read
    obtain ⟨sextets, padding, rfl, closed⟩ := exists_padded read
    obtain ⟨form, rfl, rfl⟩ := exists_form closed
    exact ⟨form, rfl, Option.some.inj (read.symm.trans (decode?_text form))⟩
  · rintro ⟨form, rfl, rfl⟩
    exact decode?_text form

-- idle padding, and a last digit with bits to spare
example : decode? "AAAA=====".toList = some [0, 0, 0] := by decide
example : decode? "/x==".toList = some [255] := by decide

/-! ## Writing it again -/

/-- One group: its octets are cut into the digits that they came from. -/
theorem sextets_group (group : Group) (tail : List UInt8) :
    sextets (group.octets ++ tail) = group.digits.map Fin.val ++ sextets tail := by
  obtain ⟨a, b, c, d⟩ := group
  simp only [Group.octets, Group.number, Group.digits, List.cons_append, List.nil_append, sextets,
    List.map_cons, List.map_nil, UInt8.toNat_ofNat', List.cons.injEq, and_true]
  omega

theorem sextets_groups (groups : List Group) (tail : List UInt8) :
    sextets (groups.flatMap Group.octets ++ tail) =
      (groups.flatMap Group.digits).map Fin.val ++ sextets tail := by
  induction groups with
  | nil => rfl
  | cons group rest ih =>
    rw [List.flatMap_cons, List.append_assoc, sextets_group, ih, List.flatMap_cons,
      List.map_append, List.append_assoc]

theorem sextets_ending (ending : Ending) :
    sextets ending.octets = ending.canonical.digits.map Fin.val := by
  cases ending with
  | idle => rfl
  | two a b =>
    simp only [Ending.octets, sextets, Ending.canonical, Ending.digits, List.map_cons,
      List.map_nil, UInt8.toNat_ofNat', List.cons.injEq, and_true]
    omega
  | three a b c =>
    simp only [Ending.octets, sextets, Ending.canonical, Ending.digits, List.map_cons,
      List.map_nil, UInt8.toNat_ofNat', List.cons.injEq, and_true]
    omega

theorem map_digit_val (sextets : List Sextet) :
    (sextets.map Fin.val).map digit = sextets.map letter := by
  rw [List.map_map]
  exact List.map_congr_left fun n _ => digit_eq_letter n

theorem paddingFor_canonical (count : Nat) (ending : Ending) :
    paddingFor (4 * count + ending.canonical.digits.length) = ending.canonical.padding := by
  have left : (4 * count + ending.canonical.digits.length) % 4 =
      ending.canonical.digits.length % 4 := by omega
  rw [paddingFor, left]
  cases ending <;> simp [Ending.canonical, Ending.digits, Ending.padding]

/-- The octets of a form are written without idle padding, and with zeros for the bits that
    carry no octet. -/
theorem encode_data (form : Form) : encode form.data = form.canonical.text := by
  have digits : sextets form.data = form.canonical.digits.map Fin.val := by
    rw [Form.data, sextets_groups, sextets_ending, Form.digits, List.map_append,
      Form.groups_canonical, Form.ending_canonical]
  have count : form.canonical.digits.length =
      4 * form.groups.length + form.ending.canonical.digits.length := by
    rw [Form.digits, List.length_append, length_digits, Form.groups_canonical,
      Form.ending_canonical]
  simp only [encode, digits, map_digit_val, List.length_map, count, paddingFor_canonical]
  rfl

theorem Ending.canonical_eq_iff (ending : Ending) :
    ending.canonical = ending ↔ ending.IsCanonical := by
  cases ending with
  | idle padding => simp [canonical, IsCanonical, eq_comm]
  | two first second =>
    simp only [canonical, IsCanonical, two.injEq, true_and, Fin.ext_iff]
    omega
  | three first second third =>
    simp only [canonical, IsCanonical, three.injEq, true_and, Fin.ext_iff]
    omega

theorem Ending.eq_of_padded {a b : Ending} (digits : a.digits = b.digits)
    (padding : a.padding = b.padding) : a = b := by
  cases a <;> cases b <;> simp_all [Ending.digits, Ending.padding]

/-- Written again, a text is the same if and only if its ending is canonical. -/
theorem canonical_text_eq_iff (form : Form) :
    form.canonical.text = form.text ↔ form.ending.IsCanonical := by
  rw [← form.ending.canonical_eq_iff]
  refine ⟨?_, ?_⟩
  · intro same
    obtain ⟨digits, padding⟩ := padded_injective same
    exact Ending.eq_of_padded (List.append_cancel_left digits) padding
  · intro same
    simp only [Form.text, Form.digits, Form.groups_canonical, Form.ending_canonical, same]

end EntityHeaders.Base64
