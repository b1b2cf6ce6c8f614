import Mathlib.Tactic.SplitIfs
import StructEdit.Json.Parser
import StructEdit.Json.Printer

/-!
# StructEdit.Proofs.Json.Literals

Strings and numbers read back. A text is written with escapes, and its escapes spell the
text; a number is written in decimal digits, which have no leading zero. Each statement is
for a rest of the text behind the literal. Main statements: `Json.readText_quoted` and
`Json.readNumber_digits`.
-/

namespace StructEdit

/-! ## Decimal digits -/

namespace Numeral

theorem isDigit_ofNat_add : ∀ d < 10, (Char.ofNat (d + 48)).isDigit = true := by decide

theorem toNat_ofNat_add : ∀ d < 10, (Char.ofNat (d + 48)).toNat - '0'.toNat = d := by decide

/-- A number is written with digits. -/
theorem isDigit_of_mem_digits {n : Nat} {c : Char} (h : c ∈ digits n) : c.isDigit = true := by
  fun_induction digits n with
  | case1 n hn =>
    rw [List.mem_singleton.1 h]
    exact isDigit_ofNat_add n hn
  | case2 n hn ih =>
    rcases List.mem_append.1 h with h | h
    · exact ih h
    · rw [List.mem_singleton.1 h]
      exact isDigit_ofNat_add (n % 10) (Nat.mod_lt n (by decide))

/-- Every number has a digit. -/
theorem digits_ne_nil (n : Nat) : digits n ≠ [] := by
  rw [digits]
  split <;> simp

/-- The digits of a number write that number. -/
theorem decimalValue_digits (n : Nat) : decimalValue (digits n) = n := by
  fun_induction digits n with
  | case1 n hn =>
    have hd := toNat_ofNat_add n hn
    rw [decimalValue, List.foldl_cons, List.foldl_nil, hd]
    omega
  | case2 n hn ih =>
    have hd := toNat_ofNat_add (n % 10) (Nat.mod_lt n (by decide))
    rw [decimalValue] at ih
    rw [decimalValue, List.foldl_append, ih, List.foldl_cons, List.foldl_nil, hd]
    omega

/-- A zero in front stands alone. -/
theorem digits_of_head? {n : Nat} (h : (digits n).head? = some '0') : digits n = ['0'] := by
  fun_induction digits n with
  | case1 n hn =>
    have hzero : Char.ofNat (n + 48) = '0' := by simpa using h
    rw [hzero]
  | case2 n hn ih =>
    -- the digits in front would be a lone zero, but they write more than zero
    have hzero : digits (n / 10) = ['0'] := ih (by
      rwa [List.head?_append, Option.or_of_isSome (by simp [digits_ne_nil])] at h)
    have hvalue := decimalValue_digits (n / 10)
    rw [hzero] at hvalue
    have : n / 10 = 0 := hvalue.symm
    omega

end Numeral

namespace Json

/-! ## Strings -/

/-- The number of a control character reads back from its two digits behind two zeros. -/
theorem hexNumber?_hexDigit : ∀ n < 0x20,
    hexNumber? ['0', '0', hexDigit (n / 16), hexDigit (n % 16)] = some n := by decide

/-- A control character is no half of a character. -/
theorem ofNat_of_lt {n : Nat} (h : n < 0x20) : TextUnit.ofNat n = .char (Char.ofNat n) := by
  rw [TextUnit.ofNat, if_neg (by omega)]

/-- A letter behind a backslash stands for one character, but for the letter of an escape
by number. -/
theorem readUnits_escape {e c : Char} (hu : e ≠ 'u') (he : escape? e = some c)
    (rest : List Char) :
    readUnits ('\\' :: e :: rest) = (readUnits rest).map fun r => (.char c :: r.1, r.2) := by
  rw [readUnits]
  · cases readUnits rest <;> simp [he]
  · simp [hu]

/-- Any other character stands for itself. -/
theorem readUnits_self {c : Char} (hq : c ≠ '"') (hb : c ≠ '\\') (hc : ¬ c.toNat < 0x20)
    (rest : List Char) :
    readUnits (c :: rest) = (readUnits rest).map fun r => (.char c :: r.1, r.2) := by
  rw [readUnits]
  · cases readUnits rest <;> simp [hc]
  · simp [hq]
  · simp [hb]
  · simp [hb]

/-- A character that is escaped by its number is read from it. -/
theorem readUnits_number {n : Nat} (h : n < 0x20) (rest : List Char) :
    readUnits ('\\' :: 'u' :: '0' :: '0' :: hexDigit (n / 16) :: hexDigit (n % 16) :: rest) =
      (readUnits rest).map fun r => (.char (Char.ofNat n) :: r.1, r.2) := by
  rw [readUnits, hexNumber?_hexDigit n h]
  cases readUnits rest <;> simp [ofNat_of_lt h]

/-- A character is escaped by a letter or by its number, or stands for itself. -/
theorem escapeChar_cases (c : Char) :
    (∃ e, e ≠ 'u' ∧ escape? e = some c ∧ escapeChar c = ['\\', e]) ∨
    (c.toNat < 0x20 ∧ escapeChar c =
      ['\\', 'u', '0', '0', hexDigit (c.toNat / 16), hexDigit (c.toNat % 16)]) ∨
    (c ≠ '"' ∧ c ≠ '\\' ∧ ¬ c.toNat < 0x20 ∧ escapeChar c = [c]) := by
  unfold escapeChar
  split_ifs with hq hb hx hf hn hr ht hc
  · exact .inl ⟨'"', by decide, by rw [hq]; rfl, rfl⟩
  · exact .inl ⟨'\\', by decide, by rw [hb]; rfl, rfl⟩
  · exact .inl ⟨'b', by decide, hx ▸ rfl, rfl⟩
  · exact .inl ⟨'f', by decide, hf ▸ rfl, rfl⟩
  · exact .inl ⟨'n', by decide, hn ▸ rfl, rfl⟩
  · exact .inl ⟨'r', by decide, hr ▸ rfl, rfl⟩
  · exact .inl ⟨'t', by decide, ht ▸ rfl, rfl⟩
  · exact .inr (.inl ⟨hc, rfl⟩)
  · exact .inr (.inr ⟨hq, hb, hc, rfl⟩)

/-- An escaped character is read as that character. -/
theorem readUnits_escapeChar (c : Char) (rest : List Char) :
    readUnits (escapeChar c ++ rest) =
      (readUnits rest).map fun r => (.char c :: r.1, r.2) := by
  rcases escapeChar_cases c with ⟨e, hu, he, h⟩ | ⟨hc, h⟩ | ⟨hq, hb, hc, h⟩
  · rw [h]
    exact readUnits_escape hu he rest
  · have hread := readUnits_number hc rest
    rw [Char.ofNat_toNat] at hread
    rw [h]
    exact hread
  · rw [h]
    exact readUnits_self hq hb hc rest

/-- An escaped text is read as its characters. -/
theorem readUnits_flatMap_escapeChar (cs rest : List Char) :
    readUnits (cs.flatMap escapeChar ++ '"' :: rest) = some (cs.map .char, rest) := by
  induction cs with
  | nil => simp [readUnits]
  | cons c cs ih =>
    rw [List.flatMap_cons, List.append_assoc, readUnits_escapeChar, ih]
    rfl

/-- Characters that stand for themselves need no joining. -/
theorem joinUnits_map_char (cs : List Char) : joinUnits (cs.map .char) = some cs := by
  induction cs with
  | nil => rfl
  | cons c cs ih => simp [joinUnits, ih]

theorem quoted_append (text : String) (rest : List Char) :
    quoted text ++ rest = '"' :: (text.toList.flatMap escapeChar ++ '"' :: rest) := by
  simp [quoted]

/-- A text is read back from its literal. -/
theorem readText_quoted (text : String) (rest : List Char) :
    readText (text.toList.flatMap escapeChar ++ '"' :: rest) = some (some text, rest) := by
  rw [readText, readUnits_flatMap_escapeChar]
  simp [joinUnits_map_char]

/-! ## Numbers -/

/-- What can stand behind a number: no digit, and no point or exponent. -/
def EndsNumber (rest : List Char) : Prop :=
  ∀ c ∈ rest.head?, c.isDigit = false ∧ c ≠ '.' ∧ c ≠ 'e' ∧ c ≠ 'E'

/-- The digits of a number are taken up to where it ends. -/
theorem takeWhile_digits_append (n : Nat) {rest : List Char} (h : EndsNumber rest) :
    (Numeral.digits n ++ rest).takeWhile Char.isDigit = Numeral.digits n := by
  rw [List.takeWhile_append_of_pos fun c => Numeral.isDigit_of_mem_digits]
  cases rest with
  | nil => simp
  | cons c rest => simp [(h c rfl).1]

/-- What is left behind the digits of a number is what follows it. -/
theorem dropWhile_digits_append (n : Nat) {rest : List Char} (h : EndsNumber rest) :
    (Numeral.digits n ++ rest).dropWhile Char.isDigit = rest := by
  rw [List.dropWhile_append_of_pos fun c => Numeral.isDigit_of_mem_digits]
  cases rest with
  | nil => simp
  | cons c rest => simp [(h c rfl).1]

/-- Where a number ends, there is no fraction. -/
theorem readFraction_of_endsNumber {rest : List Char} (h : EndsNumber rest) :
    readFraction rest = some ([], rest) := by
  cases rest with
  | nil => rfl
  | cons c rest =>
    rw [readFraction]
    simp [(h c rfl).2.1]

/-- Where a number ends, there is no exponent. -/
theorem readExponent_of_endsNumber {rest : List Char} (h : EndsNumber rest) :
    readExponent rest = some ([], rest) := by
  cases rest with
  | nil => rfl
  | cons c rest => simp [readExponent, (h c rfl).2.2]

/-- A number is read back from its digits. -/
theorem readNumber_digits (n : Nat) {rest : List Char} (h : EndsNumber rest) :
    readNumber (Numeral.digits n ++ rest) = some (natural n, rest) := by
  obtain ⟨d, ds, hd⟩ := List.exists_cons_of_ne_nil (Numeral.digits_ne_nil n)
  have hdigit : d.isDigit = true := Numeral.isDigit_of_mem_digits (n := n) (by simp [hd])
  have hsign : ((Numeral.digits n ++ rest).head? == some '-') = false := by
    have hne : d ≠ '-' := by
      rintro rfl
      contradiction
    simp [hd, hne]
  have hzero : ¬ (Numeral.digits n = [] ∨
      (Numeral.digits n).head? = some '0' ∧ Numeral.digits n ≠ ['0']) := by
    rintro (hnil | ⟨hhead, hne⟩)
    · exact Numeral.digits_ne_nil n hnil
    · exact hne (Numeral.digits_of_head? hhead)
  unfold readNumber
  simp only [hsign, Bool.false_eq_true, if_false, takeWhile_digits_append n h,
    dropWhile_digits_append n h, if_neg hzero, readFraction_of_endsNumber h]
  simp [readExponent_of_endsNumber h, Numeral.decimalValue_digits]

end Json

end StructEdit
