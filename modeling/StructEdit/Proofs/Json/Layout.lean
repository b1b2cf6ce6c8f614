import Mathlib.Data.List.TakeWhile
import StructEdit.Proofs.Json.Literals

/-!
# StructEdit.Proofs.Json.Layout

Values read back. What is written on one line and what is written over several lines
differ in blank space alone, so both are written by one function of the blank space that
is put between the parts (`Layout.chars`), and reading skips that space. Main statements:
`Json.parse?_compact` and `Json.parse?_pretty`.
-/

namespace StructEdit

namespace Json

/-! ## Plain values -/

mutual

/-- Whether a value holds no numerals but natural numbers of 64 bits, and only whole
strings. -/
def isPlain : Json → Bool
  | null | bool _ | string _ => true
  | natural n => n < UInt64.size
  | numeral _ | broken _ => false
  | array items => arePlain items
  | object members => arePlainMembers members

/-- Whether all of some items are plain. -/
def arePlain : List Json → Bool
  | [] => true
  | j :: js => j.isPlain && arePlain js

/-- Whether the values of all of some members are plain. -/
def arePlainMembers : List (String × Json) → Bool
  | [] => true
  | (_, j) :: ms => j.isPlain && arePlainMembers ms

end

/-! ## Layouts -/

/-- The blank space between the parts of a value. -/
structure Layout where
  /-- In front of what stands at a depth: an item, a member, or a closing bracket. -/
  gap : Nat → List Char
  /-- In front of the value of a member. -/
  space : List Char
  isSpace_gap : ∀ depth, ∀ c ∈ gap depth, isSpace c = true
  isSpace_space : ∀ c ∈ space, isSpace c = true

namespace Layout

/-- No blank space at all. -/
def compact : Layout where
  gap _ := []
  space := []
  isSpace_gap := by simp
  isSpace_space := by simp

/-- Every item and member on a line of its own. -/
def indented : Layout where
  gap := newline
  space := [' ']
  isSpace_gap depth c hc := by
    have : c = '\n' ∨ c = ' ' := by
      rcases List.mem_cons.1 hc with h | h
      · exact .inl h
      · exact .inr (List.eq_of_mem_replicate h)
    rcases this with rfl | rfl <;> rfl
  isSpace_space c hc := by
    rw [List.mem_singleton.1 hc]
    rfl

mutual

/-- A value with blank space between its parts. -/
def chars (l : Layout) (depth : Nat) : Json → List Char
  | null => "null".toList
  | bool true => "true".toList
  | bool false => "false".toList
  | natural n => Numeral.digits n
  | numeral n => n.chars
  | string s => quoted s
  | array [] => ['[', ']']
  | array (x :: xs) =>
    '[' :: (l.gap (depth + 1) ++ (l.chars (depth + 1) x ++ l.items depth xs))
  | object [] => ['\x7b', '\x7d']
  | object ((k, v) :: ms) =>
    '\x7b' :: (l.gap (depth + 1) ++
      (quoted k ++ ':' :: (l.space ++ (l.chars (depth + 1) v ++ l.members depth ms))))
  | broken s => s.toList

/-- The items behind the first one, with the closing bracket. -/
def items (l : Layout) (depth : Nat) : List Json → List Char
  | [] => l.gap depth ++ [']']
  | x :: xs => ',' :: (l.gap (depth + 1) ++ (l.chars (depth + 1) x ++ l.items depth xs))

/-- The members behind the first one, with the closing brace. -/
def members (l : Layout) (depth : Nat) : List (String × Json) → List Char
  | [] => l.gap depth ++ ['\x7d']
  | (k, v) :: ms =>
    ',' :: (l.gap (depth + 1) ++
      (quoted k ++ ':' :: (l.space ++ (l.chars (depth + 1) v ++ l.members depth ms))))

end

mutual

/-- The compact layout writes a value as it is written on one line. -/
theorem chars_compact (depth : Nat) (j : Json) : compact.chars depth j = j.compactChars := by
  match j with
  | null | bool true | bool false | natural _ | numeral _ | string _ | broken _ =>
    simp [chars, compactChars]
  | array [] | object [] => simp [chars, compactChars]
  | array (x :: xs) =>
    rw [chars, compactChars, chars_compact (depth + 1) x, items_compact depth xs]
    rfl
  | object ((k, v) :: ms) =>
    rw [chars, compactChars, chars_compact (depth + 1) v, members_compact depth ms]
    simp [compact]

theorem items_compact (depth : Nat) (xs : List Json) :
    compact.items depth xs = compactItems xs := by
  match xs with
  | [] => simp [items, compactItems, compact]
  | x :: xs =>
    rw [items, compactItems, chars_compact (depth + 1) x, items_compact depth xs]
    rfl

theorem members_compact (depth : Nat) (ms : List (String × Json)) :
    compact.members depth ms = compactMembers ms := by
  match ms with
  | [] => simp [members, compactMembers, compact]
  | (k, v) :: ms =>
    rw [members, compactMembers, chars_compact (depth + 1) v, members_compact depth ms]
    simp [compact]

end

mutual

/-- The indented layout writes a value as it is written over several lines. -/
theorem chars_indented (depth : Nat) (j : Json) : indented.chars depth j = j.prettyChars depth := by
  match j with
  | null | bool true | bool false | natural _ | numeral _ | string _ | broken _ =>
    simp [chars, prettyChars]
  | array [] | object [] => simp [chars, prettyChars]
  | array (x :: xs) =>
    rw [chars, prettyChars, chars_indented (depth + 1) x, items_indented depth xs]
    simp [indented]
  | object ((k, v) :: ms) =>
    rw [chars, prettyChars, chars_indented (depth + 1) v, members_indented depth ms]
    simp [indented]

theorem items_indented (depth : Nat) (xs : List Json) :
    indented.items depth xs = prettyItems depth xs := by
  match xs with
  | [] => simp [items, prettyItems, indented]
  | x :: xs =>
    rw [items, prettyItems, chars_indented (depth + 1) x, items_indented depth xs]
    simp [indented]

theorem members_indented (depth : Nat) (ms : List (String × Json)) :
    indented.members depth ms = prettyMembers depth ms := by
  match ms with
  | [] => simp [members, prettyMembers, indented]
  | (k, v) :: ms =>
    rw [members, prettyMembers, chars_indented (depth + 1) v, members_indented depth ms]
    simp [indented]

end

end Layout

/-! ## Skipping blank space -/

/-- Space in front is skipped. -/
theorem skipSpace_append {blank : List Char} (h : ∀ c ∈ blank, isSpace c = true)
    (cs : List Char) : skipSpace (blank ++ cs) = skipSpace cs := by
  rw [skipSpace, List.dropWhile_append_of_pos h, skipSpace]

@[simp]
theorem skipSpace_cons {c : Char} (h : isSpace c = false) (cs : List Char) :
    skipSpace (c :: cs) = c :: cs := by
  simp [skipSpace, h]

/-- Space in front of a value does not count. -/
theorem readValue_append {blank : List Char} (h : ∀ c ∈ blank, isSpace c = true) (n : Nat)
    (cs : List Char) : readValue n (blank ++ cs) = readValue n cs := by
  cases n <;> simp only [readValue, skipSpace_append h]

theorem readItems_append {blank : List Char} (h : ∀ c ∈ blank, isSpace c = true) (n : Nat)
    (cs : List Char) : readItems n (blank ++ cs) = readItems n cs := by
  cases n <;> simp only [readItems, skipSpace_append h]

theorem readMember_append {blank : List Char} (h : ∀ c ∈ blank, isSpace c = true) (n : Nat)
    (cs : List Char) : readMember n (blank ++ cs) = readMember n cs := by
  cases n <;> simp only [readMember, skipSpace_append h]

theorem readMembers_append {blank : List Char} (h : ∀ c ∈ blank, isSpace c = true) (n : Nat)
    (cs : List Char) : readMembers n (blank ++ cs) = readMembers n cs := by
  cases n <;> simp only [readMembers, skipSpace_append h]

/-- A number that ends in front of something ends in front of space before it. -/
theorem endsNumber_append {blank cs : List Char} (h : ∀ c ∈ blank, isSpace c = true)
    (hcs : EndsNumber cs) : EndsNumber (blank ++ cs) := by
  cases blank with
  | nil => exact hcs
  | cons b blank =>
    have hb : b = ' ' ∨ b = '\t' ∨ b = '\n' ∨ b = '\r' := by
      simpa [isSpace, or_assoc] using h b (by simp)
    intro c hc
    obtain rfl : b = c := by simpa using hc
    rcases hb with rfl | rfl | rfl | rfl <;> decide

/-! ## One step of reading -/

variable {n : Nat} {cs rest rest' : List Char}

/-- A quoted text is read as the string that it writes. -/
theorem readValue_quoted (n : Nat) (s : String) (rest : List Char) :
    readValue (n + 1) (quoted s ++ rest) = some (string s, rest) := by
  rw [quoted_append, readValue, skipSpace_cons rfl]
  simp [readText_quoted]

/-- No digit is space. -/
theorem isSpace_of_isDigit {c : Char} (h : c.isDigit = true) : isSpace c = false := by
  rw [Bool.eq_false_iff]
  intro hc
  have : c = ' ' ∨ c = '\t' ∨ c = '\n' ∨ c = '\r' := by
    simpa [isSpace, or_assoc] using hc
  rcases this with rfl | rfl | rfl | rfl <;> contradiction

/-- The digits of a number are read as the number, if it ends where they end. -/
theorem readValue_digits (n k : Nat) (h : EndsNumber rest) :
    readValue (n + 1) (Numeral.digits k ++ rest) = some (natural k, rest) := by
  have hread := readNumber_digits k h
  obtain ⟨d, ds, hd⟩ := List.exists_cons_of_ne_nil (Numeral.digits_ne_nil k)
  have hdigit : d.isDigit = true := Numeral.isDigit_of_mem_digits (n := k) (by simp [hd])
  rw [hd, List.cons_append] at hread ⊢
  rw [readValue, skipSpace_cons (isSpace_of_isDigit hdigit)]
  have hquote : d ≠ '"' := by rintro rfl; contradiction
  have hbracket : d ≠ '[' := by rintro rfl; contradiction
  have hbrace : d ≠ '\x7b' := by rintro rfl; contradiction
  simp [hquote, hbracket, hbrace, hdigit, hread]

/-- The space in front of the first item of an array is skipped twice. -/
theorem readValue_skipSpace (n : Nat) (cs : List Char) :
    readValue n (skipSpace cs) = readValue n cs := by
  have hblank : ∀ c ∈ cs.takeWhile isSpace, isSpace c = true := fun _ => List.mem_takeWhile_imp
  have h := readValue_append hblank n (skipSpace cs)
  rwa [skipSpace, List.takeWhile_append_dropWhile, eq_comm] at h

/-- Space in front of a member does not count. -/
theorem readMember_skipSpace (n : Nat) (cs : List Char) :
    readMember n (skipSpace cs) = readMember n cs := by
  have hblank : ∀ c ∈ cs.takeWhile isSpace, isSpace c = true := fun _ => List.mem_takeWhile_imp
  have h := readMember_append hblank n (skipSpace cs)
  rwa [skipSpace, List.takeWhile_append_dropWhile, eq_comm] at h

/-- An array is read from its first item and the items behind it. -/
theorem readValue_array {x : Json} {xs : List Json} (hcs : ∀ rest, skipSpace cs ≠ ']' :: rest)
    (hx : readValue n cs = some (x, rest)) (hxs : readItems n rest = some (xs, rest')) :
    readValue (n + 1) ('[' :: cs) = some (array (x :: xs), rest') := by
  rw [readValue, skipSpace_cons rfl]
  simp [readValue_skipSpace, hx, hxs]

/-- An object is read from its first member and the members behind it, if all of them have names.
-/
theorem readValue_object {m : Option String × Json} {ms : List (Option String × Json)}
    {members : List (String × Json)} (hcs : ∀ rest, skipSpace cs ≠ '\x7d' :: rest)
    (hm : readMember n cs = some (m, rest)) (hms : readMembers n rest = some (ms, rest'))
    (hnames : named? (m :: ms) = some members) :
    readValue (n + 1) ('\x7b' :: cs) = some (object members, rest') := by
  rw [readValue, skipSpace_cons rfl]
  simp [readMember_skipSpace, hm, hms, hnames]

/-- Another item is read from behind a comma. -/
theorem readItems_cons {x : Json} {xs : List Json} (hx : readValue n cs = some (x, rest))
    (hxs : readItems n rest = some (xs, rest')) :
    readItems (n + 1) (',' :: cs) = some (x :: xs, rest') := by
  rw [readItems, skipSpace_cons rfl]
  simp [hx, hxs]

/-- A member is read from its quoted name and its value behind a colon. -/
theorem readMember_quoted {v : Json} (k : String) (hv : readValue n cs = some (v, rest)) :
    readMember (n + 1) (quoted k ++ ':' :: cs) = some ((some k, v), rest) := by
  rw [quoted_append, readMember, skipSpace_cons rfl]
  simp only [readText_quoted, Option.bind_eq_bind, Option.bind_some]
  rw [skipSpace_cons rfl]
  simp [hv]

/-- Another member is read from behind a comma. -/
theorem readMembers_cons {m : Option String × Json} {ms : List (Option String × Json)}
    (hm : readMember n cs = some (m, rest)) (hms : readMembers n rest = some (ms, rest')) :
    readMembers (n + 1) (',' :: cs) = some (m :: ms, rest') := by
  rw [readMembers, skipSpace_cons rfl]
  simp [hm, hms]

/-- Members that all have names are those with the names. -/
theorem named?_map_some (ms : List (String × Json)) :
    named? (ms.map fun m => (some m.1, m.2)) = some ms := by
  induction ms with
  | nil => rfl
  | cons m ms ih =>
    rw [named?] at ih
    simp [named?, ih]

/-! ## Reading back -/

namespace Layout

/-- A value starts with a character that is neither blank nor a closing bracket. -/
theorem chars_ne_bracket (l : Layout) (depth : Nat) {j : Json} (h : j.isPlain = true)
    (cs rest : List Char) : skipSpace (l.chars depth j ++ cs) ≠ ']' :: rest := by
  match j with
  | null | bool true | bool false => simp [chars, skipSpace, isSpace]
  | string s => simp [chars, quoted, skipSpace, isSpace]
  | array [] | array (_ :: _) => simp [chars, skipSpace, isSpace]
  | object [] | object (_ :: _) => simp [chars, skipSpace, isSpace]
  | natural n =>
    obtain ⟨d, ds, hd⟩ := List.exists_cons_of_ne_nil (Numeral.digits_ne_nil n)
    have hdigit : d.isDigit = true := Numeral.isDigit_of_mem_digits (n := n) (by simp [hd])
    rw [chars, hd, List.cons_append, skipSpace_cons (isSpace_of_isDigit hdigit)]
    rintro heq
    rw [(List.cons.inj heq).1] at hdigit
    contradiction

/-- What follows an item ends a number: a comma or a bracket, or space in front of it. -/
theorem endsNumber_items (l : Layout) (depth : Nat) (xs : List Json) (rest : List Char) :
    EndsNumber (l.items depth xs ++ rest) := by
  cases xs with
  | nil =>
    rw [items, List.append_assoc]
    exact endsNumber_append (l.isSpace_gap depth) (by simp [EndsNumber])
  | cons x xs => simp [items, EndsNumber]

/-- What follows a member ends a number, too. -/
theorem endsNumber_members (l : Layout) (depth : Nat) (ms : List (String × Json))
    (rest : List Char) : EndsNumber (l.members depth ms ++ rest) := by
  cases ms with
  | nil =>
    rw [members, List.append_assoc]
    exact endsNumber_append (l.isSpace_gap depth) (by simp [EndsNumber])
  | cons m ms => simp [members, EndsNumber]

/-- A member is read in any layout. -/
theorem readMember_member {v : Json} (l : Layout) (depth : Nat) (k : String)
    (hv : readValue n cs = some (v, rest)) :
    readMember (n + 1) (l.gap depth ++ (quoted k ++ ':' :: (l.space ++ cs))) =
      some ((some k, v), rest) := by
  rw [readMember_append (l.isSpace_gap depth)]
  apply readMember_quoted k
  rw [readValue_append l.isSpace_space]
  exact hv

/-- Every value takes a character at least, which pays for the step that reads it. -/
theorem one_le_length_chars (l : Layout) (depth : Nat) {j : Json} (h : j.isPlain = true) :
    1 ≤ (l.chars depth j).length := by
  have hne := chars_ne_bracket l depth h [']'] []
  have hbracket : skipSpace [']'] = [']'] := rfl
  cases hchars : l.chars depth j with
  | nil => simp [hchars, hbracket] at hne
  | cons c cs => simp

mutual

/-- A plain value is read back from what is written of it. Each step of reading takes a
character, so that there are enough steps. -/
theorem readValue_chars (l : Layout) (depth : Nat) (j : Json) (hj : j.isPlain = true) (n : Nat)
    (hn : (l.chars depth j).length ≤ n) (rest : List Char) (hrest : EndsNumber rest) :
    readValue n (l.chars depth j ++ rest) = some (j, rest) := by
  -- something is written of every value, so there is a first step
  obtain ⟨n, rfl⟩ := Nat.exists_eq_add_of_le' ((one_le_length_chars l depth hj).trans hn)
  match j with
  | null | bool true | bool false => rfl
  | natural k => exact readValue_digits n k hrest
  | string s => exact readValue_quoted n s rest
  | array [] | object [] => simp [chars, readValue, skipSpace, isSpace]
  | array (x :: xs) =>
    rw [chars, List.length_cons, List.length_append, List.length_append] at hn
    rw [isPlain, arePlain, Bool.and_eq_true] at hj
    have hx := readValue_chars l (depth + 1) x hj.1 n (by omega) (l.items depth xs ++ rest)
      (endsNumber_items l depth xs rest)
    have hxs := readItems_items l depth xs hj.2 n (by omega) rest
    rw [chars, List.cons_append, List.append_assoc, List.append_assoc]
    apply readValue_array ?_ ((readValue_append (l.isSpace_gap _) n _).trans hx) hxs
    rw [skipSpace_append (l.isSpace_gap _)]
    exact chars_ne_bracket l _ hj.1 _
  | object ((k, v) :: ms) =>
    simp only [chars, List.length_cons, List.length_append] at hn
    rw [isPlain, arePlainMembers, Bool.and_eq_true] at hj
    obtain ⟨n, rfl⟩ : ∃ m, n = m + 1 := ⟨n - 1, by omega⟩
    have hv := readValue_chars l (depth + 1) v hj.1 n (by omega) (l.members depth ms ++ rest)
      (endsNumber_members l depth ms rest)
    have hms := readMembers_members l depth ms hj.2 (n + 1) (by omega) rest
    simp only [chars, List.cons_append, List.append_assoc]
    apply readValue_object ?_ (readMember_member l _ k hv) hms (named?_map_some ((k, v) :: ms))
    rw [skipSpace_append (l.isSpace_gap _), quoted_append, skipSpace_cons rfl]
    simp

/-- Items are read back from what is written of them. -/
theorem readItems_items (l : Layout) (depth : Nat) (xs : List Json) (hxs : arePlain xs = true)
    (n : Nat) (hn : (l.items depth xs).length ≤ n) (rest : List Char) :
    readItems n (l.items depth xs ++ rest) = some (xs, rest) := by
  match xs with
  | [] =>
    rw [items, List.length_append] at hn
    obtain ⟨n, rfl⟩ : ∃ m, n = m + 1 := ⟨n - 1, by simp at hn; omega⟩
    rw [items, List.append_assoc, readItems_append (l.isSpace_gap _)]
    simp [readItems, skipSpace, isSpace]
  | x :: xs =>
    simp only [items, List.length_cons, List.length_append] at hn
    obtain ⟨n, rfl⟩ : ∃ m, n = m + 1 := ⟨n - 1, by omega⟩
    rw [arePlain, Bool.and_eq_true] at hxs
    have hx := readValue_chars l (depth + 1) x hxs.1 n (by omega) (l.items depth xs ++ rest)
      (endsNumber_items l depth xs rest)
    have hrest := readItems_items l depth xs hxs.2 n (by omega) rest
    simp only [items, List.cons_append, List.append_assoc]
    exact readItems_cons ((readValue_append (l.isSpace_gap _) n _).trans hx) hrest

/-- Members are read back from what is written of them. -/
theorem readMembers_members (l : Layout) (depth : Nat) (ms : List (String × Json))
    (hms : arePlainMembers ms = true) (n : Nat) (hn : (l.members depth ms).length ≤ n)
    (rest : List Char) :
    readMembers n (l.members depth ms ++ rest) =
      some (ms.map fun m => (some m.1, m.2), rest) := by
  match ms with
  | [] =>
    rw [members, List.length_append] at hn
    obtain ⟨n, rfl⟩ : ∃ m, n = m + 1 := ⟨n - 1, by simp at hn; omega⟩
    rw [members, List.append_assoc, readMembers_append (l.isSpace_gap _)]
    simp [readMembers, skipSpace, isSpace]
  | (k, v) :: ms =>
    simp only [members, List.length_cons, List.length_append] at hn
    obtain ⟨n, rfl⟩ : ∃ m, n = m + 1 + 1 := ⟨n - 2, by omega⟩
    rw [arePlainMembers, Bool.and_eq_true] at hms
    have hv := readValue_chars l (depth + 1) v hms.1 n (by omega) (l.members depth ms ++ rest)
      (endsNumber_members l depth ms rest)
    have hrest := readMembers_members l depth ms hms.2 (n + 1) (by omega) rest
    simp only [members, List.cons_append, List.append_assoc]
    exact readMembers_cons (readMember_member l _ k hv) hrest

end

/-- The text of a plain value in any layout is read as that value. -/
theorem parse?_chars (l : Layout) (depth : Nat) {j : Json} (h : j.isPlain = true) :
    parse? (String.ofList (l.chars depth j)) = some j := by
  have hread := readValue_chars l depth j h (2 * (l.chars depth j).length + 1) (by omega) []
    (by simp [EndsNumber])
  rw [List.append_nil] at hread
  rw [parse?, String.toList_ofList]
  dsimp only
  rw [hread]
  rfl

end Layout

/-- A plain value is read back from its text on one line. -/
theorem parse?_compact {j : Json} (h : j.isPlain = true) : parse? j.compact = some j := by
  rw [compact, ← Layout.chars_compact 0 j]
  exact Layout.parse?_chars Layout.compact 0 h

/-- A plain value is read back from its text over several lines. -/
theorem parse?_pretty {j : Json} (h : j.isPlain = true) : parse? j.pretty = some j := by
  rw [pretty, ← Layout.chars_indented 0 j]
  exact Layout.parse?_chars Layout.indented 0 h

end Json

end StructEdit
