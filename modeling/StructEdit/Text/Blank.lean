import StructEdit.Text.CharSet

/-!
# StructEdit.Text.Blank

White space and what is done with it: the property White_Space, and a text cut
free of it at both ends (`trim`). Main statements: `trim_blank_append` and
`trim_append_blank`, blank characters around a text do not show in its trimmed
form.
-/

namespace StructEdit.Text

/-- The code points with the property White_Space. -/
def blankRanges : Ranges :=
  [(0x9, 0xD), (0x20, 0x20), (0x85, 0x85), (0xA0, 0xA0), (0x1680, 0x1680), (0x2000, 0x200A),
   (0x2028, 0x2029), (0x202F, 0x202F), (0x205F, 0x205F), (0x3000, 0x3000)]

/-- A character with the property White_Space. -/
def isBlank (c : Char) : Bool := blankRanges.contains c

/-- The characters with the property White_Space. -/
def blankChars : CharSet where
  ranges := blankRanges

/-- A text without its leading and trailing blank characters. -/
def trim (cs : List Char) : List Char :=
  ((cs.dropWhile isBlank).reverse.dropWhile isBlank).reverse

theorem dropWhile_append_of_all {p : α → Bool} {xs : List α} (ys : List α)
    (h : ∀ x ∈ xs, p x = true) : (xs ++ ys).dropWhile p = ys.dropWhile p := by
  induction xs with
  | nil => rfl
  | cons x xs ih =>
    have hx : p x = true := h x (by simp)
    simp [hx, ih fun y hy => h y (by simp [hy])]

/-- Blank characters in front of a text are cut off. -/
theorem trim_blank_append {us : List Char} (cs : List Char) (h : ∀ u ∈ us, isBlank u = true) :
    trim (us ++ cs) = trim cs := by
  simp [trim, dropWhile_append_of_all cs h]

/-- Blank characters after a text are cut off. -/
theorem trim_append_blank {vs : List Char} (cs : List Char) (h : ∀ v ∈ vs, isBlank v = true) :
    trim (cs ++ vs) = trim cs := by
  have hv : ∀ v ∈ vs.reverse, isBlank v = true := fun v hm => h v (by simpa using hm)
  induction cs with
  | nil =>
    have hd : vs.dropWhile isBlank = [] := by
      simpa using dropWhile_append_of_all [] h
    simp [trim, hd]
  | cons c cs ih =>
    cases hc : isBlank c with
    | true => simpa [trim, hc] using ih
    | false =>
      simp only [trim, List.cons_append, List.dropWhile_cons, hc, Bool.false_eq_true, if_false]
      rw [← List.cons_append, List.reverse_append, dropWhile_append_of_all _ hv]

end StructEdit.Text
