/-!
# StructEdit.Proofs.Text.Letters

The letters of ASCII in either case. Main statements: `toLower_eq_iff` and
`toLower_eq_iff_of_isLower`, on the characters that have a letter for their lower case.
-/

namespace StructEdit

/-- The capital letters are 32 places before the small ones. -/
theorem toNat_toLower (c : Char) :
    c.toLower.toNat = if 65 ≤ c.toNat ∧ c.toNat ≤ 90 then c.toNat + 32 else c.toNat := by
  have hiff : c.val ≥ 'A'.val ∧ c.val ≤ 'Z'.val ↔ 65 ≤ c.toNat ∧ c.toNat ≤ 90 := .rfl
  unfold Char.toLower
  split
  · next h =>
    have hupper := hiff.1 h
    have hsum : (c.val + ('a'.val - 'A'.val)).toNat = c.toNat + 32 := by
      rw [UInt32.toNat_add]
      change (c.toNat + 32) % 2 ^ 32 = c.toNat + 32
      omega
    rw [if_pos hupper]
    exact hsum
  · next h => rw [if_neg fun hupper => h (hiff.2 hupper)]

/-- The characters that a letter is the lower case of are the letter in either case. -/
theorem toLower_eq_iff {c upper lower : Char} (hu : upper.isUpper = true)
    (hl : upper.toLower = lower) : c.toLower = lower ↔ c = lower ∨ c = upper := by
  have hrange : 65 ≤ upper.toNat ∧ upper.toNat ≤ 90 := of_decide_eq_true hu
  subst hl
  simp only [← Char.toNat_inj, toNat_toLower]
  grind

/-- The small letters are 32 places behind the capital ones. -/
theorem toNat_toUpper (c : Char) :
    c.toUpper.toNat = if 97 ≤ c.toNat ∧ c.toNat ≤ 122 then c.toNat - 32 else c.toNat := by
  have hiff : c.val ≥ 'a'.val ∧ c.val ≤ 'z'.val ↔ 97 ≤ c.toNat ∧ c.toNat ≤ 122 := .rfl
  unfold Char.toUpper
  split
  · next h =>
    have hlower := hiff.1 h
    have hsum : (c.val + ('A'.val - 'a'.val)).toNat = c.toNat - 32 := by
      rw [UInt32.toNat_add]
      change (c.toNat + 4294967264) % 2 ^ 32 = c.toNat - 32
      omega
    rw [if_pos hlower]
    exact hsum
  · next h => rw [if_neg fun hlower => h (hiff.2 hlower)]

/-- The small letters by their numbers. -/
theorem isLower_iff {c : Char} : c.isLower = true ↔ 97 ≤ c.toNat ∧ c.toNat ≤ 122 := by
  have hiff : c.isLower = true ↔ (decide (c.val ≥ 'a'.val) && decide (c.val ≤ 'z'.val)) = true :=
    .rfl
  rw [hiff, Bool.and_eq_true, decide_eq_true_iff, decide_eq_true_iff]
  rfl

/-- The characters that a small letter is the lower case of are the letter and its capital. -/
theorem toLower_eq_iff_of_isLower {c l : Char} (h : l.isLower = true) :
    c.toLower = l ↔ c = l ∨ c = l.toUpper := by
  have hrange := isLower_iff.1 h
  have hnat : l.toUpper.toNat = l.toNat - 32 := by rw [toNat_toUpper, if_pos hrange]
  have hcapital : 65 ≤ l.toUpper.toNat ∧ l.toUpper.toNat ≤ 90 := by omega
  have hlower : l.toUpper.toLower = l := by
    rw [← Char.toNat_inj, toNat_toLower, if_pos hcapital, hnat]
    omega
  exact toLower_eq_iff (decide_eq_true hcapital) hlower

end StructEdit
