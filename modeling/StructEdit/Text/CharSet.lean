import StructEdit.Text.Ranges

/-!
# StructEdit.Text.CharSet

Sets of characters, kept as ranges of code points in ascending order with a gap
behind each of them, so that a set is written in one way only. Main statements:
`contains_union`, `contains_complement`, `contains_inter`, `contains_diff` and
`contains_symmDiff`, what belongs to the sets that are made of others.
-/

namespace StructEdit.Text

/-! ## Ascending ranges -/

namespace Ranges

/-- The ranges start at `lo` or behind it, none of them is empty, and none starts
before an earlier one. -/
def Ascending (lo : Nat) : Ranges → Prop
  | [] => True
  | r :: rs => lo ≤ r.1 ∧ r.1 ≤ r.2 ∧ Ascending r.1 rs

/-- The ranges start at `lo` or behind it, none of them is empty, and there is a gap
between each of them and the next one. -/
def Spaced (lo : Nat) : Ranges → Prop
  | [] => True
  | r :: rs => lo ≤ r.1 ∧ r.1 ≤ r.2 ∧ Spaced (r.2 + 2) rs

instance decidableSpaced : (lo : Nat) → (rs : Ranges) → Decidable (Spaced lo rs)
  | _, [] => isTrue trivial
  | lo, r :: rs =>
    match decidableSpaced (r.2 + 2) rs with
    | isTrue h =>
      if hr : lo ≤ r.1 ∧ r.1 ≤ r.2 then isTrue ⟨hr.1, hr.2, h⟩
      else isFalse fun hs => hr ⟨hs.1, hs.2.1⟩
    | isFalse h => isFalse fun hs => h hs.2.2

theorem Ascending.mono {lo lo' : Nat} {rs : Ranges} (h : Ascending lo rs) (hl : lo' ≤ lo) :
    Ascending lo' rs := by
  cases rs with
  | nil => trivial
  | cons r rs => exact ⟨Nat.le_trans hl h.1, h.2⟩

theorem Spaced.mono {lo lo' : Nat} {rs : Ranges} (h : Spaced lo rs) (hl : lo' ≤ lo) :
    Spaced lo' rs := by
  cases rs with
  | nil => trivial
  | cons r rs => exact ⟨Nat.le_trans hl h.1, h.2⟩

theorem Spaced.ascending {lo : Nat} {rs : Ranges} (h : Spaced lo rs) : Ascending lo rs := by
  induction rs generalizing lo with
  | nil => trivial
  | cons r rs ih =>
    obtain ⟨hlo, hr, hs⟩ := h
    exact ⟨hlo, hr, (ih hs).mono (by omega)⟩

theorem Spaced.le_of_contains {lo : Nat} {rs : Ranges} {c : Char} (h : Spaced lo rs)
    (hc : rs.contains c = true) : lo ≤ c.toNat := by
  induction rs generalizing lo with
  | nil => simp at hc
  | cons r rs ih =>
    obtain ⟨hlo, hr, hs⟩ := h
    rcases contains_cons_iff.1 hc with hc | hc
    · omega
    · have := ih hs hc
      omega

/-- A range in front of the first one that does not start before it; `rest` goes on
from there. -/
def place (r : Nat × Nat) (rest : Ranges → Ranges) : Ranges → Ranges
  | [] => r :: rest []
  | s :: ss => if s.1 < r.1 then s :: place r rest ss else r :: rest (s :: ss)

/-- The ranges of two lists in ascending order. -/
def merge : Ranges → Ranges → Ranges
  | [], ss => ss
  | r :: rs, ss => place r (merge rs) ss

/-- Ascending ranges with those joined that overlap or touch, the first of them being
`cur`. -/
def joinFrom (cur : Nat × Nat) : Ranges → Ranges
  | [] => [cur]
  | s :: ss =>
    if s.1 ≤ cur.2 + 1 then joinFrom (cur.1, Nat.max cur.2 s.2) ss else cur :: joinFrom s ss

/-- Ascending ranges with those joined that overlap or touch. -/
def join : Ranges → Ranges
  | [] => []
  | r :: rs => joinFrom r rs

/-- The last code point. -/
def lastCodePoint : Nat := 0x10FFFF

/-- What the ranges leave free from `lo` on. -/
def gapsFrom (lo : Nat) : Ranges → Ranges
  | [] => if lo ≤ lastCodePoint then [(lo, lastCodePoint)] else []
  | r :: rs => if lo < r.1 then (lo, r.1 - 1) :: gapsFrom (r.2 + 1) rs else gapsFrom (r.2 + 1) rs

theorem ascending_place {lo : Nat} {r : Nat × Nat} {rest : Ranges → Ranges} {ss : Ranges}
    (hlo : lo ≤ r.1) (hr : r.1 ≤ r.2)
    (hrest : ∀ ts, Ascending r.1 ts → Ascending r.1 (rest ts)) (hs : Ascending lo ss) :
    Ascending lo (place r rest ss) := by
  induction ss generalizing lo with
  | nil => exact ⟨hlo, hr, hrest [] trivial⟩
  | cons s ss ih =>
    obtain ⟨hls, hss, hs⟩ := hs
    unfold place
    split
    · next h => exact ⟨hls, hss, ih (Nat.le_of_lt h) hs⟩
    · next h => exact ⟨hlo, hr, hrest _ ⟨Nat.le_of_not_lt h, hss, hs⟩⟩

theorem ascending_merge {lo : Nat} {rs ss : Ranges} (hr : Ascending lo rs) (hs : Ascending lo ss) :
    Ascending lo (merge rs ss) := by
  induction rs generalizing lo ss with
  | nil => exact hs
  | cons r rs ih => exact ascending_place hr.1 hr.2.1 (fun _ ht => ih hr.2.2 ht) hs

theorem contains_place {c : Char} {r : Nat × Nat} {rs ss : Ranges} {rest : Ranges → Ranges}
    (hrest : ∀ ts, (rest ts).contains c = (Ranges.contains rs c || Ranges.contains ts c)) :
    (place r rest ss).contains c = (Ranges.contains (r :: rs) c || Ranges.contains ss c) := by
  induction ss with
  | nil => simp [place, contains_cons r, hrest]
  | cons s ss ih =>
    unfold place
    split
    · rw [contains_cons s, contains_cons s, ih, Bool.or_left_comm]
    · rw [contains_cons r, contains_cons r, hrest, Bool.or_assoc]

theorem contains_merge (c : Char) (rs ss : Ranges) :
    (merge rs ss).contains c = (rs.contains c || ss.contains c) := by
  induction rs generalizing ss with
  | nil => simp [merge]
  | cons r rs ih => exact contains_place ih

theorem spaced_joinFrom {cur : Nat × Nat} {ss : Ranges} (hc : cur.1 ≤ cur.2)
    (hs : Ascending cur.1 ss) : Spaced cur.1 (joinFrom cur ss) := by
  induction ss generalizing cur with
  | nil => exact ⟨Nat.le_refl _, hc, trivial⟩
  | cons s ss ih =>
    obtain ⟨hcs, hss, hs⟩ := hs
    unfold joinFrom
    split
    · exact @ih (cur.1, Nat.max cur.2 s.2) (by grind) (hs.mono hcs)
    · exact ⟨Nat.le_refl _, hc, (ih hss hs).mono (by omega)⟩

theorem contains_joinFrom (c : Char) {cur : Nat × Nat} {ss : Ranges} (hc : cur.1 ≤ cur.2)
    (hs : Ascending cur.1 ss) :
    (joinFrom cur ss).contains c = Ranges.contains (cur :: ss) c := by
  induction ss generalizing cur with
  | nil => rfl
  | cons s ss ih =>
    obtain ⟨hcs, hss, hs⟩ := hs
    unfold joinFrom
    split
    · have hm : Nat.max cur.2 s.2 = if cur.2 ≤ s.2 then s.2 else cur.2 := Nat.max_def ..
      rw [@ih (cur.1, Nat.max cur.2 s.2) (by grind) (hs.mono hcs), Bool.eq_iff_iff]
      simp only [contains_cons_iff, hm]
      grind
    · rw [contains_cons, contains_cons, ih hss hs]

theorem spaced_join {lo : Nat} {rs : Ranges} (h : Ascending lo rs) : Spaced lo (join rs) := by
  cases rs with
  | nil => trivial
  | cons r rs => exact (spaced_joinFrom h.2.1 h.2.2).mono h.1

theorem contains_join (c : Char) {lo : Nat} {rs : Ranges} (h : Ascending lo rs) :
    (join rs).contains c = rs.contains c := by
  cases rs with
  | nil => rfl
  | cons r rs => exact contains_joinFrom c h.2.1 h.2.2

theorem spaced_gapsFrom {lo : Nat} {rs : Ranges} (h : Spaced lo rs) :
    Spaced lo (gapsFrom lo rs) := by
  induction rs generalizing lo with
  | nil => unfold gapsFrom; split <;> simp_all [Spaced]
  | cons r rs ih =>
    obtain ⟨hlo, hr, hs⟩ := h
    have hg := ih (hs.mono (Nat.le_succ (r.2 + 1)))
    unfold gapsFrom
    split
    · exact ⟨Nat.le_refl _, by omega, hg.mono (by omega)⟩
    · exact hg.mono (by omega)

theorem contains_gapsFrom (c : Char) {lo : Nat} {rs : Ranges} (h : Spaced lo rs) :
    (gapsFrom lo rs).contains c = (decide (lo ≤ c.toNat) && !rs.contains c) := by
  induction rs generalizing lo with
  | nil =>
    have hc : c.toNat ≤ lastCodePoint := by
      have hv := c.valid
      simp only [UInt32.isValidChar, Nat.isValidChar] at hv
      unfold lastCodePoint Char.toNat
      omega
    unfold gapsFrom
    split <;> simp [contains_cons, hc]
    omega
  | cons r rs ih =>
    obtain ⟨hlo, hr, hs⟩ := h
    have hg := ih (hs.mono (Nat.le_succ (r.2 + 1)))
    have hb := hs.le_of_contains (c := c)
    rw [Bool.eq_iff_iff] at hg ⊢
    simp only [Bool.and_eq_true, decide_eq_true_eq, Bool.not_eq_true', ← Bool.not_eq_true,
      contains_cons_iff] at hg ⊢
    unfold gapsFrom
    split
    · rw [contains_cons_iff, hg]
      grind
    · rw [hg]
      grind

end Ranges

/-! ## Sets -/

/-- A set of characters. -/
structure CharSet where
  ranges : Ranges
  spaced : ranges.Spaced 0 := by decide
deriving DecidableEq

namespace CharSet

/-- Whether a character belongs to a set. -/
def contains (s : CharSet) (c : Char) : Bool := s.ranges.contains c

/-- The set without members. -/
def empty : CharSet where
  ranges := []

/-- The characters from a first to a last one. -/
def range (first last : Nat) : CharSet where
  ranges := if first ≤ last then [(first, last)] else []
  spaced := by split <;> simp_all [Ranges.Spaced]

/-- The set of one character. -/
def single (c : Char) : CharSet := range c.toNat c.toNat

/-- What belongs to one of two sets. -/
def union (s t : CharSet) : CharSet where
  ranges := (s.ranges.merge t.ranges).join
  spaced := Ranges.spaced_join (Ranges.ascending_merge s.spaced.ascending t.spaced.ascending)

/-- What does not belong to a set. -/
def complement (s : CharSet) : CharSet where
  ranges := s.ranges.gapsFrom 0
  spaced := Ranges.spaced_gapsFrom s.spaced

/-- What belongs to both of two sets: what is missing in neither of them. -/
def inter (s t : CharSet) : CharSet := (s.complement.union t.complement).complement

/-- What belongs to the first of two sets alone. -/
def diff (s t : CharSet) : CharSet := s.inter t.complement

/-- What belongs to just one of two sets. -/
def symmDiff (s t : CharSet) : CharSet := (s.diff t).union (t.diff s)

/-- What belongs to one of some sets. -/
def unionAll (sets : List CharSet) : CharSet := sets.foldr union empty

/-- What lies in one of some ranges. -/
def ofRanges (rs : Ranges) : CharSet := unionAll (rs.map fun r => range r.1 r.2)

/-- The only member of a set that has no other one. -/
def single? (s : CharSet) : Option Char :=
  match s.ranges with
  | [r] => if r.1 = r.2 then some (Char.ofNat r.1) else none
  | _ => none

@[simp]
theorem contains_empty (c : Char) : empty.contains c = false := rfl

@[simp]
theorem contains_range (first last : Nat) (c : Char) :
    (range first last).contains c = (first ≤ c.toNat && c.toNat ≤ last) := by
  unfold range contains
  split
  · simp [Ranges.contains_cons]
  · rw [Ranges.contains_nil, eq_comm]
    simp only [Bool.and_eq_false_iff, decide_eq_false_iff_not]
    omega

@[simp]
theorem contains_single (d c : Char) : (single d).contains c = (c == d) := by
  rw [single, contains_range, Bool.eq_iff_iff, beq_iff_eq, ← Char.toNat_inj]
  simp only [Bool.and_eq_true, decide_eq_true_eq]
  omega

@[simp]
theorem contains_union (s t : CharSet) (c : Char) :
    (s.union t).contains c = (s.contains c || t.contains c) := by
  unfold union contains
  rw [Ranges.contains_join c (Ranges.ascending_merge s.spaced.ascending t.spaced.ascending),
    Ranges.contains_merge]

@[simp]
theorem contains_complement (s : CharSet) (c : Char) :
    s.complement.contains c = !s.contains c := by
  simp [complement, contains, Ranges.contains_gapsFrom c s.spaced]

@[simp]
theorem contains_inter (s t : CharSet) (c : Char) :
    (s.inter t).contains c = (s.contains c && t.contains c) := by
  simp [inter]

@[simp]
theorem contains_diff (s t : CharSet) (c : Char) :
    (s.diff t).contains c = (s.contains c && !t.contains c) := by
  simp [diff]

@[simp]
theorem contains_symmDiff (s t : CharSet) (c : Char) :
    (s.symmDiff t).contains c = (s.contains c != t.contains c) := by
  simp only [symmDiff, contains_union, contains_diff]
  cases s.contains c <;> cases t.contains c <;> rfl

@[simp]
theorem contains_unionAll (sets : List CharSet) (c : Char) :
    (unionAll sets).contains c = sets.any (·.contains c) := by
  induction sets with
  | nil => rfl
  | cons s sets ih => simp [unionAll, ← ih]

@[simp]
theorem contains_ofRanges (rs : Ranges) (c : Char) : (ofRanges rs).contains c = rs.contains c := by
  simp [ofRanges, Ranges.contains, List.any_map, Function.comp_def]

end CharSet

end StructEdit.Text
