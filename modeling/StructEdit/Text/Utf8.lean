import StructEdit.Text.CharSet

/-!
# StructEdit.Text.Utf8

Characters as bytes, in the encoding UTF-8: how many bytes a code point takes, and
the sequences of byte ranges that write just the characters of a set.
-/

namespace StructEdit.Text.Utf8

/-- The number of bytes that a code point takes. -/
def length (n : Nat) : Nat :=
  if n < 0x80 then 1 else if n < 0x800 then 2 else if n < 0x10000 then 3 else 4

/-- The bytes of a text. -/
def bytes (cs : List Char) : List Nat :=
  cs.flatMap fun c => (String.utf8EncodeChar c).map UInt8.toNat

/-- Ranges of bytes that stand behind each other: any byte of the first one, any of
the second one and so on. -/
abbrev ByteRanges := List (Nat × Nat)

/-- The numbers from `lo` to `hi` by a first byte, which starts at `lead`, and a number
of further bytes with six bits each, which start at 0x80.

Where the first bytes of the ends agree, only the further ones vary. Else the numbers
under the first byte of either end are kept apart, unless they are all there, and
between them the further bytes are free. -/
def sequencesFrom (lead : Nat) : Nat → Nat → Nat → List ByteRanges
  | 0, lo, hi => [[(lead + lo, lead + hi)]]
  | more + 1, lo, hi =>
    let unit := 1 <<< (6 * (more + 1))
    let first := lo / unit
    let last := hi / unit
    let under (byte lo hi : Nat) : List ByteRanges :=
      (sequencesFrom 0x80 more lo hi).map ((lead + byte, lead + byte) :: ·)
    if first = last then under first (lo % unit) (hi % unit)
    else
      let fromStart := lo % unit = 0
      let toEnd := hi % unit = unit - 1
      let lowest := if fromStart then first else first + 1
      let highest := if toEnd then last + 1 else last
      (if fromStart then [] else under first (lo % unit) (unit - 1)) ++
      (if lowest < highest then
        [(lead + lowest, lead + highest - 1) :: List.replicate (more + 1) (0x80, 0xBF)]
      else []) ++
      (if toEnd then [] else under last 0 (hi % unit))

/-- Code points that take the same number of bytes. -/
structure Block where
  first : Nat
  last : Nat
  /-- The first byte that zero would have among them. -/
  lead : Nat
  /-- How many bytes follow the first one. -/
  more : Nat

/-- The blocks of all characters. Surrogates are left out, since they are none. -/
def blocks : List Block :=
  [⟨0, 0x7F, 0, 0⟩, ⟨0x80, 0x7FF, 0xC0, 1⟩, ⟨0x800, 0xD7FF, 0xE0, 2⟩, ⟨0xE000, 0xFFFF, 0xE0, 2⟩,
   ⟨0x10000, 0x10FFFF, 0xF0, 3⟩]

/-- The sequences of byte ranges for a range of code points. -/
def sequences (r : Nat × Nat) : List ByteRanges :=
  blocks.flatMap fun b =>
    let lo := Nat.max b.first r.1
    let hi := Nat.min b.last r.2
    if lo ≤ hi then sequencesFrom b.lead b.more lo hi else []

end StructEdit.Text.Utf8
