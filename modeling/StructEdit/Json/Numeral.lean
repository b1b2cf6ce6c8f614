/-!
# StructEdit.Json.Numeral

Numerals as JSON writes them, and which of them lie in the range of floating-point
numbers (`Numeral.inRange`). A numeral is read as a significand, for which as many
digits are taken as fit into 64 bits, and a power of ten; both are rounded to 53 bits
and multiplied.
-/

namespace StructEdit

/-- A numeral as it is written. -/
structure Numeral where
  negative : Bool := false
  /-- The digits in front of the point. -/
  whole : List Char
  /-- The digits behind the point, if there is one. -/
  fraction : List Char := []
  /-- The letter `e`, a sign, which may be missing, and digits, or nothing. -/
  exponent : List Char := []
deriving DecidableEq

namespace Numeral

/-- The characters of a numeral. -/
def chars (n : Numeral) : List Char :=
  (if n.negative then ['-'] else []) ++ n.whole ++
    (if n.fraction = [] then [] else '.' :: n.fraction) ++ n.exponent

/-- A natural number in decimal digits. -/
def digits (n : Nat) : List Char :=
  if n < 10 then [Char.ofNat (n + 48)] else digits (n / 10) ++ [Char.ofNat (n % 10 + 48)]

/-- The numeral of a natural number. -/
def ofNat (n : Nat) : Numeral where
  whole := digits n

/-- The number written by decimal digits. -/
def decimalValue (digits : List Char) : Nat :=
  digits.foldl (fun n d => 10 * n + (d.toNat - '0'.toNat)) 0

/-- A number with digits put behind it for as long as it fits into 64 bits, and the digits
that are left. -/
def takeDigits (n : Nat) : List Char → Nat × List Char
  | [] => (n, [])
  | d :: ds =>
    let longer := 10 * n + (d.toNat - '0'.toNat)
    if longer < UInt64.size then takeDigits longer ds else (n, d :: ds)

/-- The power of ten that the exponent says. -/
def exponentValue : List Char → Int
  | _ :: '-' :: ds => -(decimalValue ds : Int)
  | _ :: '+' :: ds => decimalValue ds
  | _ :: ds => decimalValue ds
  | [] => 0

/-- The significand and the power of ten. A digit in front of the point that finds no
place still counts for the power, one behind the point only if it finds a place. -/
def scaled (n : Numeral) : Nat × Int :=
  let (start, left) := takeDigits 0 n.whole
  let (significand, unread) := takeDigits start n.fraction
  (significand, exponentValue n.exponent + left.length - (n.fraction.length - unread.length : Nat))

/-- A number rounded to 53 binary digits; a half goes to the even neighbour. -/
def rounded (n : Nat) : Nat :=
  let shift := n.log2 - 52
  if shift = 0 then n
  else
    let kept := n >>> shift
    let lost := n % (1 <<< shift)
    let half := 1 <<< (shift - 1)
    (if half < lost ∨ (lost = half ∧ kept % 2 = 1) then kept + 1 else kept) <<< shift

/-- The largest power of ten that is not too large by itself. -/
def largestPower : Nat := 308

/-- The least number that is rounded up to infinity. -/
def infinity : Nat := 1 <<< 1024 - 1 <<< 970

/-- Whether a numeral is not rounded to infinity. -/
def inRange (n : Numeral) : Bool :=
  let (significand, power) := n.scaled
  significand = 0 || power < 0 ||
    (power ≤ largestPower && rounded significand * rounded (Nat.pow 10 power.toNat) < infinity)

end Numeral

end StructEdit
