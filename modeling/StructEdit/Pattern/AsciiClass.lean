import StructEdit.Named
import StructEdit.Text.CharSet

/-!
# StructEdit.Pattern.AsciiClass

The classes of ASCII characters that have a name, and what belongs to them.
-/

namespace StructEdit

open Text (Ranges CharSet)

/-- The classes of ASCII characters that have a name. -/
inductive AsciiClass where
  | alnum
  | alpha
  | ascii
  | blank
  | cntrl
  | digit
  | graph
  | lower
  | print
  | punct
  | space
  | upper
  | word
  | xdigit
deriving DecidableEq

instance : Named AsciiClass where
  all := [.alnum, .alpha, .ascii, .blank, .cntrl, .digit, .graph, .lower, .print, .punct, .space,
    .upper, .word, .xdigit]
  name
    | .alnum => "alnum"
    | .alpha => "alpha"
    | .ascii => "ascii"
    | .blank => "blank"
    | .cntrl => "cntrl"
    | .digit => "digit"
    | .graph => "graph"
    | .lower => "lower"
    | .print => "print"
    | .punct => "punct"
    | .space => "space"
    | .upper => "upper"
    | .word => "word"
    | .xdigit => "xdigit"
  mem_all a := by cases a <;> decide
  find_name := by decide +kernel

namespace AsciiClass

/-- The code points of a named class. -/
def ranges : AsciiClass → Ranges
  | alnum => [(0x30, 0x39), (0x41, 0x5A), (0x61, 0x7A)]
  | alpha => [(0x41, 0x5A), (0x61, 0x7A)]
  | ascii => [(0, 0x7F)]
  | blank => [(0x9, 0x9), (0x20, 0x20)]
  | cntrl => [(0, 0x1F), (0x7F, 0x7F)]
  | digit => [(0x30, 0x39)]
  | graph => [(0x21, 0x7E)]
  | lower => [(0x61, 0x7A)]
  | print => [(0x20, 0x7E)]
  | punct => [(0x21, 0x2F), (0x3A, 0x40), (0x5B, 0x60), (0x7B, 0x7E)]
  | space => [(0x9, 0xD), (0x20, 0x20)]
  | upper => [(0x41, 0x5A)]
  | word => [(0x30, 0x39), (0x41, 0x5A), (0x5F, 0x5F), (0x61, 0x7A)]
  | xdigit => [(0x30, 0x39), (0x41, 0x46), (0x61, 0x66)]

/-- The members of a named class. -/
def set (a : AsciiClass) : CharSet where
  ranges := a.ranges
  spaced := by cases a <;> decide

end AsciiClass

end StructEdit
