import Std.Data.HashSet
import StructEdit.Pattern

/-!
# StructEdit.Pattern.Size

The size of a pattern: the bytes that the machine takes which looks for it
(`Pattern.programSize`). There are two machines, one that reads a text forward and one
that reads it backward. The counted repetitions of a pattern are all written out in it,
so that short patterns can have huge machines; their size is computed, no machine is
built.

A machine is a graph of states that read the bytes of a text. A state takes 32 bytes, a
range of bytes that a state tells from other ranges 8, and a way out of a state at which
the machine has a choice 4.
-/

namespace StructEdit.Pattern

open Text (CharSet)

/-! ## Weights -/

/-- The bytes of a state. -/
def stateSize : Nat := 32

/-- The bytes of a range of bytes in a state. -/
def rangeSize : Nat := 8

/-- The bytes of a way out of a choice. -/
def wayOutSize : Nat := 4

/-- The sum of some sizes. -/
def total (sizes : List Nat) : Nat :=
  sizes.foldr (fun n sum => n + sum) 0

/-- The direction in which a machine reads. -/
inductive Direction where
  | forward
  | backward
deriving DecidableEq

/-- The part of a machine that a pattern takes. -/
structure Extent where
  /-- The bytes of the states, with all ways out but those that leave the part. -/
  size : Nat
  /-- Whether the part ends at a choice, so that what follows it is one more way out of
  that. -/
  atChoice : Bool := false

namespace Extent

/-- The bytes of the way out at the end of a part. -/
def link (e : Extent) : Nat := if e.atChoice then wayOutSize else 0

/-- A number of states without any choice. -/
def states (n : Nat) : Extent where
  size := n * stateSize

/-- One part with another behind it. -/
def andThen (e f : Extent) : Extent where
  size := e.size + e.link + f.size
  atChoice := f.atChoice

/-- Parts behind each other; without a part there still is one state. -/
def inRow : List Extent → Extent
  | [] => states 1
  | [e] => e
  | e :: es => e.andThen (inRow es)

/-- A choice between parts, and the state at which they come together. -/
def choice (es : List Extent) : Extent where
  size := 2 * stateSize + es.foldr (fun e n => e.size + e.link + wayOutSize + n) 0

/-- A part with a state for its start and one for its end, which remember the places. -/
def remembered (e : Extent) : Extent where
  size := 2 * stateSize + e.size + e.link

/-- A part a fixed number of times. -/
def exactly (e : Extent) : Nat → Extent
  | 0 => states 1
  | n + 1 => { e with size := (n + 1) * e.size + n * e.link }

/-- A part that may be left out. -/
def optionally (e : Extent) : Extent where
  size := 2 * stateSize + e.size + e.link + 2 * wayOutSize

/-- A part at least `min` times. One that may match nothing has states of its own for
the case that it is left out, since it must not be gone through in a circle for
nothing. -/
def atLeast (e : Extent) (takes : Bool) : Nat → Extent
  | 0 =>
    if takes then
      { size := stateSize + e.size + e.link + wayOutSize, atChoice := true }
    else { size := 3 * stateSize + e.size + e.link + 4 * wayOutSize }
  | 1 => { size := e.size + e.link + stateSize + wayOutSize, atChoice := true }
  | n + 2 =>
    let last : Extent := { size := e.size + e.link + stateSize + wayOutSize, atChoice := true }
    (e.exactly (n + 1)).andThen last

/-- A part from `min` to `max` times: first as often as it has to be there, then one
choice for each time that it may be. -/
def between (e : Extent) (min max : Nat) : Extent where
  size :=
    let fixed := e.exactly min
    fixed.size + fixed.link + stateSize +
      (max - min) * (stateSize + e.size + e.link + 2 * wayOutSize)

/-- A part repeated within bounds. -/
def times (e : Extent) (takes : Bool) (min : Nat) : Option Nat → Extent
  | none => e.atLeast takes min
  | some max =>
    if min = 0 ∧ max = 1 then e.optionally
    else if min = max then e.exactly min
    else e.between min max

end Extent

/-! ## Sets of characters -/

/-- Sequences by their first range: for each of these what follows it. -/
def branchesOf (seqs : List Text.Utf8.ByteRanges) : List (List Text.Utf8.ByteRanges) :=
  (seqs.splitBy fun s t => s.head? == t.head?).map fun group => group.map List.tail

/-- The sequences themselves and what is left of them behind each range with which some
of them start, to a depth of `n`; nothing is kept where no sequence goes on. -/
def stagesOf : Nat → List Text.Utf8.ByteRanges → List (List Text.Utf8.ByteRanges)
  | 0, _ => []
  | n + 1, seqs =>
    if seqs.all List.isEmpty then [] else seqs :: (branchesOf seqs).flatMap (stagesOf n)

/-- The number of bytes that the longest character takes. -/
def longestChar : Nat := 4

/-- The states that read a character of a set. A set of ASCII characters takes one
state. The states for others read one byte each: forward, they are one for all cases in
which the same may follow; backward, they are one for all cases in which the same was
read. -/
def extentOfSet (direction : Direction) (s : CharSet) : Extent :=
  if s.ranges.all fun r => r.2 < 0x80 then
    { size := 2 * stateSize + s.ranges.length * rangeSize }
  else
    let seqs := s.ranges.flatMap Text.Utf8.sequences
    let stages := stagesOf longestChar seqs
    match direction with
    | .forward =>
      let distinct := (Std.HashSet.ofList stages).toList
      { size := stateSize +
          total (distinct.map fun stage =>
            stateSize + (branchesOf stage).length * rangeSize) }
    | .backward =>
      let bytes := total (stages.map fun stage => (branchesOf stage).length)
      { size := 2 * stateSize + bytes * stateSize + seqs.length * wayOutSize }

/-! ## Words as alternatives -/

/-- The words up to each word that ends, as lists of their own, and those behind the last
one. Where no word goes on yet, a second one that ends is not counted. -/
def untilEnds (words : List (List Nat)) : List (List (List Nat)) :=
  let ended := words.takeWhile List.isEmpty
  let words := ended.take 1 ++ words.dropWhile List.isEmpty
  words.foldr (fun word lists =>
    match word, lists with
    | [], lists => [] :: lists
    | word, list :: lists => (word :: list) :: lists
    | word, [] => [[word]]) [[]]

/-- What follows each first byte of some words, in their order. -/
def byFirstByte (words : List (List Nat)) : List (List (List Nat)) :=
  (words.filterMap List.head?).eraseDups.map fun b =>
    words.filterMap fun word => if word.head? == some b then some word.tail else none

/-- The bytes of the states that tell words from each other, byte by byte, for words of at
most `n` bytes. Words that start alike share their states, unless a word between them
ends there: that one comes first. -/
def sizeOfWords : Nat → List (List Nat) → Nat
  | 0, _ => 0
  | n + 1, words =>
    if words.all List.isEmpty then 0
    else
      let lists := untilEnds words
      let groups := (lists.map byFirstByte).filter (!·.isEmpty)
      stateSize + (groups.length + lists.length - 1) * wayOutSize +
        total (groups.map fun group =>
          stateSize + (if group.length = 1 then 0 else group.length * rangeSize) +
            total (group.map (sizeOfWords n)))

/-- The bytes of a text in the order in which they are read. -/
def wordOf (direction : Direction) (text : List Char) : List Nat :=
  match direction with
  | .forward => Text.Utf8.bytes text
  | .backward => (Text.Utf8.bytes text).reverse

/-- The text of a pattern that is one. -/
def text? : Pattern → Option (List Char)
  | literal text => some text
  | _ => none

/-! ## Machines -/

mutual

/-- The part of a machine that a pattern takes. Only a machine that reads forward
remembers places. -/
def extent (direction : Direction) : Pattern → Extent
  | empty | textStart | textEnd => .states 1
  | literal text => .states (Text.Utf8.bytes text).length
  | oneOf set => extentOfSet direction set
  | group _ p =>
    match direction with
    | .forward => (extent direction p).remembered
    | .backward => extent direction p
  | times p min max _ =>
    (extent direction p).times (p.minLength.any (0 < ·)) min max
  | seq ps =>
    match direction with
    | .forward => .inRow (extents direction ps)
    | .backward => .inRow (extents direction ps).reverse
  | alt ps =>
    match ps.mapM text? with
    | some texts =>
      let words := texts.map (wordOf direction)
      let longest := (words.map List.length).foldr Nat.max 0
      { size := stateSize + sizeOfWords (longest + 1) words }
    | none => .choice (extents direction ps)

/-- The parts of a machine that some patterns take. -/
def extents (direction : Direction) : List Pattern → List Extent
  | [] => []
  | p :: ps => extent direction p :: extents direction ps

end

/-- Whether the first pattern that can take a character, or one in front of it, has a
property. -/
def anyAtEdge (held : List (Pattern × Bool)) : Bool :=
  match held with
  | [] => false
  | (p, h) :: held => h || (p.maxLength == some 0 && anyAtEdge held)

mutual

/-- Whether a match always lies at the end of a text from which a machine starts to
read. -/
def anchored (direction : Direction) : Pattern → Bool
  | textStart => direction = .forward
  | textEnd => direction = .backward
  | empty | literal _ | oneOf _ => false
  | group _ p => anchored direction p
  | times p min _ _ => 0 < min && anchored direction p
  | seq ps =>
    match direction with
    | .forward => anyAtEdge (ps.zip (anchoredEach direction ps))
    | .backward => anyAtEdge (ps.zip (anchoredEach direction ps)).reverse
  | alt ps => (anchoredEach direction ps).all id

/-- Whether matches of each of some patterns always lie there. -/
def anchoredEach (direction : Direction) : List Pattern → List Bool
  | [] => []
  | p :: ps => anchored direction p :: anchoredEach direction ps

end

/-- The bytes of the machine that looks for a pattern. It starts with a circle through
any byte, or with a single state if the pattern lies at one place only. A machine that
reads forward remembers the places of the match. -/
def programSize (direction : Direction) (p : Pattern) : Nat :=
  let anyByte : Extent := { size := 2 * stateSize + rangeSize }
  let start := if p.anchored direction then Extent.states 1 else anyByte.atLeast true 0
  let body :=
    match direction with
    | .forward => (p.extent direction).remembered
    | .backward => p.extent direction
  (start.andThen (body.andThen (.states 1))).size

end StructEdit.Pattern
