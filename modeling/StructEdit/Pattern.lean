import StructEdit.Text.Utf8

/-!
# StructEdit.Pattern

Patterns for text, which are regular expressions in a reduced form: characters that
stand behind each other make one text, single characters as alternatives make one set,
nothing stands in a sequence as a part, and what is repeated once stands for itself.
The functions that build patterns (`Pattern.ofSet`, `Pattern.repeated`,
`Pattern.sequence`, `Pattern.alternatives`) keep to that form. What a pattern matches is
given by the places of a text between which it does (`Pattern.spans`).
-/

namespace StructEdit

open Text (CharSet)

/-- A regular expression. -/
inductive Pattern where
  | empty
  | literal (text : List Char)
  | oneOf (set : CharSet)
  | textStart
  | textEnd
  /-- A group that remembers what it matched, with the number of its parenthesis. -/
  | group (number : Nat) (body : Pattern)
  /-- At least `min` times and, if there is a `max`, at most so often; a greedy
  repetition goes on for as long as it can. -/
  | times (body : Pattern) (min : Nat) (max : Option Nat) (greedy : Bool)
  | seq (parts : List Pattern)
  | alt (branches : List Pattern)

namespace Pattern

/-! ## Comparing -/

mutual

/-- Whether two patterns are the same. -/
def same : Pattern → Pattern → Bool
  | empty, empty => true
  | literal s, literal t => s == t
  | oneOf s, oneOf t => s == t
  | textStart, textStart => true
  | textEnd, textEnd => true
  | group m p, group n q => m == n && same p q
  | times p min max greedy, times q min' max' greedy' =>
    same p q && min == min' && max == max' && greedy == greedy'
  | seq ps, seq qs => sameAll ps qs
  | alt ps, alt qs => sameAll ps qs
  | _, _ => false

/-- Whether two lists hold the same patterns. -/
def sameAll : List Pattern → List Pattern → Bool
  | [], [] => true
  | p :: ps, q :: qs => same p q && sameAll ps qs
  | _, _ => false

end

/-! ## Lengths -/

/-- The sum of some numbers, if each of them is there. -/
def sum? (ns : List (Option Nat)) : Option Nat :=
  ns.foldr (fun n m => n.bind fun n => m.map (n + ·)) (some 0)

/-- The least of some numbers, if each of them is there. -/
def least? : List (Option Nat) → Option Nat
  | [] => none
  | [n] => n
  | n :: ns => n.bind fun n => (least? ns).map (Nat.min n)

/-- The greatest of some numbers, if each of them is there. -/
def greatest? : List (Option Nat) → Option Nat
  | [] => none
  | [n] => n
  | n :: ns => n.bind fun n => (greatest? ns).map (Nat.max n)

mutual

/-- The fewest bytes that a match takes; nothing where there is no match. -/
def minLength : Pattern → Option Nat
  | empty | textStart | textEnd => some 0
  | literal text => some (Text.Utf8.bytes text).length
  | oneOf set => set.ranges.head?.map fun r => Text.Utf8.length r.1
  | group _ p => p.minLength
  | times p min _ _ => p.minLength.map (min * ·)
  | seq ps => sum? (minLengths ps)
  | alt ps => least? (minLengths ps)

/-- The fewest bytes for each of some patterns. -/
def minLengths : List Pattern → List (Option Nat)
  | [] => []
  | p :: ps => p.minLength :: minLengths ps

end

mutual

/-- The most bytes that a match takes; nothing where there is no match, or where there
is no bound. -/
def maxLength : Pattern → Option Nat
  | empty | textStart | textEnd => some 0
  | literal text => some (Text.Utf8.bytes text).length
  | oneOf set => set.ranges.getLast?.map fun r => Text.Utf8.length r.2
  | group _ p => p.maxLength
  | times p _ max _ => max.bind fun max => p.maxLength.map (max * ·)
  | seq ps => sum? (maxLengths ps)
  | alt ps => greatest? (maxLengths ps)

/-- The most bytes for each of some patterns. -/
def maxLengths : List Pattern → List (Option Nat)
  | [] => []
  | p :: ps => p.maxLength :: maxLengths ps

end

/-! ## Building -/

/-- Any character of a set. -/
def ofSet (s : CharSet) : Pattern :=
  match s.single? with
  | some c => literal [c]
  | none => oneOf s

/-- A pattern that is repeated. What never takes a character is not repeated more than
once, since that would add nothing. -/
def repeated (p : Pattern) (min : Nat) (max : Option Nat) (greedy : Bool) : Pattern :=
  let still := p.maxLength == some 0
  let min := if still then Nat.min min 1 else min
  let max := if still then some (Nat.min (max.getD 1) 1) else max
  if max = some 0 then empty
  else if min = 1 ∧ max = some 1 then p
  else times p min max greedy

/-- The parts that a pattern adds to a sequence. -/
def parts : Pattern → List Pattern
  | empty => []
  | seq ps => ps
  | p => [p]

/-- A part in front of others; two texts become one. -/
def joinPart : Pattern → List Pattern → List Pattern
  | literal s, literal t :: ps => literal (s ++ t) :: ps
  | p, ps => p :: ps

/-- Patterns that are matched one behind the other. -/
def sequence (ps : List Pattern) : Pattern :=
  match (ps.flatMap parts).foldr joinPart [] with
  | [] => empty
  | [p] => p
  | ps => seq ps

/-- The branches that a pattern adds to alternatives. -/
def branches : Pattern → List Pattern
  | alt ps => ps
  | p => [p]

/-- The character of a text that has just one. -/
def char? : Pattern → Option Char
  | literal [c] => some c
  | _ => none

/-- The set of a pattern that is any character of one. -/
def set? : Pattern → Option CharSet
  | oneOf s => some s
  | _ => none

/-- The parts of a pattern that is a sequence. -/
def seq? : Pattern → Option (List Pattern)
  | seq ps => some ps
  | _ => none

/-- The characters of branches that are single characters all of them, or sets all of
them. -/
def commonSet? (ps : List Pattern) : Option CharSet :=
  ((ps.mapM char?).map fun cs => .unionAll (cs.map .single)) <|> (ps.mapM set?).map .unionAll

/-- One of some branches that do not start in the same way. -/
def choice (ps : List Pattern) : Pattern :=
  match ps.flatMap branches with
  | [p] => p
  | ps =>
    match commonSet? ps with
    | some s => ofSet s
    | none => alt ps

/-- How many parts two sequences have in common at their start. -/
def commonParts : List Pattern → List Pattern → Nat
  | p :: ps, q :: qs => if same p q then commonParts ps qs + 1 else 0
  | _, _ => 0

/-- Alternatives. Where all of them are sequences that start with the same parts, these
are taken in front; what is left then does not start in the same way any more. -/
def alternatives (ps : List Pattern) : Pattern :=
  match (ps.flatMap branches).mapM seq? with
  | some (first :: second :: others) =>
    let others := second :: others
    let common := others.foldl (fun n qs => Nat.min n (commonParts first qs)) first.length
    if common = 0 then choice ps
    else
      let left := (first :: others).map fun qs => sequence (qs.drop common)
      sequence (first.take common ++ [choice left])
  | _ => choice ps

/-! ## Matching -/

/-- Pairs of places of a text: where a match starts and where it ends. -/
abbrev Spans := List (Nat × Nat)

namespace Spans

/-- The spans of nothing, one at each place. -/
def still (text : List Char) : Spans := (List.range (text.length + 1)).map fun i => (i, i)

/-- A span of the first kind with a span of the second kind behind it. -/
def followedBy (rs ss : Spans) : Spans :=
  (rs.flatMap fun r => (ss.filter fun s => s.1 == r.2).map fun s => (r.1, s.2)).eraseDups

/-- A span of either kind. -/
def either (rs ss : Spans) : Spans := (rs ++ ss).eraseDups

/-- At most `n` spans of the second kind behind a span of the first kind. -/
def upTo (rs ss : Spans) : Nat → Spans
  | 0 => rs
  | n + 1 => either rs (followedBy (upTo rs ss n) ss)

/-- So many spans of one kind behind each other as the bounds say.

A match never ends before it starts, so among more repetitions than there are places
one matches nothing, and any number of further repetitions can match nothing there as
well. This bounds the repetitions that have to be followed. -/
def times (text : List Char) (rs : Spans) (min : Nat) (max : Option Nat) : Spans :=
  let bound := text.length + 1
  let more :=
    match max with
    | none => bound
    | some max => Nat.min (max - min) bound
  upTo (Nat.repeat (followedBy · rs) (Nat.min min bound) (still text)) rs more

end Spans

mutual

/-- The places of a text between which a pattern matches. -/
def spans (text : List Char) : Pattern → Spans
  | empty => .still text
  | literal s => (Spans.still text).filterMap fun r =>
    if s.isPrefixOf (text.drop r.1) then some (r.1, r.1 + s.length) else none
  | oneOf set => (Spans.still text).filterMap fun r =>
    if text[r.1]?.any set.contains then some (r.1, r.1 + 1) else none
  | textStart => [(0, 0)]
  | textEnd => [(text.length, text.length)]
  | group _ p => spans text p
  | times p min max _ => Spans.times text (spans text p) min max
  | seq ps => spansOfAll text ps
  | alt ps => spansOfAny text ps

/-- The places between which some patterns match one behind the other. -/
def spansOfAll (text : List Char) : List Pattern → Spans
  | [] => .still text
  | p :: ps => (spans text p).followedBy (spansOfAll text ps)

/-- The places between which one of some patterns matches. -/
def spansOfAny (text : List Char) : List Pattern → Spans
  | [] => []
  | p :: ps => (spans text p).either (spansOfAny text ps)

end

/-- Whether a pattern is found anywhere in a text. -/
def foundIn (p : Pattern) (text : List Char) : Bool := !(p.spans text).isEmpty

/-- Whether a pattern is found in the text of one character. -/
def matchesChar (p : Pattern) (c : Char) : Bool := p.foundIn [c]

end Pattern

end StructEdit
