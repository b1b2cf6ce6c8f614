import StructEdit.Pattern.Expression
import StructEdit.Text.Alphabetic
import StructEdit.Text.Blank
import StructEdit.Text.Digit
import StructEdit.Text.Numeric
import StructEdit.Text.Word

/-!
# StructEdit.Pattern.Parser

Reading patterns as they are written (`Expression.parse?`). A pattern is made of

* characters, which stand for themselves, and `.`, any character but a line feed;
* `^` and `$`, the start and the end of the text;
* escapes: `\d \s \w` and their complements `\D \S \W`, control characters such as
  `\t`, code points such as `\x61`, and punctuation;
* classes in brackets, with ranges, named classes such as `[:alpha:]`, classes in
  classes, and the operations `&&`, `--` and `~~` on them;
* groups, which may have a name or be without regard to case from `(?i)` on;
* repetition by `?`, `*`, `+` and `{2,3}`, and `|` between alternatives.

Looking around, referring back to a group and octal escapes are not part of it,
so they are refused, and so is all that is left open.

Regular expressions have more to them that patterns of one character have little use
for. It is left out, and a pattern with any of it is refused here:

* the places `\A` and `\z`, and those at the edges of words, `\b`, `\B`, `\b{start}`,
  `\b{end}`, their halves, `\<` and `\>`;
* classes by a property, such as `\p{Greek}`, `\pL` and `\P{L}`;
* the flags `m`, `s`, `R`, `U`, `u` and `x`, alone or together with `i`, and with `x` blank
  space and comments that do not count.

Each reader takes the characters from where it stands and gives what it read with
the characters that are left. A number bounds the steps that it takes.
-/

namespace StructEdit

namespace Expression

open Text (CharSet)

/-! ## Escapes -/

/-- What an escape stands for: a character or a class. -/
inductive Escape where
  | char (c : Char)
  | cls (set : CharSet)

/-- The value of a hexadecimal digit. -/
def hexValue? (c : Char) : Option Nat :=
  if c.isDigit then some (c.toNat - 48)
  else if 'a' ≤ c ∧ c ≤ 'f' then some (c.toNat - 87)
  else if 'A' ≤ c ∧ c ≤ 'F' then some (c.toNat - 55)
  else none

/-- The character whose number is written by hexadecimal digits. -/
def charOfHex? (digits : List Char) : Option Char := do
  if digits = [] then none
  let n ← digits.foldlM (fun n c => (hexValue? c).map (16 * n + ·)) 0
  if n.isValidChar then some (Char.ofNat n) else none

/-- A code point, in braces or of a fixed number of digits. -/
def readCodePoint (width : Nat) : List Char → Option (Char × List Char)
  | '\x7b' :: cs =>
    match cs.dropWhile (· != '\x7d') with
    | [] => none
    | _ :: rest => (charOfHex? (cs.takeWhile (· != '\x7d'))).map fun c => (c, rest)
  | cs =>
    if cs.length < width then none
    else (charOfHex? (cs.take width)).map fun c => (c, cs.drop width)

/-- Whether a character stands for itself behind a backslash: ASCII characters do
that are neither letters nor digits nor angle brackets. -/
def isPlainEscape (c : Char) : Bool :=
  c.toNat < 0x80 && !c.isAlphanum && c != '<' && c != '>'

/-- An escape, read from behind its backslash. -/
def readEscape : List Char → Option (Escape × List Char)
  | [] => none
  | c :: cs =>
    match c with
    | 'd' => some (.cls Text.decimalDigits, cs)
    | 'D' => some (.cls Text.decimalDigits.complement, cs)
    | 's' => some (.cls Text.blankChars, cs)
    | 'S' => some (.cls Text.blankChars.complement, cs)
    | 'w' => some (.cls Text.wordChars, cs)
    | 'W' => some (.cls Text.wordChars.complement, cs)
    | 'a' => some (.char '\x07', cs)
    | 'f' => some (.char '\x0c', cs)
    | 'n' => some (.char '\n', cs)
    | 'r' => some (.char '\r', cs)
    | 't' => some (.char '\t', cs)
    | 'v' => some (.char '\x0b', cs)
    | 'x' => (readCodePoint 2 cs).map fun r => (.char r.1, r.2)
    | 'u' => (readCodePoint 4 cs).map fun r => (.char r.1, r.2)
    | 'U' => (readCodePoint 8 cs).map fun r => (.char r.1, r.2)
    | c => if isPlainEscape c then some (.char c, cs) else none

/-! ## Classes in brackets -/

/-- An item of a class: a character, which may be escaped, or an escaped class. -/
def readItem : List Char → Option (Escape × List Char)
  | [] => none
  | '\\' :: cs => readEscape cs
  | c :: cs => some (.char c, cs)

/-- An item or a range of characters. A hyphen makes a range unless it is followed
by another one or by the closing bracket. -/
def readRange (cs : List Char) : Option (Bracket × List Char) := do
  let (first, rest) ← readItem cs
  let single :=
    match first with
    | .char c => .chars c c
    | .cls s => .escaped s
  match rest with
  | '-' :: ']' :: _ => some (single, rest)
  | '-' :: '-' :: _ => some (single, rest)
  | '-' :: rest =>
    let (last, rest) ← readItem rest
    match first, last with
    | .char a, .char b => if a ≤ b then some (.chars a b, rest) else none
    | _, _ => none
  | _ => some (single, rest)

/-- A named class, read from behind the bracket that opens it. -/
def readNamed : List Char → Option (Bracket × List Char)
  | ':' :: cs =>
    let negated := cs.head? == some '^'
    let cs := if negated then cs.tail else cs
    match cs.dropWhile (· != ':') with
    | ':' :: ']' :: rest => do
      let name ← Named.ofName? (String.ofList (cs.takeWhile (· != ':')))
      some (.named name negated, rest)
    | _ => none
  | _ => none

/-- Items with an operation on what stands in front of them, if there is one to do. -/
def applyPending (pending : Option (SetOperation × Bracket)) (items : List Bracket) : Bracket :=
  match pending with
  | none => .items items
  | some (op, left) => .operation op left (.items items)

mutual

/-- The content of a class and whether it is negated, read from behind the opening
bracket. Hyphens at its start stand for themselves, and so does a closing bracket
there. -/
def readClass : Nat → List Char → Option (Bracket × Bool × List Char)
  | 0, _ => none
  | n + 1, cs => do
    let negated := cs.head? == some '^'
    let cs := if negated then cs.tail else cs
    let rest := cs.dropWhile (· == '-')
    let hyphens := (cs.takeWhile (· == '-')).map fun c => Bracket.chars c c
    let (start, rest) :=
      match hyphens, rest with
      | [], ']' :: rest => ([Bracket.chars ']' ']'], rest)
      | _, _ => (hyphens, rest)
    let (content, rest) ← readItems n none start rest
    some (content, negated, rest)

/-- The items of a class, to which the given ones belong, and its closing bracket. The
operations on classes bind weaker than the union of items, and what is written first
is done first. -/
def readItems : Nat → Option (SetOperation × Bracket) → List Bracket → List Char →
    Option (Bracket × List Char)
  | 0, _, _, _ => none
  | n + 1, pending, items, cs =>
    match cs with
    | [] => none
    | ']' :: rest => some (applyPending pending items, rest)
    | '[' :: rest =>
      match readNamed rest with
      | some (item, rest) => readItems n pending (item :: items) rest
      | none => do
        let (content, negated, rest) ← readClass n rest
        readItems n pending (.nested content negated :: items) rest
    | '&' :: '&' :: rest => readItems n (some (.inter, applyPending pending items)) [] rest
    | '-' :: '-' :: rest => readItems n (some (.diff, applyPending pending items)) [] rest
    | '~' :: '~' :: rest => readItems n (some (.symmDiff, applyPending pending items)) [] rest
    | cs => do
      let (item, rest) ← readRange cs
      readItems n pending (item :: items) rest

end

/-! ## Repetition -/

/-- A decimal number, with blank space around it, that fits into 32 bits. -/
def readCount (cs : List Char) : Option (Nat × List Char) :=
  let cs := cs.dropWhile Text.isBlank
  let digits := cs.takeWhile Char.isDigit
  let value := digits.foldl (fun n d => 10 * n + (d.toNat - 48)) 0
  if digits = [] ∨ UInt32.size ≤ value then none
  else some (value, (cs.dropWhile Char.isDigit).dropWhile Text.isBlank)

/-- How often something is repeated, read from behind the opening brace. -/
def readBounds (cs : List Char) : Option ((Nat × Option Nat) × List Char) := do
  let (min, rest) ← readCount cs
  match rest with
  | '\x7d' :: rest => some ((min, some min), rest)
  | ',' :: '\x7d' :: rest => some ((min, none), rest)
  | ',' :: rest =>
    let (max, rest) ← readCount rest
    match rest with
    | '\x7d' :: rest => if min ≤ max then some ((min, some max), rest) else none
    | _ => none
  | _ => none

/-- How often something is repeated. -/
structure Bounds where
  min : Nat
  max : Option Nat
  greedy : Bool := true

/-- A repetition, if one is written here. A question mark behind it makes it
reluctant. -/
def readRepetition (cs : List Char) : Option (Option Bounds × List Char) := do
  let (bounds, rest) ←
    match cs with
    | '?' :: rest => some (some ⟨0, some 1, true⟩, rest)
    | '*' :: rest => some (some ⟨0, none, true⟩, rest)
    | '+' :: rest => some (some ⟨1, none, true⟩, rest)
    | '\x7b' :: rest => (readBounds rest).map fun r => (some ⟨r.1.1, r.1.2, true⟩, r.2)
    | cs => some (none, cs)
  match bounds, rest with
  | some bounds, '?' :: rest => some (some { bounds with greedy := false }, rest)
  | _, _ => some (bounds, rest)

/-! ## Groups and sequences -/

/-- Whether letters differ in case only when they are told apart, the names of the
groups so far, and how many groups so far remember what they match. -/
structure Scope where
  caseless : Bool := false
  names : List (List Char) := []
  groups : Nat := 0

/-- The flags of a group and what ends them: the letter `i`, for no regard to case,
which a hyphen in front of it takes back. -/
def readFlags (caseless : Bool) : List Char → Option (Bool × List Char)
  | 'i' :: rest => if rest.head? = some ')' ∨ rest.head? = some ':' then some (true, rest) else none
  | '-' :: 'i' :: rest =>
    if rest.head? = some ')' ∨ rest.head? = some ':' then some (false, rest) else none
  | ':' :: rest => some (caseless, ':' :: rest)
  | _ => none

/-- Whether a character may stand in the name of a group, at its start or not. -/
def isNameChar (first : Bool) (c : Char) : Bool :=
  c == '_' || Text.isAlphabetic c ||
    !first && (Text.isNumeric c || c == '.' || c == '[' || c == ']')

/-- The name of a group up to the angle bracket that closes it; no other group may
have it. -/
def readName (names : List (List Char)) (cs : List Char) : Option (List Char × List Char) :=
  let name := cs.takeWhile (· != '>')
  match name, cs.dropWhile (· != '>') with
  | c :: r, _ :: rest =>
    if isNameChar true c && r.all (isNameChar false) && !names.contains name then some (name, rest)
    else none
  | _, _ => none

/-- Something that matches one character or a place, if no group starts here. -/
def readAtom (caseless : Bool) (n : Nat) : List Char → Option (Expression × List Char)
  | [] => none
  | '.' :: rest => some (.point, rest)
  | '^' :: rest => some (.textStart, rest)
  | '$' :: rest => some (.textEnd, rest)
  | '[' :: rest => (readClass n rest).map fun r => (.bracket r.1 r.2.1 caseless, r.2.2)
  | '\\' :: rest =>
    match readEscape rest with
    | some (.char c, rest) => some (.char c caseless, rest)
    | some (.cls s, rest) => some (.escaped s, rest)
    | none => none
  | c :: rest =>
    if c = '?' ∨ c = '*' ∨ c = '+' ∨ c = '\x7b' then none else some (.char c caseless, rest)

/-- The repetitions of something, one after the other. -/
def readRepetitions : Nat → Expression → List Char → Option (Expression × List Char)
  | 0, _, _ => none
  | n + 1, e, cs => do
    let (bounds, rest) ← readRepetition cs
    match bounds with
    | none => some (e, rest)
    | some b => readRepetitions n (.repetition e b.min b.max b.greedy) rest

mutual

/-- Alternatives up to the end of the text or to the parenthesis that closes their
group. -/
def readAlternatives : Nat → Scope → List Char → Option (List Expression × Scope × List Char)
  | 0, _, _ => none
  | n + 1, scope, cs => do
    let (parts, scope, rest) ← readSequence n scope cs
    match rest with
    | '|' :: rest =>
      let (branches, scope, rest) ← readAlternatives n scope rest
      some (.sequence parts :: branches, scope, rest)
    | _ => some ([.sequence parts], scope, rest)

/-- What is matched one after the other. -/
def readSequence : Nat → Scope → List Char → Option (List Expression × Scope × List Char)
  | 0, _, _ => none
  | n + 1, scope, cs =>
    match cs with
    | [] | '|' :: _ | ')' :: _ => some ([], scope, cs)
    | '(' :: rest => do
      match ← readGroup n scope rest with
      | (none, scope, rest) =>
        match readRepetition rest with
        | some (none, _) =>
          let (parts, scope, rest) ← readSequence n scope rest
          some (.empty :: parts, scope, rest)
        | _ => none
      | (some e, scope, rest) =>
        let (e, rest) ← readRepetitions n e rest
        let (parts, scope, rest) ← readSequence n scope rest
        some (e :: parts, scope, rest)
    | cs => do
      let (e, rest) ← readAtom scope.caseless n cs
      let (e, rest) ← readRepetitions n e rest
      let (parts, scope, rest) ← readSequence n scope rest
      some (e :: parts, scope, rest)

/-- A group, read from behind its opening parenthesis; without an expression if it only
sets flags, which hold to the end of the group around it. -/
def readGroup : Nat → Scope → List Char → Option (Option Expression × Scope × List Char)
  | 0, _, _ => none
  | n + 1, scope, cs => do
    let number := scope.groups
    match cs with
    | '?' :: '=' :: _ | '?' :: '!' :: _ | '?' :: '<' :: '=' :: _ | '?' :: '<' :: '!' :: _ => none
    | '?' :: 'P' :: '<' :: rest | '?' :: '<' :: rest =>
      let (name, rest) ← readName scope.names rest
      let inner := { scope with names := name :: scope.names, groups := number + 1 }
      readGroupBody n (some number) scope.caseless inner rest
    | '?' :: rest =>
      match ← readFlags scope.caseless rest with
      | (caseless, ')' :: rest) => some (none, { scope with caseless }, rest)
      | (caseless, _ :: rest) =>
        readGroupBody n none scope.caseless { scope with caseless } rest
      | _ => none
    | rest =>
      readGroupBody n (some number) scope.caseless { scope with groups := number + 1 } rest

/-- The alternatives of a group and its closing parenthesis; what flags they set
holds no longer behind it. -/
def readGroupBody : Nat → Option Nat → Bool → Scope → List Char →
    Option (Option Expression × Scope × List Char)
  | 0, _, _, _, _ => none
  | n + 1, number, caseless, scope, cs => do
    let (branches, scope, rest) ← readAlternatives n scope cs
    match rest with
    | ')' :: rest =>
      some (some (.group number (.alternatives branches)), { scope with caseless }, rest)
    | _ => none

end

/-- The expression that a text writes. Four steps at most take each character. -/
def parse? (text : String) : Option Expression := do
  let cs := text.toList
  let (branches, _, rest) ← readAlternatives (4 * cs.length + 4) {} cs
  if rest = [] then some (.alternatives branches) else none

end Expression

end StructEdit
