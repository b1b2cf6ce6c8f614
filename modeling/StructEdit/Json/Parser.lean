import StructEdit.Json

/-!
# StructEdit.Json.Parser

Reading JSON text (`Json.parse?`). The text is one value with blank space around
it and nothing else. Each reader takes the characters from where it stands and
gives what it read with the characters that are left.
-/

namespace StructEdit.Json

/-! ## Blank space and words -/

/-- The blank characters of JSON: space, tab, line feed and carriage return. -/
def isSpace (c : Char) : Bool := c = ' ' || c = '\t' || c = '\n' || c = '\r'

def skipSpace (cs : List Char) : List Char := cs.dropWhile isSpace

/-! ## Strings -/

/-- One item of a string literal: a character, or half of a surrogate pair. -/
inductive TextUnit where
  | char (value : Char)
  | half (value : Nat)

/-- The value of a hexadecimal digit in either case. -/
def hexDigit? (c : Char) : Option Nat :=
  if '0' ≤ c ∧ c ≤ '9' then some (c.toNat - '0'.toNat)
  else if 'a' ≤ c ∧ c ≤ 'f' then some (c.toNat - 'a'.toNat + 10)
  else if 'A' ≤ c ∧ c ≤ 'F' then some (c.toNat - 'A'.toNat + 10)
  else none

/-- The number written by hexadecimal digits. -/
def hexNumber? (cs : List Char) : Option Nat :=
  cs.foldlM (fun n c => (hexDigit? c).map (16 * n + ·)) 0

/-- The unit of a given number; the numbers of surrogates are halves. -/
def TextUnit.ofNat (n : Nat) : TextUnit :=
  if 0xD800 ≤ n ∧ n ≤ 0xDFFF then .half n else .char (Char.ofNat n)

/-- The character that an escape of one letter stands for. -/
def escape? (c : Char) : Option Char :=
  if c = '"' then some '"'
  else if c = '\\' then some '\\'
  else if c = '/' then some '/'
  else if c = 'b' then some '\x08'
  else if c = 'f' then some '\x0c'
  else if c = 'n' then some '\n'
  else if c = 'r' then some '\r'
  else if c = 't' then some '\t'
  else none

/-- The units of a string literal, read from behind its opening quotation mark.
A control character has to be escaped. -/
def readUnits : List Char → Option (List TextUnit × List Char)
  | [] => none
  | '"' :: cs => some ([], cs)
  | '\\' :: 'u' :: a :: b :: c :: d :: cs => do
    let n ← hexNumber? [a, b, c, d]
    let (us, rest) ← readUnits cs
    some (TextUnit.ofNat n :: us, rest)
  | '\\' :: e :: cs => do
    let c ← escape? e
    let (us, rest) ← readUnits cs
    some (.char c :: us, rest)
  | c :: cs =>
    if c.toNat < 0x20 then none
    else do
      let (us, rest) ← readUnits cs
      some (.char c :: us, rest)

/-- The characters that units spell: two halves in a row, the higher one first,
make one character, and a half that stands alone makes none. -/
def joinUnits : List TextUnit → Option (List Char)
  | [] => some []
  | .char c :: us => (joinUnits us).map (c :: ·)
  | .half hi :: .half lo :: us =>
    if hi < 0xDC00 ∧ 0xDC00 ≤ lo then
      (joinUnits us).map (Char.ofNat (0x10000 + (hi - 0xD800) * 0x400 + (lo - 0xDC00)) :: ·)
    else none
  | .half _ :: _ => none

/-- A string literal behind its opening quotation mark; without a text when it
leaves half of a surrogate pair. -/
def readText (cs : List Char) : Option (Option String × List Char) := do
  let (us, rest) ← readUnits cs
  some ((joinUnits us).map String.ofList, rest)

/-! ## Numbers -/

/-- The digits behind a point, or nothing. -/
def readFraction : List Char → Option (List Char × List Char)
  | '.' :: cs =>
    if cs.takeWhile Char.isDigit = [] then none
    else some (cs.takeWhile Char.isDigit, cs.dropWhile Char.isDigit)
  | cs => some ([], cs)

/-- A letter `e` with a sign, which may be missing, and digits, or nothing. -/
def readExponent : List Char → Option (List Char × List Char)
  | [] => some ([], [])
  | e :: cs =>
    if e = 'e' ∨ e = 'E' then
      let sign := cs.takeWhile (fun c => c = '+' || c = '-')
      let digits := (cs.drop sign.length).takeWhile Char.isDigit
      if sign.length ≤ 1 ∧ digits ≠ [] then
        some (e :: sign ++ digits, (cs.drop sign.length).dropWhile Char.isDigit)
      else none
    else some ([], e :: cs)

/-- A numeral. Its whole part has no leading zero besides a lone one. -/
def readNumber (cs : List Char) : Option (Json × List Char) := do
  let negative := cs.head? == some '-'
  let cs := if negative then cs.tail else cs
  let whole := cs.takeWhile Char.isDigit
  if whole = [] ∨ (whole.head? = some '0' ∧ whole ≠ ['0']) then none
  else
    let (fraction, rest) ← readFraction (cs.dropWhile Char.isDigit)
    let (exponent, rest) ← readExponent rest
    if negative = false ∧ fraction = [] ∧ exponent = [] then
      some (natural (Numeral.decimalValue whole), rest)
    else some (numeral { negative, whole, fraction, exponent }, rest)

/-! ## Values -/

/-- A value that has to start with the given word. -/
def readWord (word : String) (value : Json) (cs : List Char) : Option (Json × List Char) :=
  (word.toList.isPrefixOf? cs).map fun rest => (value, rest)

/-- The members of an object, if each of its names has a text. -/
def named? (members : List (Option String × Json)) : Option (List (String × Json)) :=
  members.mapM fun m => m.1.map fun name => (name, m.2)

/-- What is written from `cs` to `rest`, kept as it is. -/
def written (cs rest : List Char) : Json :=
  broken (String.ofList (cs.take (cs.length - rest.length)))

mutual

/-- A value with blank space in front of it. -/
def readValue : Nat → List Char → Option (Json × List Char)
  | 0, _ => none
  | n + 1, cs =>
    match skipSpace cs with
    | [] => none
    | c :: cs =>
      if c = '"' then do
        let (text, rest) ← readText cs
        match text with
        | some text => some (string text, rest)
        | none => some (written (c :: cs) rest, rest)
      else if c = '[' then
        match skipSpace cs with
        | ']' :: rest => some (array [], rest)
        | cs => do
          let (item, rest) ← readValue n cs
          let (items, rest) ← readItems n rest
          some (array (item :: items), rest)
      else if c = '\x7b' then
        match skipSpace cs with
        | '\x7d' :: rest => some (object [], rest)
        | cs' => do
          let (member, rest) ← readMember n cs'
          let (members, rest) ← readMembers n rest
          match named? (member :: members) with
          | some members => some (object members, rest)
          | none => some (written (c :: cs) rest, rest)
      else if c = '-' || c.isDigit then readNumber (c :: cs)
      else if c = 'n' then readWord "null" null (c :: cs)
      else if c = 't' then readWord "true" (bool true) (c :: cs)
      else if c = 'f' then readWord "false" (bool false) (c :: cs)
      else none

/-- The items of an array behind its first one, with the closing bracket. -/
def readItems : Nat → List Char → Option (List Json × List Char)
  | 0, _ => none
  | n + 1, cs =>
    match skipSpace cs with
    | ']' :: rest => some ([], rest)
    | ',' :: cs => do
      let (item, rest) ← readValue n cs
      let (items, rest) ← readItems n rest
      some (item :: items, rest)
    | _ => none

/-- One member of an object: a name, a colon and a value. -/
def readMember : Nat → List Char → Option ((Option String × Json) × List Char)
  | 0, _ => none
  | n + 1, cs =>
    match skipSpace cs with
    | '"' :: cs => do
      let (name, rest) ← readText cs
      match skipSpace rest with
      | ':' :: rest => do
        let (value, rest) ← readValue n rest
        some ((name, value), rest)
      | _ => none
    | _ => none

/-- The members of an object behind its first one, with the closing brace. -/
def readMembers : Nat → List Char → Option (List (Option String × Json) × List Char)
  | 0, _ => none
  | n + 1, cs =>
    match skipSpace cs with
    | '\x7d' :: rest => some ([], rest)
    | ',' :: cs => do
      let (member, rest) ← readMember n cs
      let (members, rest) ← readMembers n rest
      some (member :: members, rest)
    | _ => none

end

/-- The value that a text writes. Every step of reading takes a character, so
the length of the text bounds their number. -/
def parse? (text : String) : Option Json := do
  let cs := text.toList
  let (value, rest) ← readValue (2 * cs.length + 1) cs
  if skipSpace rest = [] then some value else none

end StructEdit.Json
