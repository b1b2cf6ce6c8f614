import StructEdit.Context
import StructEdit.Json.Wire

/-!
# StructEdit.Wire.Context

Contexts and tokens as JSON values.
-/

namespace StructEdit

open Wire

instance : Wire NodeId where
  encode n := encode n.value
  decode? j := (decode? j).map NodeId.mk

instance : Wire Position where
  encode p := .object [("line", encode p.line), ("column", encode p.column)]
  decode? j := do
    let f ← fields? ["line", "column"] j
    some { line := ← required? f "line", column := ← required? f "column" }

/-- A kind of literal is an object with the type of the literal; the other kinds
are written by name. -/
def TokenKind.name? : TokenKind → Option String
  | .identifier => some "Identifier"
  | .keyword => some "Keyword"
  | .literal _ => none
  | .operator => some "Operator"
  | .punctuation => some "Punctuation"
  | .expressionHole => some "ExpressionHole"
  | .operatorHole => some "OperatorHole"
  | .autocomplete => some "Autocomplete"
  | .nonEditable => some "NonEditable"

/-- The kind of token that is written by a name. -/
def TokenKind.ofName? (name : String) : Option TokenKind :=
  [TokenKind.identifier, .keyword, .operator, .punctuation, .expressionHole, .operatorHole,
    .autocomplete, .nonEditable].find? fun k => k.name? == some name

instance : Wire TokenKind where
  encode
    | .literal type => .object [("Literal", encode type)]
    | kind => .string (kind.name?.getD "")
  decode?
    | .object [("Literal", type)] => (decode? type).map .literal
    | .object [(name, .null)] => TokenKind.ofName? name
    | .string name => TokenKind.ofName? name
    | _ => none

instance : Wire Token where
  encode t := .object [("id", encode t.id), ("kind", encode t.kind), ("text", encode t.text),
    ("editable", encode t.editable)]
  decode? j := do
    let f ← fields? ["id", "kind", "text", "editable"] j
    some {
      id := ← required? f "id"
      kind := ← required? f "kind"
      text := ← optional? f "text" ""
      editable := ← optional? f "editable" true }

instance : Wire AutocompleteToken where
  encode t := .object [("id", encode t.id), ("text", encode t.text),
    ("autocomplete_type", encode t.kind)]
  decode? j := do
    let f ← fields? ["id", "text", "autocomplete_type"] j
    some {
      id := ← required? f "id"
      text := ← required? f "text"
      kind := ← required? f "autocomplete_type" }

instance : Wire Context where
  encode c := .object [("position", encode c.position),
    ("token_to_left", encode c.tokenToLeft), ("token_to_right", encode c.tokenToRight),
    ("expression_to_left", encode c.expressionToLeft),
    ("expression_to_right", encode c.expressionToRight), ("selected", encode c.selected),
    ("autocomplete", encode c.autocomplete), ("text_editable", encode c.textEditable)]
  decode? j := do
    let f ← fields? ["position", "token_to_left", "token_to_right", "expression_to_left",
      "expression_to_right", "selected", "autocomplete", "text_editable"] j
    some {
      position := ← optional? f "position" .origin
      tokenToLeft := ← optional? f "token_to_left" none
      tokenToRight := ← optional? f "token_to_right" none
      expressionToLeft := ← optional? f "expression_to_left" none
      expressionToRight := ← optional? f "expression_to_right" none
      selected := ← optional? f "selected" none
      autocomplete := ← optional? f "autocomplete" none
      textEditable := ← optional? f "text_editable" false }

end StructEdit
