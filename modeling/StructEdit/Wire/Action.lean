import StructEdit.Action
import StructEdit.Json.Held
import StructEdit.Wire.Context

/-!
# StructEdit.Wire.Action

Requests, records and actions as JSON values. The parts of a request that it has
not got are left out, and so is the payload of an action without one. A payload
is an object whose member `kind` says which other members it has. Since that member
may come late, the others are held until it is there. An array with the kind in front
is read as a payload too.
-/

namespace StructEdit

open Wire

/-! ## Requests and records -/

instance : Wire LiteralSpec where
  encode l := .object [("literal_type", encode l.type), ("initial_value", encode l.initialValue)]
  decode? j := do
    let f ← fields? ["literal_type", "initial_value"] j
    some {
      type := ← required? f "literal_type"
      initialValue := ← optional? f "initial_value" none }

instance : Wire Request where
  encode r := .object ([("kind", encode r.kind), ("construct", encode r.construct)] ++
    member "literal" r.literal ++ member "operator" r.operator)
  decode? j := do
    let f ← fields? ["kind", "construct", "literal", "operator"] j
    some {
      kind := ← required? f "kind"
      construct := ← required? f "construct"
      literal := ← optional? f "literal" none
      operator := ← optional? f "operator" none }

instance : Wire Insertion where
  encode r := .object [("construct", encode r.construct), ("match_text", encode r.matchText),
    ("request", encode r.request), ("status", encode r.status)]
  decode? j := do
    let f ← fields? ["construct", "match_text", "request", "status"] j
    some {
      construct := ← required? f "construct"
      matchText := ← required? f "match_text"
      request := ← required? f "request"
      status := ← required? f "status" }

/-! ## Payloads -/

/-- The members of a payload besides its kind. -/
def Payload.members : Payload → List (String × Json)
  | .listItem side => [("side", encode side)]
  | .curLine pressedBackspace => [("pressed_backspace", encode pressedBackspace)]
  | .emptyLines forward => [("forward", encode forward)]
  | .literal type initialValue =>
    [("literal_type", encode type), ("initial_value", encode initialValue)]
  | .statement construct => [("construct", encode construct)]
  | .expression construct => [("construct", encode construct)]
  | .modifier construct => [("construct", encode construct)]
  | .binaryOperator operator placement =>
    [("operator", encode operator), ("placement", encode placement)]
  | .unaryOperator operator placement =>
    [("operator", encode operator), ("placement", encode placement)]
  | .operatorToken operator => [("operator", encode operator)]
  | .elseStatement hasCondition outside =>
    [("has_condition", encode hasCondition), ("outside", encode outside)]
  | .emptyListItem side => [("side", encode side)]
  | .autocomplete kind firstChar pattern validMatches =>
    [("autocomplete_type", encode kind), ("first_char", encode firstChar),
     ("validator_regex", encode pattern), ("valid_matches", encode validMatches)]
  | .node id => [("node", encode id)]

/-- The kind of a payload. -/
def Payload.kind : Payload → String
  | .listItem _ => "list_item"
  | .curLine _ => "cur_line"
  | .emptyLines _ => "empty_lines"
  | .literal _ _ => "literal"
  | .statement _ => "statement"
  | .expression _ => "expression"
  | .modifier _ => "modifier"
  | .binaryOperator _ _ => "binary_operator"
  | .unaryOperator _ _ => "unary_operator"
  | .operatorToken _ => "operator_token"
  | .elseStatement _ _ => "else_statement"
  | .emptyListItem _ => "empty_list_item"
  | .autocomplete _ _ _ _ => "autocomplete"
  | .node _ => "node"

/-- The names of the members that a payload of a kind has besides its kind. -/
def Payload.memberNames : String → List String
  | "list_item" | "empty_list_item" => ["side"]
  | "cur_line" => ["pressed_backspace"]
  | "empty_lines" => ["forward"]
  | "literal" => ["literal_type", "initial_value"]
  | "statement" | "expression" | "modifier" => ["construct"]
  | "binary_operator" | "unary_operator" => ["operator", "placement"]
  | "operator_token" => ["operator"]
  | "else_statement" => ["has_condition", "outside"]
  | "autocomplete" => ["autocomplete_type", "first_char", "validator_regex", "valid_matches"]
  | "node" => ["node"]
  | _ => []

/-- The payload of a kind that is made of the given members. -/
def Payload.ofMembers? (kind : String) (members : List (String × Json)) : Option Payload := do
  let f ← fields? (Payload.memberNames kind) (.object members)
  match kind with
  | "list_item" => some (.listItem (← required? f "side"))
  | "cur_line" => some (.curLine (← required? f "pressed_backspace"))
  | "empty_lines" => some (.emptyLines (← required? f "forward"))
  | "literal" =>
    some (.literal (← required? f "literal_type") (← optional? f "initial_value" none))
  | "statement" => some (.statement (← required? f "construct"))
  | "expression" => some (.expression (← required? f "construct"))
  | "modifier" => some (.modifier (← required? f "construct"))
  | "binary_operator" =>
    some (.binaryOperator (← required? f "operator") (← required? f "placement"))
  | "unary_operator" =>
    some (.unaryOperator (← required? f "operator") (← required? f "placement"))
  | "operator_token" => some (.operatorToken (← required? f "operator"))
  | "else_statement" =>
    some (.elseStatement (← required? f "has_condition") (← required? f "outside"))
  | "empty_list_item" => some (.emptyListItem (← required? f "side"))
  | "autocomplete" =>
    some (.autocomplete (← required? f "autocomplete_type") (← required? f "first_char")
      (← required? f "validator_regex") (← required? f "valid_matches"))
  | "node" => some (.node (← required? f "node"))
  | _ => none

/-- The payload that a value stands for, with `outer` arrays and objects around it: an object,
or an array of the kind and the other members in their order, of which none may be left out. All
members are held, in an object those that the payload has not got as well. -/
def Payload.decodeWithin? (outer : Nat) : Json → Option Payload
  | .object members => do
    let f ← fields? ["kind"] (.object members)
    if members.all fun m => m.2.isHoldable (outer + 1) then
      Payload.ofMembers? (← required? f "kind") (members.map fun m => (m.1, m.2.settled))
    else none
  | .array (first :: items) => do
    let kind ← decode? first
    let names := Payload.memberNames kind
    if items.length = names.length ∧ items.all (·.isHoldable (outer + 1)) then
      Payload.ofMembers? kind (("kind", first) :: names.zip (items.map (·.settled)))
    else none
  | _ => none

instance : Wire Payload where
  encode p := .object (("kind", encode p.kind) :: p.members)
  decode? := Payload.decodeWithin? 0

/-! ## Actions -/

instance : Wire Action where
  encode a := .object ([("type", encode a.intent)] ++ member "data" a.payload ++
    [("source", encode a.source)])
  decode? j := do
    let f ← fields? ["type", "data", "source"] j
    some {
      intent := ← required? f "type"
      payload := ←
        match f "data" with
        | none | some .null => some none
        | some data => (Payload.decodeWithin? 1 data).map some
      source := ← optional? f "source" .keyboard }

end StructEdit
