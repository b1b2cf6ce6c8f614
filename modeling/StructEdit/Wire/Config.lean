import StructEdit.Config
import StructEdit.Json.Wire

/-!
# StructEdit.Wire.Config

Configurations as JSON values. Every field but the name of a category may be left
out, and then has a default of its own.
-/

namespace StructEdit

open Wire

/-- A map is written as an object; of repeated names the last one counts. -/
instance : Wire Dictionary where
  encode d := .object (d.entries.map fun e => (e.1, encode e.2))
  decode?
    | .object members =>
      (members.mapM fun m => (decode? m.2).map fun value => (m.1, value)).map Dictionary.ofList
    | _ => none

instance : Wire TriggerConfig where
  encode t := .object (t.patterns.map fun p => (p.1, encode p.2))
  decode? j := do
    let f ← fields? ["start_of_line", "expression_hole", "operator_hole", "left_of_expression",
      "right_of_expression", "in_text_operator"] j
    some {
      startOfLine := ← optional? f "start_of_line" wordTrigger
      expressionHole := ← optional? f "expression_hole" wordTrigger
      operatorHole := ← optional? f "operator_hole" wordTrigger
      leftOfExpression := ← optional? f "left_of_expression" wordTrigger
      rightOfExpression := ← optional? f "right_of_expression" rightOfExpressionTrigger
      inTextOperator := ← optional? f "in_text_operator" inTextOperatorTrigger }

instance : Wire ResolverConfig where
  encode r := .object [("auto_commit_on_blur", encode r.autoCommitOnBlur),
    ("triggers", encode r.triggers)]
  decode? j := do
    let f ← fields? ["auto_commit_on_blur", "triggers"] j
    some {
      autoCommitOnBlur := ← optional? f "auto_commit_on_blur" true
      triggers := ← optional? f "triggers" {} }

instance : Wire Category where
  encode c := .object [("name", encode c.name), ("options", encode c.options)]
  decode? j := do
    let f ← fields? ["name", "options"] j
    some { name := ← required? f "name", options := ← optional? f "options" [] }

instance : Wire MenuConfig where
  encode m := .object [("root", encode m.root), ("categories", encode m.categories),
    ("docs", encode m.docs)]
  decode? j := do
    let f ← fields? ["root", "categories", "docs"] j
    some {
      root := ← optional? f "root" defaultRoot
      categories := ← optional? f "categories" defaultCategories
      docs := ← optional? f "docs" .empty }

instance : Wire Config where
  encode c := .object [("resolver", encode c.resolver), ("menu", encode c.menu)]
  decode? j := do
    let f ← fields? ["resolver", "menu"] j
    some { resolver := ← optional? f "resolver" {}, menu := ← optional? f "menu" {} }

end StructEdit
