import StructEdit.Script
import StructEdit.Wire.Action

/-!
# StructEdit.Wire.Script

Scripts as JSON values. The predicates that hold are listed; in what order and how
often makes no difference when they are read.
-/

namespace StructEdit

open Wire

instance : Wire Script where
  encode s := .object [("context", encode s.context), ("predicates", encode s.predicates),
    ("draft_node", encode s.draftNode), ("insertions", encode s.insertions),
    ("constructs", encode s.constructs)]
  decode? j := do
    let f ← fields? ["context", "predicates", "draft_node", "insertions", "constructs"] j
    some {
      context := ← optional? f "context" {}
      holds := Script.holding (← optional? f "predicates" [])
      draftNode := ← optional? f "draft_node" none
      insertions := ← optional? f "insertions" []
      constructs := ← optional? f "constructs" [] }

end StructEdit
