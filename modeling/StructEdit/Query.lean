import StructEdit.Action
import StructEdit.Predicate

/-!
# StructEdit.Query

What can be asked about the document. The syntax tree, its checks and the lists
of what can be inserted are kept elsewhere and answer these questions without
changing anything.
-/

namespace StructEdit

/-- The answers to the questions about the document as it is. -/
structure Queries where
  /-- Whether a predicate holds in a context. -/
  check : Predicate → Context → Bool
  /-- The context at a position, or at the cursor. -/
  contextAt : Option Position → Context
  /-- Whether text can be edited in a context. -/
  textEditable : Context → Bool
  /-- The node in draft mode around the cursor. -/
  draftNode : Context → Option NodeId
  /-- What can be inserted, with what cannot. -/
  insertions : Context → List Insertion
  /-- What can be inserted among the constructs of code. -/
  constructs : Context → List Insertion

/-- The context at the cursor. -/
def Queries.context (q : Queries) : Context := q.contextAt none

end StructEdit
