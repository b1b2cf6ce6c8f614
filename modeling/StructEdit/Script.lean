import StructEdit.Query

/-!
# StructEdit.Script

Scripts: fixed answers to every question about a document. A script answers
without regard to the context it is asked in; at a position of its own choosing
the context is that of the script, moved there.
-/

namespace StructEdit

/-- Fixed answers to the questions about a document. -/
structure Script where
  context : Context := {}
  /-- The predicates that hold. -/
  holds : Predicate → Bool := fun _ => false
  draftNode : Option NodeId := none
  insertions : List Insertion := []
  constructs : List Insertion := []

namespace Script

/-- The predicates that hold, in the order of declaration. -/
def predicates (s : Script) : List Predicate := (Named.all : List Predicate).filter s.holds

/-- The script that answers with a list of predicates. -/
def holding (ps : List Predicate) : Predicate → Bool := fun p => ps.contains p

/-- Listing the predicates that hold and holding those listed come to the same. -/
@[simp]
theorem holding_predicates (s : Script) : holding s.predicates = s.holds := by
  funext p
  have hp : p ∈ (Named.all : List Predicate) := Named.mem_all p
  rw [holding, Bool.eq_iff_iff, List.contains_iff_mem, predicates, List.mem_filter]
  exact ⟨And.right, fun h => ⟨hp, h⟩⟩

/-- The questions answered by a script. -/
def queries (s : Script) : Queries where
  check p _ := s.holds p
  contextAt position := { s.context with position := position.getD s.context.position }
  textEditable c := c.textEditable
  draftNode _ := s.draftNode
  insertions _ := s.insertions
  constructs _ := s.constructs

@[simp]
theorem context_queries (s : Script) : s.queries.context = s.context := rfl

end Script

end StructEdit
