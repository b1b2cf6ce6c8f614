import StructEdit.Toolbox

/-!
# StructEdit.Proofs.Toolbox.Routing

What requests are routed to. Whatever the predicates say, a request comes to an action
that inserts something, or to none. Main statement: `isInsertion_route`.
-/

namespace StructEdit

namespace Intent

/-- The intents that requests come to: to insert something, or to wrap what is there. -/
def isInsertion : Intent → Bool
  | .insertLiteral | .insertStatement | .insertExpression | .insertModifier
  | .insertAssignmentModifier | .insertEmptyList | .insertEmptyListItem | .insertBinaryOperator
  | .insertUnaryOperator | .insertVarAssignStatement | .insertElseStatement
  | .wrapExpressionWithItem => true
  | _ => false

variable {i : Intent}

/-- An insertion is not for the menus. -/
theorem isMenuDirected_of_isInsertion (h : i.isInsertion = true) : i.isMenuDirected = false := by
  cases i <;> simp_all [isInsertion, isMenuDirected]

/-- An insertion does not start autocompletion. -/
theorem ne_openAutocomplete_of_isInsertion (h : i.isInsertion = true) : i ≠ .openAutocomplete := by
  rintro rfl
  contradiction

theorem ne_ignore_of_isInsertion (h : i.isInsertion = true) : i ≠ .ignore := by
  rintro rfl
  contradiction

end Intent

/-- The action inserts something, or does nothing. -/
def Action.InsertsOrIgnores (a : Action) : Prop :=
  a.intent.isInsertion = true ∨ a.intent = .ignore

namespace Toolbox

/-- A binary operator is inserted if the request has one. -/
@[simp]
theorem insertsOrIgnores_binary (placement : Placement) (p : Probe) :
    (binary placement p).InsertsOrIgnores := by
  unfold binary
  split
  · exact .inl rfl
  · exact .inr rfl

@[simp]
theorem insertsOrIgnores_unary (placement : Placement) (p : Probe) :
    (unary placement p).InsertsOrIgnores := by
  unfold unary
  split
  · exact .inl rfl
  · exact .inr rfl

/-- A literal is always inserted, if only a number without digits. -/
@[simp]
theorem insertsOrIgnores_literal (p : Probe) : (literal p).InsertsOrIgnores := by
  unfold literal
  split <;> exact .inl rfl

/-- Every placement of every kind inserts something, or does nothing. -/
theorem insertsOrIgnores_of_mem_ladder {kind : InsertKind} {placing : Placing}
    (h : placing ∈ ladder kind) (p : Probe) : (placing.result p).InsertsOrIgnores := by
  revert placing
  cases kind with
  | literal | binaryExpr | unaryExpr => simp [ladder, onOperator]
  | _ =>
    -- the other placements give one and the same intent for every request
    simp [ladder, onPredicate, notAboveElse, always, Action.InsertsOrIgnores, Action.withPayload,
      statement, expression, wrapWithItem, modifier, elseStatement, Intent.isInsertion]

/-- A request inserts something where a placement is possible and does nothing elsewhere. -/
theorem insertsOrIgnores_routeWhere (holds : Predicate → Bool) (request : Request) :
    (routeWhere holds request).InsertsOrIgnores := by
  unfold routeWhere
  split
  · next placing hp =>
    exact insertsOrIgnores_of_mem_ladder (List.mem_of_find?_eq_some hp) _
  · exact .inr rfl

/-- A request that comes to anything comes to an insertion. -/
theorem isInsertion_route {q : Queries} {request : Request} {context : Context}
    (h : (route q request context).isIgnored = false) :
    (route q request context).intent.isInsertion = true := by
  refine (insertsOrIgnores_routeWhere _ request).resolve_right fun hi => ?_
  simp [Action.isIgnored, route, hi] at h

end Toolbox

end StructEdit
