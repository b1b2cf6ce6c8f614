import StructEdit.Toolbox

/-!
# StructEdit.Proofs.Toolbox.Payloads

What the insertions of a request say. Each intent that a request can come to demands a
payload of its own, which is made of what the request says (`Toolbox.Carries`). Where a
placement makes the payload of a part that a request may lack, its condition is that the
request has that part. Main statement: `Toolbox.carries_route`.
-/

namespace StructEdit

namespace Toolbox

/-- The intents that a request can come to, each with the payload that it demands. -/
inductive Carries (request : Request) : Intent → Option Payload → Prop where
  | statement : Carries request .insertStatement (some (.statement request.construct))
  | variableStatement :
    Carries request .insertVarAssignStatement (some (.statement request.construct))
  | expression : Carries request .insertExpression (some (.expression request.construct))
  | wrapping : Carries request .wrapExpressionWithItem (some (.expression request.construct))
  | modifier : Carries request .insertModifier (some (.modifier request.construct))
  | assignmentModifier :
    Carries request .insertAssignmentModifier (some (.modifier request.construct))
  | literal (spec : LiteralSpec) (h : request.literal = some spec) :
    Carries request .insertLiteral (some (.literal spec.type spec.initialValue))
  /-- A binary operator goes beside an expression or into a hole. -/
  | binary (operator : Operator) (placement : Placement) (h : request.operator = some operator)
    (hp : placement ≠ .wrap) :
    Carries request .insertBinaryOperator (some (.binaryOperator operator placement))
  /-- A unary operator goes around an expression or into a hole. -/
  | unary (operator : Operator) (placement : Placement) (h : request.operator = some operator)
    (hp : placement = .wrap ∨ placement = .replace) :
    Carries request .insertUnaryOperator (some (.unaryOperator operator placement))
  /-- Only an `elif` has a condition. -/
  | elseStatement (outside : Bool) : Carries request .insertElseStatement
    (some (.elseStatement (request.kind == .elifStmt) outside))
  | emptyListItem (side : Side) :
    Carries request .insertEmptyListItem (some (.emptyListItem side))
  | emptyList : Carries request .insertEmptyList none
  | ignore : Carries request .ignore none

attribute [simp] Carries.variableStatement Carries.assignmentModifier Carries.emptyListItem
  Carries.emptyList

/-- A statement carries the construct of the request. -/
@[simp]
theorem carries_statement (p : Probe) :
    Carries p.request (statement p).intent (statement p).payload := .statement

/-- An expression carries the construct of the request. -/
@[simp]
theorem carries_expression (p : Probe) :
    Carries p.request (expression p).intent (expression p).payload := .expression

/-- An expression around an item carries the construct of the request. -/
@[simp]
theorem carries_wrapWithItem (p : Probe) :
    Carries p.request (wrapWithItem p).intent (wrapWithItem p).payload := .wrapping

/-- A modifier carries the construct of the request. -/
@[simp]
theorem carries_modifier (p : Probe) :
    Carries p.request (modifier p).intent (modifier p).payload := .modifier

/-- Where a placement of requests of a kind is possible, it gives an action with the payload
that its intent demands. -/
def Placing.Carries (kind : InsertKind) (placing : Placing) : Prop :=
  ∀ p : Probe, p.request.kind = kind → placing.applies p = true →
    Toolbox.Carries p.request (placing.result p).intent (placing.result p).payload

variable {kind : InsertKind} {name : String} {predicate : Predicate} {result : Probe → Action}

/-- A placement where a predicate holds carries what its action does. -/
theorem carries_onPredicate (h : ∀ p : Probe, p.request.kind = kind →
    Carries p.request (result p).intent (result p).payload) :
    (onPredicate name predicate result).Carries kind := fun p hkind _ => h p hkind

theorem carries_notAboveElse (h : ∀ p : Probe,
    Carries p.request (result p).intent (result p).payload) :
    (notAboveElse result).Carries kind := fun p _ _ => h p

theorem carries_always (h : ∀ p : Probe, Carries p.request (result p).intent (result p).payload) :
    (always result).Carries kind := fun p _ _ => h p

/-- An operator is placed only for a request that has one. -/
theorem carries_onOperator (h : ∀ (p : Probe) (operator : Operator),
    p.request.operator = some operator →
      Carries p.request (result p).intent (result p).payload) :
    (onOperator name predicate result).Carries kind := by
  intro p _ happ
  have hsome : p.request.operator.isSome = true := by
    simp only [onOperator, Bool.and_eq_true] at happ
    exact happ.1
  obtain ⟨operator, hop⟩ := Option.isSome_iff_exists.1 hsome
  exact h p operator hop

/-- A binary operator is placed to a side or in a hole, never around something. -/
theorem carries_binary {placement : Placement} (hp : placement ≠ .wrap) :
    (onOperator name predicate (binary placement)).Carries kind := by
  apply carries_onOperator
  intro p operator hop
  rw [binary, hop]
  exact .binary operator placement hop hp

/-- A unary operator is placed around something or in a hole. -/
theorem carries_unary {placement : Placement} (hp : placement = .wrap ∨ placement = .replace) :
    (onOperator name predicate (unary placement)).Carries kind := by
  apply carries_onOperator
  intro p operator hop
  rw [unary, hop]
  exact .unary operator placement hop hp

/-- A literal is placed only for a request that has one. -/
theorem carries_literal :
    Placing.Carries kind ⟨name, fun p => p.request.literal.isSome, literal⟩ := by
  intro p _ happ
  obtain ⟨spec, hspec⟩ := Option.isSome_iff_exists.1 happ
  simp only [literal, hspec]
  exact .literal spec hspec

/-- An `else` has a condition just when the request is for an `elif`. -/
theorem carries_elseStatement {hasCondition outside : Bool}
    (h : hasCondition = (kind == .elifStmt)) :
    (onPredicate name predicate fun _ => elseStatement hasCondition outside).Carries kind := by
  apply carries_onPredicate
  rintro p rfl
  rw [h]
  exact .elseStatement outside

/-- Every placement of every kind of request carries what its intent demands. -/
theorem carries_of_mem_ladder {placing : Placing} (h : placing ∈ ladder kind) :
    placing.Carries kind := by
  revert placing
  cases kind with
  | elifStmt | elseStmt => simp [ladder, carries_elseStatement]
  | literal => simp [ladder, carries_literal]
  | binaryExpr => simp [ladder, carries_binary]
  | unaryExpr => simp [ladder, carries_unary]
  | _ =>
    -- the other placements make one payload of every request
    simp [ladder, carries_onPredicate, carries_notAboveElse, carries_always, Action.withPayload]

/-- Whatever the predicates say, an action for a request carries the payload that its intent
demands. -/
theorem carries_routeWhere (holds : Predicate → Bool) (request : Request) :
    Carries request (routeWhere holds request).intent (routeWhere holds request).payload := by
  unfold routeWhere
  split
  · next placing hfirst =>
    have hmem : placing ∈ ladder request.kind := List.mem_of_find?_eq_some hfirst
    have happ : placing.applies ⟨request, holds⟩ = true := (Rung.first?_eq_some_iff.1 hfirst).1
    exact carries_of_mem_ladder hmem ⟨request, holds⟩ rfl happ
  · exact .ignore

/-- What a request comes to in a context carries what is demanded. -/
theorem carries_route (q : Queries) (request : Request) (context : Context) :
    Carries request (route q request context).intent (route q request context).payload :=
  carries_routeWhere _ request

end Toolbox

end StructEdit
