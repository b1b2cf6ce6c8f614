import StructEdit.Ladder
import StructEdit.Query

/-!
# StructEdit.Toolbox

Where an insertion goes. A toolbox button asks for a kind of insertion, and where
that is legal depends on the cursor: at an empty hole, to the left or right of an
expression, as a new item of a list. Each kind has a ladder of placements, and
the first one that is possible here gives the action; if none is, the request is
dropped.
-/

namespace StructEdit

namespace Toolbox

/-- What a placement may look at: the request and the predicates that hold. -/
structure Probe where
  request : Request
  holds : Predicate → Bool

/-- A placement of an insertion. -/
abbrev Placing := Rung Probe Action

/-! ## Actions -/

def statement (p : Probe) : Action := .withPayload .insertStatement (.statement p.request.construct)

def expression (p : Probe) : Action :=
  .withPayload .insertExpression (.expression p.request.construct)

def wrapWithItem (p : Probe) : Action :=
  .withPayload .wrapExpressionWithItem (.expression p.request.construct)

def modifier (p : Probe) : Action := .withPayload .insertModifier (.modifier p.request.construct)

/-- A binary operator, of a request that has an operator. -/
def binary (placement : Placement) (p : Probe) : Action :=
  match p.request.operator with
  | some operator => .withPayload .insertBinaryOperator (.binaryOperator operator placement)
  | none => .ignore

/-- A unary operator, of a request that has an operator. -/
def unary (placement : Placement) (p : Probe) : Action :=
  match p.request.operator with
  | some operator => .withPayload .insertUnaryOperator (.unaryOperator operator placement)
  | none => .ignore

def elseStatement (hasCondition outside : Bool) : Action :=
  .withPayload .insertElseStatement (.elseStatement hasCondition outside)

/-- The literal that a request asks for. -/
def literal (p : Probe) : Action :=
  match p.request.literal with
  | some spec => .withPayload .insertLiteral (.literal spec.type spec.initialValue)
  | none => .withPayload .insertLiteral (.literal .number none)

/-! ## Ladders -/

/-- A placement that is possible where a predicate holds. -/
def onPredicate (name : String) (predicate : Predicate) (result : Probe → Action) : Placing :=
  ⟨name, fun p => p.holds predicate, result⟩

/-- The placement of an operator, possible where a predicate holds. -/
def onOperator (name : String) (predicate : Predicate) (result : Probe → Action) : Placing :=
  ⟨name, fun p => p.request.operator.isSome && p.holds predicate, result⟩

/-- A placement that is possible unless the cursor is above an `else`. -/
def notAboveElse (result : Probe → Action) : Placing :=
  ⟨"not_above_else", fun p => !p.holds .isAboveElseStatement, result⟩

/-- A placement that is always possible. -/
def always (result : Probe → Action) : Placing := ⟨"always", fun _ => true, result⟩

/-- The placements of a kind of insertion, in the order in which they are tried. -/
def ladder : InsertKind → List Placing
  | .newVariableStmt =>
    [notAboveElse fun p =>
      .withPayload .insertVarAssignStatement (.statement p.request.construct)]
  | .elifStmt =>
    [onPredicate "can_insert_elif_stmt_at_cur_indent" .canInsertElifStmtAtCurIndent
      fun _ => elseStatement true true,
     onPredicate "can_insert_elif_stmt_at_prev_indent" .canInsertElifStmtAtPrevIndent
      fun _ => elseStatement true false]
  | .elseStmt =>
    [onPredicate "can_insert_else_stmt_at_cur_indent" .canInsertElseStmtAtCurIndent
      fun _ => elseStatement false true,
     onPredicate "can_insert_else_stmt_at_prev_indent" .canInsertElseStmtAtPrevIndent
      fun _ => elseStatement false false]
  | .whileStmt | .ifStmt | .forStmt | .listIndexAssignment | .printFunctionStmt
  | .varOperationStmt => [notAboveElse statement]
  | .rangeExpr | .randintExpr => [notAboveElse expression]
  | .listIndexAccessor | .listAppendMethod | .stringSplitMethod | .stringJoinMethod
  | .stringReplaceMethod | .stringFindMethod => [always modifier]
  | .assignmentModifier | .augmentedAssignmentModifier =>
    [always fun p => .withPayload .insertAssignmentModifier (.modifier p.request.construct)]
  | .lenExpr =>
    [onPredicate "at_empty_expression_hole" .atEmptyExpressionHole expression,
     onPredicate "at_left_of_expression" .atLeftOfExpression wrapWithItem]
  | .literal => [⟨"has_literal", fun p => p.request.literal.isSome, literal⟩]
  | .binaryExpr =>
    [onOperator "at_right_of_expression" .atRightOfExpression (binary .toRight),
     onOperator "at_left_of_expression" .atLeftOfExpression (binary .toLeft),
     onOperator "at_empty_expression_hole" .atEmptyExpressionHole (binary .replace)]
  | .unaryExpr =>
    [onOperator "at_left_of_expression" .atLeftOfExpression (unary .wrap),
     onOperator "at_empty_expression_hole" .atEmptyExpressionHole (unary .replace)]
  | .listLiteral =>
    [onPredicate "at_left_of_expression" .atLeftOfExpression wrapWithItem,
     onPredicate "at_empty_expression_hole" .atEmptyExpressionHole
      fun _ => { intent := .insertEmptyList }]
  | .castStrExpr =>
    [onPredicate "at_left_of_expression" .atLeftOfExpression wrapWithItem,
     onPredicate "at_empty_expression_hole" .atEmptyExpressionHole expression]
  | .listItem =>
    [onPredicate "can_add_list_item_to_right" .canAddListItemToRight
      fun _ => .withPayload .insertEmptyListItem (.emptyListItem .right),
     onPredicate "can_add_list_item_to_left" .canAddListItemToLeft
      fun _ => .withPayload .insertEmptyListItem (.emptyListItem .left)]
  | .valOperationExpr => [always expression]

/-- The names of the placements of a kind. -/
def ruleNames (kind : InsertKind) : List String := (ladder kind).map (·.name)

/-! ## Routing -/

/-- The action that a request comes to where some predicates hold. -/
def routeWhere (holds : Predicate → Bool) (request : Request) : Action :=
  match Rung.first? (ladder request.kind) ⟨request, holds⟩ with
  | some placing => (placing.result ⟨request, holds⟩).fromSource .toolbox
  | none => .ignore

/-- The action that a request comes to in a context. -/
def route (q : Queries) (request : Request) (context : Context) : Action :=
  routeWhere (fun p => q.check p context) request

end Toolbox

end StructEdit
