import StructEdit.Context

/-!
# StructEdit.Insertion

What can be inserted: the requests that a toolbox button or a menu makes, and
the records of constructs that are legal at the cursor or not.
-/

namespace StructEdit

/-! ## Operators -/

/-- An operator of the edited language. -/
inductive Operator where
  | add
  | subtract
  | multiply
  | divide
  | modulo
  | equal
  | notEqual
  | lessThan
  | lessThanEqual
  | greaterThan
  | greaterThanEqual
  | and
  | or
  | not
deriving DecidableEq

instance : Named Operator where
  all := [.add, .subtract, .multiply, .divide, .modulo, .equal, .notEqual, .lessThan,
    .lessThanEqual, .greaterThan, .greaterThanEqual, .and, .or, .not]
  name
    | .add => "Add"
    | .subtract => "Subtract"
    | .multiply => "Multiply"
    | .divide => "Divide"
    | .modulo => "Modulo"
    | .equal => "Equal"
    | .notEqual => "NotEqual"
    | .lessThan => "LessThan"
    | .lessThanEqual => "LessThanEqual"
    | .greaterThan => "GreaterThan"
    | .greaterThanEqual => "GreaterThanEqual"
    | .and => "And"
    | .or => "Or"
    | .not => "Not"
  mem_all a := by cases a <;> decide
  find_name := by decide +kernel

namespace Operator

/-- The operator as it is written in the edited language. -/
def symbol : Operator → String
  | .add => "+"
  | .subtract => "-"
  | .multiply => "*"
  | .divide => "/"
  | .modulo => "%"
  | .equal => "=="
  | .notEqual => "!="
  | .lessThan => "<"
  | .lessThanEqual => "<="
  | .greaterThan => ">"
  | .greaterThanEqual => ">="
  | .and => "and"
  | .or => "or"
  | .not => "not"

/-- The operator that is typed with one key. -/
def ofChar? : Char → Option Operator
  | '+' => some .add
  | '-' => some .subtract
  | '*' => some .multiply
  | '/' => some .divide
  | '%' => some .modulo
  | '=' => some .equal
  | '<' => some .lessThan
  | '>' => some .greaterThan
  | _ => none

/-- Whether the operator can stand before a single operand. -/
def isUnary : Operator → Bool
  | .not | .subtract => true
  | _ => false

end Operator

/-! ## Requests -/

/-- The kinds of insertion that a toolbox button asks for. -/
inductive InsertKind where
  | newVariableStmt
  | elifStmt
  | elseStmt
  | whileStmt
  | ifStmt
  | forStmt
  | listIndexAssignment
  | printFunctionStmt
  | rangeExpr
  | randintExpr
  | listIndexAccessor
  | assignmentModifier
  | augmentedAssignmentModifier
  | listAppendMethod
  | stringSplitMethod
  | stringJoinMethod
  | stringReplaceMethod
  | stringFindMethod
  | lenExpr
  | literal
  | binaryExpr
  | unaryExpr
  | listLiteral
  | castStrExpr
  | listItem
  | varOperationStmt
  | valOperationExpr
deriving DecidableEq

instance : Named InsertKind where
  all := [
    .newVariableStmt, .elifStmt, .elseStmt, .whileStmt, .ifStmt, .forStmt, .listIndexAssignment,
    .printFunctionStmt, .rangeExpr, .randintExpr, .listIndexAccessor, .assignmentModifier,
    .augmentedAssignmentModifier, .listAppendMethod, .stringSplitMethod, .stringJoinMethod,
    .stringReplaceMethod, .stringFindMethod, .lenExpr, .literal, .binaryExpr, .unaryExpr,
    .listLiteral, .castStrExpr, .listItem, .varOperationStmt, .valOperationExpr]
  name
    | .newVariableStmt => "new_variable_stmt"
    | .elifStmt => "elif_stmt"
    | .elseStmt => "else_stmt"
    | .whileStmt => "while_stmt"
    | .ifStmt => "if_stmt"
    | .forStmt => "for_stmt"
    | .listIndexAssignment => "list_index_assignment"
    | .printFunctionStmt => "print_function_stmt"
    | .rangeExpr => "range_expr"
    | .randintExpr => "randint_expr"
    | .listIndexAccessor => "list_index_accessor"
    | .assignmentModifier => "assignment_modifier"
    | .augmentedAssignmentModifier => "augmented_assignment_modifier"
    | .listAppendMethod => "list_append_method"
    | .stringSplitMethod => "string_split_method"
    | .stringJoinMethod => "string_join_method"
    | .stringReplaceMethod => "string_replace_method"
    | .stringFindMethod => "string_find_method"
    | .lenExpr => "len_expr"
    | .literal => "literal"
    | .binaryExpr => "binary_expr"
    | .unaryExpr => "unary_expr"
    | .listLiteral => "list_literal"
    | .castStrExpr => "cast_str_expr"
    | .listItem => "list_item"
    | .varOperationStmt => "var_operation_stmt"
    | .valOperationExpr => "val_operation_expr"
  mem_all a := by cases a <;> decide
  find_name := by decide +kernel

/-- The type of a literal to insert, and the text it starts with. -/
structure LiteralSpec where
  type : DataType
  initialValue : Option String := none
deriving DecidableEq

/-- A request to insert a construct. -/
structure Request where
  kind : InsertKind
  /-- The key of the template that is inserted. -/
  construct : String
  literal : Option LiteralSpec := none
  operator : Option Operator := none
deriving DecidableEq

/-! ## Records -/

/-- Whether a construct is legal at the cursor. -/
inductive Status where
  | valid
  | invalid
  /-- Insertable, but of a type that has to be converted. -/
  | draftMode
deriving DecidableEq

instance : Named Status where
  all := [.valid, .invalid, .draftMode]
  name
    | .valid => "Valid"
    | .invalid => "Invalid"
    | .draftMode => "DraftMode"
  mem_all a := by cases a <;> decide
  find_name := by decide +kernel

/-- A construct that may be inserted. -/
structure Insertion where
  /-- The name of the construct, which is the text of its menu option. -/
  construct : String
  /-- The text of an autocomplete token that stands for the construct. -/
  matchText : String
  request : Request
  status : Status
deriving DecidableEq

namespace Insertion

/-- Whether the construct can be inserted here. -/
def isInsertable (r : Insertion) : Bool := r.status != .invalid

theorem isInsertable_iff (r : Insertion) : r.isInsertable = true ↔ r.status ≠ .invalid := by
  simp [isInsertable]

end Insertion

end StructEdit
