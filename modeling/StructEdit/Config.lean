import StructEdit.Dictionary
import StructEdit.Named

/-!
# StructEdit.Config

The configuration: the patterns that start autocompletion, whether leaving a
token commits it, and the categories of the menu of constructs. The default
configuration is given field by field, and every field that a configuration
leaves out takes its default.
-/

namespace StructEdit

/-! ## Keys -/

/-- The pattern of the characters that start a word. -/
def wordTrigger : String := "^[a-zA-Z]$"

/-- The pattern of the characters that go on behind an expression. -/
def rightOfExpressionTrigger : String := "^[a-zA-Z.+\\-*/%<>=!]$"

/-- The pattern of the characters that an operator starts with. -/
def inTextOperatorTrigger : String := "^[+\\-*/%<>=!]$"

/-- The patterns of the characters that start autocompletion, one for each place
where it can start and one for operators typed in the text of a token. -/
structure TriggerConfig where
  startOfLine : String := wordTrigger
  expressionHole : String := wordTrigger
  operatorHole : String := wordTrigger
  leftOfExpression : String := wordTrigger
  rightOfExpression : String := rightOfExpressionTrigger
  inTextOperator : String := inTextOperatorTrigger
deriving DecidableEq

/-- What the patterns are for. -/
inductive TriggerName where
  | startOfLine | expressionHole | operatorHole | leftOfExpression | rightOfExpression
  | inTextOperator
deriving DecidableEq

instance : Named TriggerName where
  all := [.startOfLine, .expressionHole, .operatorHole, .leftOfExpression, .rightOfExpression,
    .inTextOperator]
  name
    | .startOfLine => "start_of_line"
    | .expressionHole => "expression_hole"
    | .operatorHole => "operator_hole"
    | .leftOfExpression => "left_of_expression"
    | .rightOfExpression => "right_of_expression"
    | .inTextOperator => "in_text_operator"
  mem_all a := by cases a <;> decide
  find_name := by decide +kernel

namespace TriggerConfig

/-- The patterns with what they are for. -/
def named (t : TriggerConfig) : List (TriggerName × String) :=
  [(.startOfLine, t.startOfLine), (.expressionHole, t.expressionHole),
   (.operatorHole, t.operatorHole), (.leftOfExpression, t.leftOfExpression),
   (.rightOfExpression, t.rightOfExpression), (.inTextOperator, t.inTextOperator)]

/-- The patterns with their names. -/
def patterns (t : TriggerConfig) : List (String × String) :=
  t.named.map fun p => (Named.name p.1, p.2)

theorem patterns_eq (t : TriggerConfig) : t.patterns =
    [("start_of_line", t.startOfLine), ("expression_hole", t.expressionHole),
     ("operator_hole", t.operatorHole), ("left_of_expression", t.leftOfExpression),
     ("right_of_expression", t.rightOfExpression), ("in_text_operator", t.inTextOperator)] := rfl

end TriggerConfig

/-- How keys are resolved. -/
structure ResolverConfig where
  /-- Whether an autocomplete token that names a construct is committed when the
  cursor leaves it. -/
  autoCommitOnBlur : Bool := true
  triggers : TriggerConfig := {}
deriving DecidableEq

/-! ## Menus -/

/-- A named menu. An option that names another category is a link to it. -/
structure Category where
  name : String
  options : List String := []
deriving DecidableEq

/-- The categories of the menu of constructs by default. -/
def defaultCategories : List Category :=
  [⟨"Top", ["Literals", "Function Calls", "Operators", "Control Statements",
      "Member Function Calls", "Other"]⟩,
   ⟨"Literals", ["\"\"", "0", "True", "False", "[]"]⟩,
   ⟨"Function Calls", ["print()", "len()", "randint()", "range()"]⟩,
   ⟨"Operators", ["Comparator", "Arithmetic", "Boolean"]⟩,
   ⟨"Control Statements", ["if", "elif", "else", "while", "for"]⟩,
   ⟨"Comparator", ["==", "!=", ">", ">=", "<", "<="]⟩,
   ⟨"Arithmetic", ["+", "-", "/", "*"]⟩,
   ⟨"Boolean", ["and", "or", "not"]⟩,
   ⟨"Member Function Calls", [".append()", ".find()", ".split()", ".replace()", ".join()"]⟩,
   ⟨"Other", ["var = "]⟩]

/-- The category that the menu of constructs starts with by default. -/
def defaultRoot : String := "Top"

/-- The menu of constructs: the category it starts with, the categories in the
order they are shown, and documentation for option texts. -/
structure MenuConfig where
  root : String := defaultRoot
  categories : List Category := defaultCategories
  docs : Dictionary := .empty
deriving DecidableEq

/-- The options of the categories by name. -/
def MenuConfig.entries (m : MenuConfig) : List (String × List String) :=
  m.categories.map fun c => (c.name, c.options)

/-! ## The whole -/

/-- A configuration. -/
structure Config where
  resolver : ResolverConfig := {}
  menu : MenuConfig := {}
deriving DecidableEq

/-- The default configuration. -/
def Config.default : Config := {}

end StructEdit
