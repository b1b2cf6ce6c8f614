import StructEdit.Named

/-!
# StructEdit.Context

A snapshot of the structure around the cursor: the tokens and expressions beside
it, the autocomplete token it stands in, and whether text can be edited there. A
context is taken afresh for every event and never changed.
-/

namespace StructEdit

/-- A handle on a node of the syntax tree. -/
structure NodeId where
  value : UInt64
deriving DecidableEq

/-- A line and a column of the editor. -/
structure Position where
  line : UInt64
  column : UInt64
deriving DecidableEq

/-- The position that stands for none in particular. -/
def Position.origin : Position := ⟨0, 0⟩

/-- The type of a literal value. -/
inductive DataType where
  | number
  | string
  | boolean
deriving DecidableEq

instance : Named DataType where
  all := [.number, .string, .boolean]
  name
    | .number => "Number"
    | .string => "String"
    | .boolean => "Boolean"
  mem_all a := by cases a <;> decide
  find_name := by decide +kernel

/-! ## Tokens -/

/-- What kind of thing a token is. -/
inductive TokenKind where
  | identifier
  | keyword
  | literal (type : DataType)
  | operator
  | punctuation
  /-- A place that waits for an expression. -/
  | expressionHole
  /-- A place that waits for an operator. -/
  | operatorHole
  /-- Text that is not read as anything yet. -/
  | autocomplete
  /-- A fixed part of a construct, such as a bracket. -/
  | nonEditable
deriving DecidableEq

/-- Whether the user can type into tokens of a kind. -/
def TokenKind.editable : TokenKind → Bool
  | .nonEditable | .keyword | .punctuation | .expressionHole | .operatorHole => false
  | _ => true

/-- A token beside the cursor or under it. -/
structure Token where
  id : NodeId
  kind : TokenKind
  text : String
  editable : Bool
deriving DecidableEq

namespace Token

/-- A token that is editable just when its kind is. -/
def ofKind (id : UInt64) (kind : TokenKind) (text : String) : Token :=
  ⟨⟨id⟩, kind, text, kind.editable⟩

/-- Whether the token has no text. -/
def isEmpty (t : Token) : Bool := t.text == ""

def isStringLiteral (t : Token) : Bool := t.kind == .literal .string

end Token

/-- Where a piece of autocompleted text was started. -/
inductive AutocompleteKind where
  | startOfLine
  | atExpressionHole
  | atEmptyOperatorHole
  | leftOfExpression
  | rightOfExpression
deriving DecidableEq

instance : Named AutocompleteKind where
  all := [.startOfLine, .atExpressionHole, .atEmptyOperatorHole, .leftOfExpression,
    .rightOfExpression]
  name
    | .startOfLine => "StartOfLine"
    | .atExpressionHole => "AtExpressionHole"
    | .atEmptyOperatorHole => "AtEmptyOperatorHole"
    | .leftOfExpression => "LeftOfExpression"
    | .rightOfExpression => "RightOfExpression"
  mem_all a := by cases a <;> decide
  find_name := by decide +kernel

/-- The name of the trigger that starts text of this kind. -/
def AutocompleteKind.triggerName : AutocompleteKind → String
  | .startOfLine => "start_of_line"
  | .atExpressionHole => "expression_hole"
  | .atEmptyOperatorHole => "operator_hole"
  | .leftOfExpression => "left_of_expression"
  | .rightOfExpression => "right_of_expression"

/-- A token that collects typed text until it is read as a construct. -/
structure AutocompleteToken where
  id : NodeId
  text : String
  kind : AutocompleteKind
deriving DecidableEq

/-! ## Contexts -/

/-- The structure around the cursor. -/
structure Context where
  position : Position := .origin
  tokenToLeft : Option Token := none
  tokenToRight : Option Token := none
  /-- The expression that ends at the cursor. -/
  expressionToLeft : Option NodeId := none
  /-- The expression that starts at the cursor. -/
  expressionToRight : Option NodeId := none
  /-- The token that the cursor selects. -/
  selected : Option Token := none
  /-- The autocomplete token that the cursor stands in. -/
  autocomplete : Option AutocompleteToken := none
  textEditable : Bool := false
deriving DecidableEq

namespace Context

/-- The context of an empty document. -/
def empty : Context := {}

/-- Whether the cursor stands in an autocomplete token. -/
def inAutocomplete (c : Context) : Bool := c.autocomplete.isSome

/-- The same context inside an autocomplete token, whose text can be edited. -/
def withAutocomplete (c : Context) (token : AutocompleteToken) : Context :=
  { c with autocomplete := some token, textEditable := true }

end Context

end StructEdit
