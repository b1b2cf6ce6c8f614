import StructEdit.Insertion

/-!
# StructEdit.Action

Edit actions, which are what keys and requests are resolved to and what an
executer understands: an intent out of a closed set, a payload that says what the
intent leaves open, and the source the action came from. To do nothing is an
intent as well.
-/

namespace StructEdit

/-! ## Intents -/

/-- The edits that an executer understands: navigation, selection, deletion,
indentation, insertion, clipboard and history, menus and modes. -/
inductive Intent where
  | moveCursorLeft
  | moveCursorRight
  | moveCursorStart
  | moveCursorEnd
  | selectClosestTokenAbove
  | selectClosestTokenBelow
  | selectLeft
  | selectRight
  | selectToStart
  | selectToEnd
  | selectPrevToken
  | selectNextToken
  | deletePrevChar
  | deleteNextChar
  | deleteToStart
  | deleteToEnd
  | deletePrevToken
  | deleteNextToken
  | deleteStatement
  | deleteMultiLineStatement
  | deleteCurLine
  | deletePrevLine
  | deleteNextLine
  | deleteListItem
  | deleteStringLiteral
  | deleteFStringCurlyBrackets
  | deleteMultiEmptyLines
  | mergeWithEmptyLine
  | deleteEmptyAssignment
  | deleteEmptyModifier
  | indentForwards
  | indentBackwards
  | indentForwardsIfStmt
  | indentBackwardsIfStmt
  | insertChar
  | insertEmptyLine
  | insertLiteral
  | insertStatement
  | insertExpression
  | insertModifier
  | insertAssignmentModifier
  | insertEmptyList
  | insertEmptyListItem
  | insertBinaryOperator
  | insertUnaryOperator
  | insertVarAssignStatement
  | insertElseStatement
  | insertOperatorTkn
  | wrapExpressionWithItem
  | copy
  | paste
  | undo
  | redo
  | openAutocomplete
  | closeValidInsertMenu
  | selectMenuSuggestion
  | selectMenuSuggestionAbove
  | selectMenuSuggestionBelow
  | openSubMenu
  | closeSubMenu
  | closeDraftMode
  /-- Nothing is to be done. -/
  | ignore
deriving DecidableEq

instance : Named Intent where
  all := [
    .moveCursorLeft, .moveCursorRight, .moveCursorStart, .moveCursorEnd, .selectClosestTokenAbove,
    .selectClosestTokenBelow, .selectLeft, .selectRight, .selectToStart, .selectToEnd,
    .selectPrevToken, .selectNextToken, .deletePrevChar, .deleteNextChar, .deleteToStart,
    .deleteToEnd, .deletePrevToken, .deleteNextToken, .deleteStatement, .deleteMultiLineStatement,
    .deleteCurLine, .deletePrevLine, .deleteNextLine, .deleteListItem, .deleteStringLiteral,
    .deleteFStringCurlyBrackets, .deleteMultiEmptyLines, .mergeWithEmptyLine,
    .deleteEmptyAssignment, .deleteEmptyModifier, .indentForwards, .indentBackwards,
    .indentForwardsIfStmt, .indentBackwardsIfStmt, .insertChar, .insertEmptyLine, .insertLiteral,
    .insertStatement, .insertExpression, .insertModifier, .insertAssignmentModifier,
    .insertEmptyList, .insertEmptyListItem, .insertBinaryOperator, .insertUnaryOperator,
    .insertVarAssignStatement, .insertElseStatement, .insertOperatorTkn, .wrapExpressionWithItem,
    .copy, .paste, .undo, .redo, .openAutocomplete, .closeValidInsertMenu, .selectMenuSuggestion,
    .selectMenuSuggestionAbove, .selectMenuSuggestionBelow, .openSubMenu, .closeSubMenu,
    .closeDraftMode, .ignore]
  name
    | .moveCursorLeft => "MoveCursorLeft"
    | .moveCursorRight => "MoveCursorRight"
    | .moveCursorStart => "MoveCursorStart"
    | .moveCursorEnd => "MoveCursorEnd"
    | .selectClosestTokenAbove => "SelectClosestTokenAbove"
    | .selectClosestTokenBelow => "SelectClosestTokenBelow"
    | .selectLeft => "SelectLeft"
    | .selectRight => "SelectRight"
    | .selectToStart => "SelectToStart"
    | .selectToEnd => "SelectToEnd"
    | .selectPrevToken => "SelectPrevToken"
    | .selectNextToken => "SelectNextToken"
    | .deletePrevChar => "DeletePrevChar"
    | .deleteNextChar => "DeleteNextChar"
    | .deleteToStart => "DeleteToStart"
    | .deleteToEnd => "DeleteToEnd"
    | .deletePrevToken => "DeletePrevToken"
    | .deleteNextToken => "DeleteNextToken"
    | .deleteStatement => "DeleteStatement"
    | .deleteMultiLineStatement => "DeleteMultiLineStatement"
    | .deleteCurLine => "DeleteCurLine"
    | .deletePrevLine => "DeletePrevLine"
    | .deleteNextLine => "DeleteNextLine"
    | .deleteListItem => "DeleteListItem"
    | .deleteStringLiteral => "DeleteStringLiteral"
    | .deleteFStringCurlyBrackets => "DeleteFStringCurlyBrackets"
    | .deleteMultiEmptyLines => "DeleteMultiEmptyLines"
    | .mergeWithEmptyLine => "MergeWithEmptyLine"
    | .deleteEmptyAssignment => "DeleteEmptyAssignment"
    | .deleteEmptyModifier => "DeleteEmptyModifier"
    | .indentForwards => "IndentForwards"
    | .indentBackwards => "IndentBackwards"
    | .indentForwardsIfStmt => "IndentForwardsIfStmt"
    | .indentBackwardsIfStmt => "IndentBackwardsIfStmt"
    | .insertChar => "InsertChar"
    | .insertEmptyLine => "InsertEmptyLine"
    | .insertLiteral => "InsertLiteral"
    | .insertStatement => "InsertStatement"
    | .insertExpression => "InsertExpression"
    | .insertModifier => "InsertModifier"
    | .insertAssignmentModifier => "InsertAssignmentModifier"
    | .insertEmptyList => "InsertEmptyList"
    | .insertEmptyListItem => "InsertEmptyListItem"
    | .insertBinaryOperator => "InsertBinaryOperator"
    | .insertUnaryOperator => "InsertUnaryOperator"
    | .insertVarAssignStatement => "InsertVarAssignStatement"
    | .insertElseStatement => "InsertElseStatement"
    | .insertOperatorTkn => "InsertOperatorTkn"
    | .wrapExpressionWithItem => "WrapExpressionWithItem"
    | .copy => "Copy"
    | .paste => "Paste"
    | .undo => "Undo"
    | .redo => "Redo"
    | .openAutocomplete => "OpenAutocomplete"
    | .closeValidInsertMenu => "CloseValidInsertMenu"
    | .selectMenuSuggestion => "SelectMenuSuggestion"
    | .selectMenuSuggestionAbove => "SelectMenuSuggestionAbove"
    | .selectMenuSuggestionBelow => "SelectMenuSuggestionBelow"
    | .openSubMenu => "OpenSubMenu"
    | .closeSubMenu => "CloseSubMenu"
    | .closeDraftMode => "CloseDraftMode"
    | .ignore => "None"
  mem_all a := by cases a <;> decide
  find_name := by decide +kernel

namespace Intent

/-- The intents that only move the focus of the menu, or open and close menus. -/
def isMenuDirected : Intent → Bool
  | .closeValidInsertMenu | .selectMenuSuggestion | .selectMenuSuggestionAbove
  | .selectMenuSuggestionBelow | .openSubMenu | .closeSubMenu => true
  | _ => false

/-- The intents that move the cursor off the token it is in. -/
def leavesToken : Intent → Bool
  | .selectPrevToken | .selectNextToken | .selectClosestTokenAbove
  | .selectClosestTokenBelow => true
  | _ => false

end Intent

/-! ## Payloads -/

/-- A side of the cursor. -/
inductive Side where
  | left
  | right
deriving DecidableEq

instance : Named Side where
  all := [.left, .right]
  name
    | .left => "Left"
    | .right => "Right"
  mem_all a := by cases a <;> decide
  find_name := by decide +kernel

/-- Where an operator goes. -/
inductive Placement where
  /-- To the right of the expression that ends at the cursor. -/
  | toRight
  /-- To the left of the expression that starts at the cursor. -/
  | toLeft
  /-- In place of an empty hole. -/
  | replace
  /-- Around the expression that starts at the cursor. -/
  | wrap
deriving DecidableEq

instance : Named Placement where
  all := [.toRight, .toLeft, .replace, .wrap]
  name
    | .toRight => "ToRight"
    | .toLeft => "ToLeft"
    | .replace => "Replace"
    | .wrap => "Wrap"
  mem_all a := by cases a <;> decide
  find_name := by decide +kernel

/-- What an action has to say besides its intent. -/
inductive Payload where
  | listItem (side : Side)
  | curLine (pressedBackspace : Bool)
  | emptyLines (forward : Bool)
  | literal (type : DataType) (initialValue : Option String)
  | statement (construct : String)
  | expression (construct : String)
  | modifier (construct : String)
  | binaryOperator (operator : Operator) (placement : Placement)
  | unaryOperator (operator : Operator) (placement : Placement)
  | operatorToken (operator : Operator)
  /-- An `else`, or with a condition an `elif`; outside, it takes the indentation
  of the cursor, and otherwise the one before it. -/
  | elseStatement (hasCondition outside : Bool)
  | emptyListItem (side : Side)
  /-- The character that starts autocompleted text, the pattern it matched and
  the constructs on offer. -/
  | autocomplete (kind : AutocompleteKind) (firstChar : Char) (pattern : String)
      (validMatches : List Insertion)
  | node (node : NodeId)
deriving DecidableEq

/-! ## Actions -/

/-- Where an action came from. -/
inductive Source where
  | keyboard
  | toolbox
  | autocomplete
deriving DecidableEq

instance : Named Source where
  all := [.keyboard, .toolbox, .autocomplete]
  name
    | .keyboard => "Keyboard"
    | .toolbox => "Toolbox"
    | .autocomplete => "Autocomplete"
  mem_all a := by cases a <;> decide
  find_name := by decide +kernel

/-- An edit action. -/
structure Action where
  intent : Intent
  payload : Option Payload := none
  source : Source := .keyboard
deriving DecidableEq

namespace Action

/-- An intent and its payload, from the keyboard. -/
def withPayload (intent : Intent) (payload : Payload) : Action where
  intent
  payload := some payload

/-- To do nothing. -/
def ignore : Action := { intent := .ignore }

/-- Whether there is nothing to do. -/
def isIgnored (a : Action) : Bool := a.intent == .ignore

/-- The same action from another source. -/
def fromSource (a : Action) (source : Source) : Action := { a with source }

@[simp]
theorem isIgnored_ignore : ignore.isIgnored = true := rfl

@[simp]
theorem isIgnored_fromSource (a : Action) (s : Source) : (a.fromSource s).isIgnored = a.isIgnored :=
  rfl

@[simp]
theorem intent_fromSource (a : Action) (s : Source) : (a.fromSource s).intent = a.intent := rfl

@[simp]
theorem payload_fromSource (a : Action) (s : Source) : (a.fromSource s).payload = a.payload := rfl

@[simp]
theorem source_fromSource (a : Action) (s : Source) : (a.fromSource s).source = s := rfl

end Action

end StructEdit
