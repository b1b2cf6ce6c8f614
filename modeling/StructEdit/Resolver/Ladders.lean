import StructEdit.Resolver.Probe

/-!
# StructEdit.Resolver.Ladders

The ladders of rules for keys, one for each class of keys. The order of the rungs
matters: an earlier one decides even where a later one applies too.

A rung that moves the cursor off the token it is in says so (`moveOff`). On such
a rung an autocompleted text that names a construct is committed.
-/

namespace StructEdit

namespace Resolver

/-- What a rung comes to: an action, and whether it moves the cursor off its
token. -/
structure Move where
  action : Action
  leaves : Bool := false

/-- A rule for a key. -/
abbrev KeyRung := Rung Probe Move

/-- A rung with an action that depends on the circumstances. -/
def rung (name : String) (applies : Probe → Bool) (action : Probe → Action) : KeyRung :=
  ⟨name, applies, fun p => { action := action p }⟩

/-- A rung with an intent and nothing besides. -/
def plain (name : String) (applies : Probe → Bool) (intent : Intent) : KeyRung :=
  rung name applies fun _ => { intent }

/-- A rung with an intent that moves the cursor off its token. -/
def moveOff (name : String) (applies : Probe → Bool) (intent : Intent) : KeyRung :=
  ⟨name, applies, fun _ => { action := { intent }, leaves := true }⟩

/-- A rung with an intent where a predicate holds. -/
def onPredicate (name : String) (predicate : Predicate) (intent : Intent) : KeyRung :=
  plain name (·.holds predicate) intent

/-- A rung with an intent and its payload where a predicate holds. -/
def onPredicateWith (name : String) (predicate : Predicate) (intent : Intent) (payload : Payload) :
    KeyRung :=
  rung name (·.holds predicate) fun _ => .withPayload intent payload

/-- An intent on a node, if there is one. -/
def onNode (intent : Intent) (node : Option NodeId) : Action :=
  { intent, payload := node.map .node }

/-! ## Moving -/

def upLadder : List KeyRung :=
  [plain "menu_open" (·.menuOpen) .selectMenuSuggestionAbove,
   moveOff "closest_token_above" (fun _ => true) .selectClosestTokenAbove]

def downLadder : List KeyRung :=
  [plain "menu_open" (·.menuOpen) .selectMenuSuggestionBelow,
   moveOff "closest_token_below" (fun _ => true) .selectClosestTokenBelow]

def leftLadder : List KeyRung :=
  [plain "menu_open" (fun p => !p.inText && p.menuOpen) .closeSubMenu,
   moveOff "can_move_to_prev_token_at_text_editable"
    (fun p => p.inText && p.holds .canMoveToPrevTokenAtTextEditable) .selectPrevToken,
   plain "select_to_start" (fun p => p.inText && p.shift && p.control) .selectToStart,
   plain "select_left" (fun p => p.inText && p.shift) .selectLeft,
   plain "move_cursor_start" (fun p => p.inText && p.control) .moveCursorStart,
   plain "move_cursor_left" (·.inText) .moveCursorLeft,
   moveOff "prev_token" (fun _ => true) .selectPrevToken]

def rightLadder : List KeyRung :=
  [plain "menu_open" (fun p => !p.inText && p.menuOpen) .openSubMenu,
   moveOff "can_move_to_next_token_at_text_editable"
    (fun p => p.inText && p.holds .canMoveToNextTokenAtTextEditable) .selectNextToken,
   plain "select_to_end" (fun p => p.inText && p.shift && p.control) .selectToEnd,
   plain "select_right" (fun p => p.inText && p.shift) .selectRight,
   plain "move_cursor_end" (fun p => p.inText && p.control) .moveCursorEnd,
   plain "move_cursor_right" (·.inText) .moveCursorRight,
   moveOff "next_token" (fun _ => true) .selectNextToken]

def homeLadder : List KeyRung :=
  [plain "select_to_start" (fun p => p.inText && p.shift) .selectToStart,
   plain "move_cursor_start" (·.inText) .moveCursorStart]

def endLadder : List KeyRung :=
  [plain "select_to_end" (fun p => p.inText && p.shift) .selectToEnd,
   plain "move_cursor_end" (·.inText) .moveCursorEnd]

/-! ## Deleting -/

def backspaceLadder : List KeyRung :=
  [rung "delete_prev_char" (fun p => p.inText && p.leftEditable && !p.holds .onBeginningOfLine)
    fun p => { intent := if p.control then .deleteToStart else .deletePrevChar },
   rung "can_delete_prev_f_string_curly_brackets" (·.holds .canDeletePrevFStringCurlyBrackets)
    fun p => onNode .deleteFStringCurlyBrackets p.context.expressionToLeft,
   rung "can_delete_prev_string_literal" (·.holds .canDeletePrevStringLiteral)
    fun p => onNode .deleteStringLiteral p.context.expressionToLeft,
   onPredicate "can_merge_with_empty_line_above" .canMergeWithEmptyLineAbove .mergeWithEmptyLine,
   onPredicate "can_delete_prev_statement" .canDeletePrevStatement .deleteStatement,
   onPredicate "can_delete_prev_multi_line_statement" .canDeletePrevMultiLineStatement
    .deleteMultiLineStatement,
   onPredicateWith "can_delete_empty_lines_backward" .canDeleteEmptyLinesBackward
    .deleteMultiEmptyLines (.emptyLines false),
   onPredicate "can_delete_prev_line" .canDeletePrevLine .deletePrevLine,
   onPredicate "can_indent_back" .canIndentBack .indentBackwards,
   onPredicate "can_indent_back_if_statement" .canIndentBackIfStatement .indentBackwardsIfStmt,
   onPredicate "can_delete_prev_token" .canDeletePrevToken .deletePrevToken,
   onPredicateWith "can_backspace_cur_empty_line" .canBackspaceCurEmptyLine .deleteCurLine
    (.curLine true),
   onPredicateWith "can_delete_list_item_to_left" .canDeleteListItemToLeft .deleteListItem
    (.listItem .left),
   onPredicateWith "can_delete_list_item_to_right" .canDeleteListItemToRight .deleteListItem
    (.listItem .right),
   onPredicate "can_delete_assignment_with_empty_value" .canDeleteAssignmentWithEmptyValue
    .deleteEmptyAssignment,
   onPredicate "can_delete_empty_modifier" .canDeleteEmptyModifier .deleteEmptyModifier]

def deleteLadder : List KeyRung :=
  [rung "delete_next_char" (fun p => p.inText && p.rightEditable)
    fun p => { intent := if p.control then .deleteToEnd else .deleteNextChar },
   rung "can_delete_next_f_string_curly_brackets" (·.holds .canDeleteNextFStringCurlyBrackets)
    fun p => onNode .deleteFStringCurlyBrackets p.context.expressionToRight,
   rung "can_delete_next_string_literal" (·.holds .canDeleteNextStringLiteral)
    fun p => onNode .deleteStringLiteral p.context.expressionToRight,
   onPredicate "can_merge_with_empty_line_below" .canMergeWithEmptyLineBelow .mergeWithEmptyLine,
   onPredicate "can_delete_next_statement" .canDeleteNextStatement .deleteStatement,
   onPredicate "can_delete_next_multi_line_statement" .canDeleteNextMultiLineStatement
    .deleteMultiLineStatement,
   onPredicateWith "can_delete_empty_lines_forward" .canDeleteEmptyLinesForward
    .deleteMultiEmptyLines (.emptyLines true),
   onPredicate "can_delete_next_line" .canDeleteNextLine .deleteNextLine,
   onPredicateWith "can_delete_cur_line" .canDeleteCurLine .deleteCurLine (.curLine false),
   onPredicate "can_delete_next_token" .canDeleteNextToken .deleteNextToken,
   onPredicateWith "can_delete_list_item_to_left" .canDeleteListItemToLeft .deleteListItem
    (.listItem .left),
   onPredicateWith "can_delete_list_item_to_right" .canDeleteListItemToRight .deleteListItem
    (.listItem .right),
   onPredicate "can_delete_assignment_with_empty_value" .canDeleteAssignmentWithEmptyValue
    .deleteEmptyAssignment,
   onPredicate "can_delete_empty_modifier" .canDeleteEmptyModifier .deleteEmptyModifier]

/-! ## Indenting, confirming and leaving -/

def tabLadder : List KeyRung :=
  [onPredicate "can_indent_forward" .canIndentForward .indentForwards,
   onPredicate "can_indent_forward_if_statement" .canIndentForwardIfStatement .indentForwardsIfStmt]

def backTabLadder : List KeyRung :=
  [onPredicate "can_indent_back" .canIndentBack .indentBackwards,
   onPredicate "can_indent_back_if_statement" .canIndentBackIfStatement .indentBackwardsIfStmt]

def enterLadder : List KeyRung :=
  [plain "menu_open" (·.menuOpen) .selectMenuSuggestion,
   onPredicate "can_insert_empty_line" .canInsertEmptyLine .insertEmptyLine]

def escapeLadder : List KeyRung :=
  [moveOff "menu_open" (·.menuOpen) .closeValidInsertMenu,
   rung "containing_draft_node" (fun p => p.draftNode?.isSome)
    fun p => onNode .closeDraftMode p.draftNode?]

/-! ## Characters -/

/-- A rung that starts a kind of autocompleted text where a predicate holds. -/
def starting (name : String) (predicate : Predicate) (kind : AutocompleteKind) : KeyRung :=
  rung name (fun p => p.starts predicate kind) (Probe.openAutocomplete kind)

def printableLadder : List KeyRung :=
  [rung "clipboard_shortcut" (fun p => p.shortcut?.isSome)
    fun p => { intent := p.shortcut?.getD .ignore },
   -- the last character of the name of a construct inserts it
   rung "autocomplete_exact_match" (fun p => p.inText && p.completion?.isSome)
    fun p => p.completion?.getD .ignore,
   rung "in_text_operator"
    (fun p => p.inText && p.context.autocomplete.isNone &&
      p.typedIs p.triggers.inTextOperator.test &&
      p.context.tokenToLeft.any (!·.isStringLiteral) && p.holds .atRightOfExpression)
    (Probe.openAutocomplete .rightOfExpression),
   plain "insert_char" (fun p => p.inText && p.typed?.isSome) .insertChar,
   -- other keys held with a character, and all else that happens in text
   plain "unhandled_chord" (fun p => p.inText || p.typed?.isNone) .ignore,
   rung "number_literal" (fun p => p.typedIs Char.isDigit && p.holds .atEmptyExpressionHole)
    fun p => .withPayload .insertLiteral
      (.literal .number (p.typed?.map fun c => String.ofList [c])),
   rung "string_literal"
    (fun p => p.typedIs (fun c => c == '"' || c == '\'') && p.holds .atEmptyExpressionHole)
    fun _ => .withPayload .insertLiteral (.literal .string none),
   starting "expression_hole_autocomplete" .atEmptyExpressionHole .atExpressionHole,
   rung "operator_token"
    (fun p => (p.typed?.bind Operator.ofChar?).isSome && p.holds .atEmptyOperatorHole)
    fun p =>
      match p.typed?.bind Operator.ofChar? with
      | some operator => .withPayload .insertOperatorTkn (.operatorToken operator)
      | none => .ignore,
   starting "operator_hole_autocomplete" .atEmptyOperatorHole .atEmptyOperatorHole,
   starting "start_of_line_autocomplete" .onBeginningOfLine .startOfLine,
   starting "right_of_expression_autocomplete" .atRightOfExpression .rightOfExpression,
   starting "left_of_expression_autocomplete" .atLeftOfExpression .leftOfExpression]

/-! ## All of them -/

/-- The ladder of a class of keys. -/
def ladder : KeyClass → List KeyRung
  | .up => upLadder
  | .down => downLadder
  | .left => leftLadder
  | .right => rightLadder
  | .home => homeLadder
  | .endKey => endLadder
  | .delete => deleteLadder
  | .backspace => backspaceLadder
  | .tab => tabLadder
  | .backTab => backTabLadder
  | .enter => enterLadder
  | .escape => escapeLadder
  | .printable => printableLadder

/-- The names of the rungs of a class. -/
def ruleNames (cls : KeyClass) : List String := (ladder cls).map (·.name)

end Resolver

end StructEdit
