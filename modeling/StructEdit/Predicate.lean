import StructEdit.Named
import StructEdit.Text.Blank

/-!
# StructEdit.Predicate

The questions about the structure around the cursor. Each predicate is one
precise question, and the ladders of rules refer to predicates by value, so that
a ladder can be followed without a syntax tree at hand.
-/

namespace StructEdit

/-- A question about the structure around the cursor: about the place of the
cursor, about what can be deleted there, backward or forward, about indentation,
and about what can be inserted. -/
inductive Predicate where
  | onBeginningOfLine
  | canMoveToPrevTokenAtTextEditable
  | canMoveToNextTokenAtTextEditable
  | canDeletePrevFStringCurlyBrackets
  | canDeleteNextFStringCurlyBrackets
  | canDeletePrevStringLiteral
  | canDeleteNextStringLiteral
  | canMergeWithEmptyLineAbove
  | canMergeWithEmptyLineBelow
  | canDeletePrevStatement
  | canDeleteNextStatement
  | canDeletePrevMultiLineStatement
  | canDeleteNextMultiLineStatement
  | canDeleteEmptyLinesBackward
  | canDeleteEmptyLinesForward
  | canDeletePrevLine
  | canDeleteNextLine
  | canDeletePrevToken
  | canDeleteNextToken
  | canBackspaceCurEmptyLine
  | canDeleteCurLine
  | canDeleteListItemToLeft
  | canDeleteListItemToRight
  | canDeleteAssignmentWithEmptyValue
  | canDeleteEmptyModifier
  | canIndentBack
  | canIndentBackIfStatement
  | canIndentForward
  | canIndentForwardIfStatement
  | canInsertEmptyLine
  | atEmptyExpressionHole
  | atEmptyOperatorHole
  | atLeftOfExpression
  | atRightOfExpression
  | canAddListItemToLeft
  | canAddListItemToRight
  | canInsertElifStmtAtCurIndent
  | canInsertElifStmtAtPrevIndent
  | canInsertElseStmtAtCurIndent
  | canInsertElseStmtAtPrevIndent
  | isAboveElseStatement
deriving DecidableEq

instance : Named Predicate where
  all := [
    .onBeginningOfLine, .canMoveToPrevTokenAtTextEditable, .canMoveToNextTokenAtTextEditable,
    .canDeletePrevFStringCurlyBrackets, .canDeleteNextFStringCurlyBrackets,
    .canDeletePrevStringLiteral, .canDeleteNextStringLiteral, .canMergeWithEmptyLineAbove,
    .canMergeWithEmptyLineBelow, .canDeletePrevStatement, .canDeleteNextStatement,
    .canDeletePrevMultiLineStatement, .canDeleteNextMultiLineStatement,
    .canDeleteEmptyLinesBackward, .canDeleteEmptyLinesForward, .canDeletePrevLine,
    .canDeleteNextLine, .canDeletePrevToken, .canDeleteNextToken, .canBackspaceCurEmptyLine,
    .canDeleteCurLine, .canDeleteListItemToLeft, .canDeleteListItemToRight,
    .canDeleteAssignmentWithEmptyValue, .canDeleteEmptyModifier, .canIndentBack,
    .canIndentBackIfStatement, .canIndentForward, .canIndentForwardIfStatement,
    .canInsertEmptyLine, .atEmptyExpressionHole, .atEmptyOperatorHole, .atLeftOfExpression,
    .atRightOfExpression, .canAddListItemToLeft, .canAddListItemToRight,
    .canInsertElifStmtAtCurIndent, .canInsertElifStmtAtPrevIndent, .canInsertElseStmtAtCurIndent,
    .canInsertElseStmtAtPrevIndent, .isAboveElseStatement]
  name
    | .onBeginningOfLine => "on_beginning_of_line"
    | .canMoveToPrevTokenAtTextEditable => "can_move_to_prev_token_at_text_editable"
    | .canMoveToNextTokenAtTextEditable => "can_move_to_next_token_at_text_editable"
    | .canDeletePrevFStringCurlyBrackets => "can_delete_prev_f_string_curly_brackets"
    | .canDeleteNextFStringCurlyBrackets => "can_delete_next_f_string_curly_brackets"
    | .canDeletePrevStringLiteral => "can_delete_prev_string_literal"
    | .canDeleteNextStringLiteral => "can_delete_next_string_literal"
    | .canMergeWithEmptyLineAbove => "can_merge_with_empty_line_above"
    | .canMergeWithEmptyLineBelow => "can_merge_with_empty_line_below"
    | .canDeletePrevStatement => "can_delete_prev_statement"
    | .canDeleteNextStatement => "can_delete_next_statement"
    | .canDeletePrevMultiLineStatement => "can_delete_prev_multi_line_statement"
    | .canDeleteNextMultiLineStatement => "can_delete_next_multi_line_statement"
    | .canDeleteEmptyLinesBackward => "can_delete_empty_lines_backward"
    | .canDeleteEmptyLinesForward => "can_delete_empty_lines_forward"
    | .canDeletePrevLine => "can_delete_prev_line"
    | .canDeleteNextLine => "can_delete_next_line"
    | .canDeletePrevToken => "can_delete_prev_token"
    | .canDeleteNextToken => "can_delete_next_token"
    | .canBackspaceCurEmptyLine => "can_backspace_cur_empty_line"
    | .canDeleteCurLine => "can_delete_cur_line"
    | .canDeleteListItemToLeft => "can_delete_list_item_to_left"
    | .canDeleteListItemToRight => "can_delete_list_item_to_right"
    | .canDeleteAssignmentWithEmptyValue => "can_delete_assignment_with_empty_value"
    | .canDeleteEmptyModifier => "can_delete_empty_modifier"
    | .canIndentBack => "can_indent_back"
    | .canIndentBackIfStatement => "can_indent_back_if_statement"
    | .canIndentForward => "can_indent_forward"
    | .canIndentForwardIfStatement => "can_indent_forward_if_statement"
    | .canInsertEmptyLine => "can_insert_empty_line"
    | .atEmptyExpressionHole => "at_empty_expression_hole"
    | .atEmptyOperatorHole => "at_empty_operator_hole"
    | .atLeftOfExpression => "at_left_of_expression"
    | .atRightOfExpression => "at_right_of_expression"
    | .canAddListItemToLeft => "can_add_list_item_to_left"
    | .canAddListItemToRight => "can_add_list_item_to_right"
    | .canInsertElifStmtAtCurIndent => "can_insert_elif_stmt_at_cur_indent"
    | .canInsertElifStmtAtPrevIndent => "can_insert_elif_stmt_at_prev_indent"
    | .canInsertElseStmtAtCurIndent => "can_insert_else_stmt_at_cur_indent"
    | .canInsertElseStmtAtPrevIndent => "can_insert_else_stmt_at_prev_indent"
    | .isAboveElseStatement => "is_above_else_statement"
  mem_all a := by cases a <;> decide
  find_name := by decide +kernel

namespace Predicate

/-- The predicate of a name that may have blank space around it. -/
def ofPaddedName? (s : String) : Option Predicate :=
  Named.ofName? (String.ofList (Text.trim s.toList))

end Predicate

end StructEdit
