import StructEdit.Config
import StructEdit.Context
import StructEdit.Pattern.Limits

/-!
# StructEdit.Trigger

Triggers: the patterns of the characters that start autocompletion, made ready
for use. What a pattern means is given by a compiler of patterns, of which
`Pattern.compile?` is the one in use. Where a configured pattern has no meaning
the default pattern takes its place.
-/

namespace StructEdit

/-- What is said of a pattern that has no meaning, if anything is. -/
structure PatternError where
  words : Option String := none
deriving DecidableEq

/-- What patterns mean: the characters that one matches if it is well-formed, or else what is
wrong with it. -/
abbrev PatternCompiler := String → Except PatternError (Char → Bool)

/-- The characters whose text a pattern is found in. Nothing is said of a pattern that is not
well-formed. -/
def Pattern.compile? : PatternCompiler := fun text =>
  match Pattern.parse? text with
  | some pattern => .ok pattern.matchesChar
  | none => .error {}

/-- A pattern and the characters it matches. -/
structure Trigger where
  pattern : String
  test : Char → Bool

/-- The trigger of a pattern, or of the fallback if the pattern has no meaning. -/
def Trigger.compile (compile? : PatternCompiler) (pattern fallback : String) : Trigger :=
  match compile? pattern with
  | .ok test => ⟨pattern, test⟩
  | .error _ =>
    match compile? fallback with
    | .ok test => ⟨fallback, test⟩
    | .error _ => ⟨fallback, fun _ => false⟩

/-- The triggers of a configuration. -/
structure Triggers where
  startOfLine : Trigger
  expressionHole : Trigger
  operatorHole : Trigger
  leftOfExpression : Trigger
  rightOfExpression : Trigger
  inTextOperator : Trigger

namespace Triggers

/-- The triggers of the configured patterns. -/
def ofConfigWith (compile? : PatternCompiler) (config : TriggerConfig) : Triggers :=
  let default : TriggerConfig := {}
  { startOfLine := .compile compile? config.startOfLine default.startOfLine
    expressionHole := .compile compile? config.expressionHole default.expressionHole
    operatorHole := .compile compile? config.operatorHole default.operatorHole
    leftOfExpression := .compile compile? config.leftOfExpression default.leftOfExpression
    rightOfExpression := .compile compile? config.rightOfExpression default.rightOfExpression
    inTextOperator := .compile compile? config.inTextOperator default.inTextOperator }

/-- The triggers of the configured patterns as they are meant. -/
def ofConfig (config : TriggerConfig) : Triggers := ofConfigWith Pattern.compile? config

/-- The trigger that starts a kind of autocompleted text. -/
def forKind (t : Triggers) : AutocompleteKind → Trigger
  | .startOfLine => t.startOfLine
  | .atExpressionHole => t.expressionHole
  | .atEmptyOperatorHole => t.operatorHole
  | .leftOfExpression => t.leftOfExpression
  | .rightOfExpression => t.rightOfExpression

end Triggers

end StructEdit
