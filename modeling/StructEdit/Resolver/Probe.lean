import StructEdit.Key
import StructEdit.Toolbox
import StructEdit.Trigger

/-!
# StructEdit.Resolver.Probe

What the rules for keys look at: the key that was pressed, the context, the
answers about the document, the triggers, and whether a menu is open.
-/

namespace StructEdit

namespace Resolver

/-- A key press in its circumstances. -/
structure Probe where
  key : Key
  context : Context
  queries : Queries
  triggers : Triggers
  menuOpen : Bool

/-- The insertion that a text comes to: that of the first insertable record with
this text, if it can be placed in the context. -/
def commitFor? (q : Queries) (context : Context) (text : String) : Option Action := do
  let record ← (q.constructs context).find? fun r => r.matchText == text && r.isInsertable
  let action := (Toolbox.route q record.request context).fromSource .autocomplete
  if action.isIgnored then none else some action

namespace Probe

/-- Whether the cursor stands in text that can be edited. -/
def inText (p : Probe) : Bool := p.queries.textEditable p.context

/-- Whether a predicate holds. -/
def holds (p : Probe) (predicate : Predicate) : Bool := p.queries.check predicate p.context

def control (p : Probe) : Bool := p.key.modifiers.control

def shift (p : Probe) : Bool := p.key.modifiers.shift

/-- The character that is typed. -/
def typed? (p : Probe) : Option Char := p.key.typed?

/-- Whether the typed character satisfies a test. -/
def typedIs (p : Probe) (test : Char → Bool) : Bool := p.typed?.any test

/-- Whether the typed character starts a kind of autocompleted text at a place where
a predicate holds. -/
def starts (p : Probe) (predicate : Predicate) (kind : AutocompleteKind) : Bool :=
  p.typedIs (p.triggers.forKind kind).test && p.holds predicate

/-- The node in draft mode around the cursor. -/
def draftNode? (p : Probe) : Option NodeId := p.queries.draftNode p.context

/-- What can be inserted, on offer to autocompletion. -/
def validMatches (p : Probe) : List Insertion :=
  (p.queries.insertions p.context).filter (·.isInsertable)

/-- The autocompleted text with the typed character at its end. -/
def extendedText? (p : Probe) : Option String := do
  let token ← p.context.autocomplete
  let c ← p.typed?
  some (token.text.push c)

/-- The insertion that the typed character completes. -/
def completion? (p : Probe) : Option Action :=
  p.extendedText?.bind (commitFor? p.queries p.context)

/-- The insertion that the autocompleted text names as it is. -/
def commit? (p : Probe) : Option Action :=
  p.context.autocomplete.bind fun token => commitFor? p.queries p.context token.text

/-- Whether the token to the left can be edited, as far as there is one. -/
def leftEditable (p : Probe) : Bool := p.context.tokenToLeft.all (·.editable)

/-- Whether the token to the right can be edited and has text, as far as there is
one. -/
def rightEditable (p : Probe) : Bool :=
  p.context.tokenToRight.all fun t => t.editable && !t.isEmpty

/-- What a letter with Control stands for, in either case. -/
def shortcut? (p : Probe) : Option Intent :=
  if p.control then
    match p.key.char?.map Char.toLower with
    | some 'c' => some .copy
    | some 'v' => some .paste
    | some 'z' => some .undo
    | some 'y' => some .redo
    | _ => none
  else none

/-- Starts a kind of autocompleted text with the typed character. -/
def openAutocomplete (kind : AutocompleteKind) (p : Probe) : Action :=
  .withPayload .openAutocomplete <| .autocomplete kind (p.typed?.getD '\x00')
    (p.triggers.forKind kind).pattern p.validMatches

end Probe

end Resolver

end StructEdit
