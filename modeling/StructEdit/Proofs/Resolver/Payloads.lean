import StructEdit.Proofs.Resolver.Commit
import StructEdit.Proofs.Toolbox.Payloads

/-!
# StructEdit.Proofs.Resolver.Payloads

What the actions of keys say. Each intent that a key can come to demands a payload of its
own, which is made of what was typed and of what is at the cursor (`Resolver.Carries`); a
text that names a construct comes to what the request of a record demands. The defaults
that rungs fall back on are never used, since a rung applies only where it does not need
them. Main statement: `Resolver.carries_demanded_payload`.
-/

namespace StructEdit

/-! ## Patterns in use -/

/-- The configured pattern of the characters that start a kind of text. -/
def TriggerConfig.pattern (t : TriggerConfig) : AutocompleteKind → String
  | .startOfLine => t.startOfLine
  | .atExpressionHole => t.expressionHole
  | .atEmptyOperatorHole => t.operatorHole
  | .leftOfExpression => t.leftOfExpression
  | .rightOfExpression => t.rightOfExpression

/-- The pattern that is used for a kind of text: the configured one, or the default where
that one has no meaning. -/
def TriggerConfig.patternInUse (compile? : PatternCompiler) (t : TriggerConfig)
    (kind : AutocompleteKind) : String :=
  match compile? (t.pattern kind) with
  | .ok _ => t.pattern kind
  | .error _ => ({} : TriggerConfig).pattern kind

/-- A trigger has the configured pattern, or the fallback where that one has no meaning. -/
theorem Trigger.pattern_compile_eq (compile? : PatternCompiler) (pattern fallback : String) :
    (Trigger.compile compile? pattern fallback).pattern =
      match compile? pattern with
      | .ok _ => pattern
      | .error _ => fallback := by
  unfold Trigger.compile
  cases compile? pattern with
  | ok test => rfl
  | error e => cases compile? fallback <;> rfl

/-- The trigger for a kind of text has the pattern that is in use for it. -/
theorem Triggers.pattern_forKind (compile? : PatternCompiler) (config : TriggerConfig)
    (kind : AutocompleteKind) :
    ((Triggers.ofConfigWith compile? config).forKind kind).pattern =
      config.patternInUse compile? kind := by
  cases kind <;> exact Trigger.pattern_compile_eq compile? _ _

/-- Where a kind of text starts. -/
def AutocompleteKind.place : AutocompleteKind → Predicate
  | .startOfLine => .onBeginningOfLine
  | .atExpressionHole => .atEmptyExpressionHole
  | .atEmptyOperatorHole => .atEmptyOperatorHole
  | .leftOfExpression => .atLeftOfExpression
  | .rightOfExpression => .atRightOfExpression

/-! ## What is demanded -/

/-- The intents that say it all: no payload goes with them. -/
def Intent.isBare : Intent → Bool
  | .deleteCurLine | .deleteListItem | .deleteStringLiteral | .deleteFStringCurlyBrackets
  | .deleteMultiEmptyLines | .insertLiteral | .insertStatement | .insertExpression
  | .insertModifier | .insertAssignmentModifier | .insertEmptyListItem | .insertBinaryOperator
  | .insertUnaryOperator | .insertVarAssignStatement | .insertElseStatement | .insertOperatorTkn
  | .wrapExpressionWithItem | .openAutocomplete | .closeDraftMode => false
  | _ => true

/-- The predicate that an item of a list can be deleted on a side. -/
def Side.deletable : Side → Predicate
  | .left => .canDeleteListItemToLeft
  | .right => .canDeleteListItemToRight

namespace Resolver

/-- The expression beside the cursor that a key deletes: backspace takes the one to the left,
and delete the one to the right. -/
def adjacentExpression (key : Key) (context : Context) : Option NodeId :=
  if key.class? = some .backspace then context.expressionToLeft else context.expressionToRight

/-- The intents that a key can come to by itself, each with the payload that it demands. -/
inductive Carries (pattern : AutocompleteKind → String) (q : Queries) (key : Key)
    (context : Context) : Intent → Option Payload → Prop where
  /-- A digit starts a number. -/
  | number (c : Char) (h : key.typed? = some c) (hc : c.isDigit = true) :
    Carries pattern q key context .insertLiteral
      (some (.literal .number (some (String.ofList [c]))))
  /-- A quotation mark starts an empty string. -/
  | string (h : key.typed? = some '"' ∨ key.typed? = some '\'') :
    Carries pattern q key context .insertLiteral (some (.literal .string none))
  | operatorToken (c : Char) (operator : Operator) (h : key.typed? = some c)
    (hop : Operator.ofChar? c = some operator) :
    Carries pattern q key context .insertOperatorTkn (some (.operatorToken operator))
  | listItem (side : Side) (h : q.check side.deletable context = true) :
    Carries pattern q key context .deleteListItem (some (.listItem side))
  | curLine : Carries pattern q key context .deleteCurLine
    (some (.curLine (key.class? == some .backspace)))
  | emptyLines : Carries pattern q key context .deleteMultiEmptyLines
    (some (.emptyLines (key.class? == some .delete)))
  | stringLiteral : Carries pattern q key context .deleteStringLiteral
    ((adjacentExpression key context).map .node)
  | fStringCurlyBrackets : Carries pattern q key context .deleteFStringCurlyBrackets
    ((adjacentExpression key context).map .node)
  | draftMode (node : NodeId) (h : q.draftNode context = some node) :
    Carries pattern q key context .closeDraftMode (some (.node node))
  /-- A text is started with the typed character and offers all that can be inserted. -/
  | autocomplete (kind : AutocompleteKind) (c : Char) (h : key.typed? = some c)
    (hplace : q.check kind.place context = true) :
    Carries pattern q key context .openAutocomplete (some (.autocomplete kind c (pattern kind)
      ((q.insertions context).filter (·.isInsertable))))
  | bare (intent : Intent) (h : intent.isBare = true) : Carries pattern q key context intent none

/-- The action inserts the construct that the autocompleted text names together with the
typed character. -/
def Completes (q : Queries) (key : Key) (context : Context) (a : Action) : Prop :=
  a.source = .autocomplete ∧ ∃ token c record,
    context.autocomplete = some token ∧ key.typed? = some c ∧
      IsFirstFor (token.text.push c) (q.constructs context) record ∧
      Toolbox.Carries record.request a.intent a.payload

/-- The action carries what its intent demands: of a key by itself, or of a record that is
inserted. -/
def Probe.Delivers (p : Probe) (a : Action) : Prop :=
  (a.source = .keyboard ∧ Carries (fun kind => (p.triggers.forKind kind).pattern) p.queries p.key
    p.context a.intent a.payload) ∨ Completes p.queries p.key p.context a

/-- For a key of a class the rung gives, where it applies, an action that carries what is
demanded. -/
def KeyRung.Delivers (cls : KeyClass) (r : KeyRung) : Prop :=
  ∀ p : Probe, p.key.class? = some cls → r.applies p = true → p.Delivers (r.result p).action

variable {cls : KeyClass} {name : String} {applies : Probe → Bool} {predicate : Predicate}
  {intent : Intent}

/-! ## Rungs without a payload -/

/-- What a rung gives is from the keyboard, so it delivers what its action carries where it
applies. -/
theorem delivers_rung {action : Probe → Action} (h : ∀ p : Probe, p.key.class? = some cls →
    applies p = true → p.Delivers (action p)) : (rung name applies action).Delivers cls := h

/-- A rung for an intent that says it all delivers, since no payload is due. -/
theorem delivers_plain (h : intent.isBare = true) :
    (plain name applies intent).Delivers cls := fun _ _ _ => .inl ⟨rfl, .bare intent h⟩

theorem delivers_moveOff (h : intent.isBare = true) :
    (moveOff name applies intent).Delivers cls := fun _ _ _ => .inl ⟨rfl, .bare intent h⟩

/-- The same where a predicate has to hold. -/
theorem delivers_onPredicate (h : intent.isBare = true) :
    (onPredicate name predicate intent).Delivers cls := delivers_plain h

/-- A choice between two intents that say it all delivers. -/
theorem delivers_ite {c : Probe → Bool} {i j : Intent} (hi : i.isBare = true)
    (hj : j.isBare = true) :
    (rung name applies fun p => { intent := if c p then i else j }).Delivers cls := by
  apply delivers_rung
  intro p _ _
  cases c p
  · exact .inl ⟨rfl, .bare j hj⟩
  · exact .inl ⟨rfl, .bare i hi⟩

/-- A shortcut is an intent that says it all. -/
theorem delivers_shortcut :
    (rung name applies fun p => { intent := p.shortcut?.getD .ignore }).Delivers cls := by
  apply delivers_rung
  intro p _ _
  have hbare : (p.shortcut?.getD .ignore).isBare = true := by
    unfold Probe.shortcut?
    split
    · split <;> rfl
    · rfl
  exact .inl ⟨rfl, .bare _ hbare⟩

/-! ## Rungs that delete -/

/-- The side of a list item that is deleted is the one that the predicate asks for. -/
theorem delivers_listItem {side : Side} (h : side.deletable = predicate) :
    (onPredicateWith name predicate .deleteListItem (.listItem side)).Delivers cls := by
  apply delivers_rung
  intro p _ happ
  rw [← h] at happ
  exact .inl ⟨rfl, .listItem side happ⟩

/-- Deleting the line says whether Backspace was pressed, which the class of the key tells. -/
theorem delivers_curLine {pressedBackspace : Bool} (h : (cls == .backspace) = pressedBackspace) :
    (onPredicateWith name predicate .deleteCurLine (.curLine pressedBackspace)).Delivers cls := by
  apply delivers_rung
  intro p hkey _
  have hclass : (p.key.class? == some .backspace) = pressedBackspace := by rw [hkey]; exact h
  rw [← hclass]
  exact .inl ⟨rfl, .curLine⟩

/-- Deleting empty lines goes forward just for Delete. -/
theorem delivers_emptyLines {forward : Bool} (h : (cls == .delete) = forward) :
    (onPredicateWith name predicate .deleteMultiEmptyLines (.emptyLines forward)).Delivers cls := by
  apply delivers_rung
  intro p hkey _
  have hclass : (p.key.class? == some .delete) = forward := by rw [hkey]; exact h
  rw [← hclass]
  exact .inl ⟨rfl, .emptyLines⟩

/-- A string is deleted with the expression next to the cursor, if there is one on the side of the
key. -/
theorem delivers_stringLiteral {node : Probe → Option NodeId}
    (h : ∀ p : Probe, p.key.class? = some cls → adjacentExpression p.key p.context = node p) :
    (rung name applies fun p => onNode .deleteStringLiteral (node p)).Delivers cls := by
  apply delivers_rung
  intro p hkey _
  rw [← h p hkey]
  exact .inl ⟨rfl, .stringLiteral⟩

/-- The braces in a string are deleted with the expression on the side of the key. -/
theorem delivers_fStringCurlyBrackets {node : Probe → Option NodeId}
    (h : ∀ p : Probe, p.key.class? = some cls → adjacentExpression p.key p.context = node p) :
    (rung name applies fun p => onNode .deleteFStringCurlyBrackets (node p)).Delivers cls := by
  apply delivers_rung
  intro p hkey _
  rw [← h p hkey]
  exact .inl ⟨rfl, .fStringCurlyBrackets⟩

/-- Backspace looks to the left of the cursor. -/
theorem adjacentExpression_of_backspace {p : Probe} (h : p.key.class? = some .backspace) :
    adjacentExpression p.key p.context = p.context.expressionToLeft := by
  rw [adjacentExpression, if_pos h]

/-- Delete looks to the right of the cursor. -/
theorem adjacentExpression_of_delete {p : Probe} (h : p.key.class? = some .delete) :
    adjacentExpression p.key p.context = p.context.expressionToRight := by
  rw [adjacentExpression, h, if_neg (by decide)]

/-- Each rung for Backspace delivers what is demanded. -/
theorem delivers_of_mem_backspaceLadder : ∀ r ∈ backspaceLadder, r.Delivers .backspace := by
  simp only [backspaceLadder, List.forall_mem_cons, List.not_mem_nil, false_implies,
    implies_true, and_true]
  exact ⟨delivers_ite rfl rfl,
    delivers_fStringCurlyBrackets fun _ => adjacentExpression_of_backspace,
    delivers_stringLiteral fun _ => adjacentExpression_of_backspace,
    delivers_onPredicate rfl, delivers_onPredicate rfl, delivers_onPredicate rfl,
    delivers_emptyLines rfl, delivers_onPredicate rfl, delivers_onPredicate rfl,
    delivers_onPredicate rfl, delivers_onPredicate rfl, delivers_curLine rfl,
    delivers_listItem rfl, delivers_listItem rfl, delivers_onPredicate rfl,
    delivers_onPredicate rfl⟩

/-- Each rung for Delete delivers what is demanded. -/
theorem delivers_of_mem_deleteLadder : ∀ r ∈ deleteLadder, r.Delivers .delete := by
  simp only [deleteLadder, List.forall_mem_cons, List.not_mem_nil, false_implies,
    implies_true, and_true]
  exact ⟨delivers_ite rfl rfl,
    delivers_fStringCurlyBrackets fun _ => adjacentExpression_of_delete,
    delivers_stringLiteral fun _ => adjacentExpression_of_delete,
    delivers_onPredicate rfl, delivers_onPredicate rfl, delivers_onPredicate rfl,
    delivers_emptyLines rfl, delivers_onPredicate rfl, delivers_curLine rfl,
    delivers_onPredicate rfl, delivers_listItem rfl, delivers_listItem rfl,
    delivers_onPredicate rfl, delivers_onPredicate rfl⟩

/-! ## Rungs of Escape and of characters -/

/-- Draft mode is closed with the draft node, which is there where the rung applies. -/
theorem delivers_draftMode :
    (rung name (fun p => p.draftNode?.isSome) fun p => onNode .closeDraftMode p.draftNode?).Delivers
      cls := by
  apply delivers_rung
  intro p _ happ
  obtain ⟨node, hnode⟩ := Option.isSome_iff_exists.1 happ
  rw [hnode]
  exact .inl ⟨rfl, .draftMode node hnode⟩

/-- A rung for a completed text applies only where there is one, so it never falls back on doing
nothing. -/
theorem delivers_completion (h : ∀ p, applies p = true → p.completion?.isSome = true) :
    (rung name applies fun p => p.completion?.getD .ignore).Delivers cls := by
  apply delivers_rung
  intro p _ happ
  obtain ⟨a, ha⟩ := Option.isSome_iff_exists.1 (h p happ)
  rw [ha, Option.getD_some]
  obtain ⟨text, htext, hcommit⟩ := Option.bind_eq_some_iff.1 ha
  obtain ⟨token, htoken, c, hc, rfl⟩ : ∃ token, p.context.autocomplete = some token ∧
      ∃ c, p.key.typed? = some c ∧ token.text.push c = text := by
    simpa [Probe.extendedText?, Probe.typed?, Option.bind_eq_some_iff] using htext
  obtain ⟨record, hrecord, _, rfl⟩ := commitFor?_eq_some_iff.1 hcommit
  exact .inr ⟨rfl, token, c, record, htoken, hc, hrecord, Toolbox.carries_route _ _ _⟩

/-- A test of the typed character holds only where a character was typed. -/
theorem typed_of_typedIs {p : Probe} {test : Char → Bool} (h : p.typedIs test = true) :
    ∃ c, p.typed? = some c ∧ test c = true := by
  simpa [Probe.typedIs, Option.any_eq_true] using h

/-- Autocompletion starts with the character that was typed, at the place that the kind of text
asks for. -/
theorem delivers_openAutocomplete {kind : AutocompleteKind}
    (h : ∀ p, applies p = true →
      ∃ test, p.typedIs test = true ∧ p.holds kind.place = true) :
    (rung name applies (Probe.openAutocomplete kind)).Delivers cls := by
  apply delivers_rung
  intro p _ happ
  obtain ⟨test, htest, hplace⟩ := h p happ
  obtain ⟨c, hc, _⟩ := typed_of_typedIs htest
  rw [Probe.openAutocomplete, hc]
  exact .inl ⟨rfl, .autocomplete kind c hc hplace⟩

/-- A rung that starts autocompletion asks for the place of its kind. -/
theorem delivers_starting {kind : AutocompleteKind} (h : kind.place = predicate) :
    (starting name predicate kind).Delivers cls := by
  apply delivers_openAutocomplete
  intro p happ
  rw [Probe.starts, Bool.and_eq_true, ← h] at happ
  exact ⟨_, happ⟩

/-- A typed digit inserts a number literal that starts with it. -/
theorem delivers_number :
    (rung name (fun p => p.typedIs Char.isDigit && p.holds predicate) fun p =>
      .withPayload .insertLiteral
        (.literal .number (p.typed?.map fun c => String.ofList [c]))).Delivers cls := by
  apply delivers_rung
  intro p _ happ
  rw [Bool.and_eq_true] at happ
  obtain ⟨c, hc, hdigit⟩ := typed_of_typedIs happ.1
  rw [hc]
  exact .inl ⟨rfl, .number c hc hdigit⟩

/-- A typed quote inserts an empty string literal. -/
theorem delivers_string :
    (rung name (fun p => p.typedIs (fun c => c == '"' || c == '\'') && p.holds predicate) fun _ =>
      .withPayload .insertLiteral (.literal .string none)).Delivers cls := by
  apply delivers_rung
  intro p _ happ
  rw [Bool.and_eq_true] at happ
  obtain ⟨c, hc, hquote⟩ := typed_of_typedIs happ.1
  have hmark : p.typed? = some '"' ∨ p.typed? = some '\'' := by
    rw [hc]
    simpa using hquote
  exact .inl ⟨rfl, .string hmark⟩

/-- A typed operator is inserted as a token; where there is none the rung does not apply. -/
theorem delivers_operatorToken :
    (rung name (fun p => (p.typed?.bind Operator.ofChar?).isSome && p.holds predicate) fun p =>
      match p.typed?.bind Operator.ofChar? with
      | some operator => .withPayload .insertOperatorTkn (.operatorToken operator)
      | none => .ignore).Delivers cls := by
  apply delivers_rung
  intro p _ happ
  rw [Bool.and_eq_true] at happ
  obtain ⟨operator, hop⟩ := Option.isSome_iff_exists.1 happ.1
  obtain ⟨c, hc, hchar⟩ := Option.bind_eq_some_iff.1 hop
  rw [hop]
  exact .inl ⟨rfl, .operatorToken c operator hc hchar⟩

/-- Each rung for a character delivers what is demanded. -/
theorem delivers_of_mem_printableLadder : ∀ r ∈ printableLadder, r.Delivers .printable := by
  simp only [printableLadder, List.forall_mem_cons, List.not_mem_nil, false_implies,
    implies_true, and_true]
  have inText : ∀ p : Probe, (p.inText && p.context.autocomplete.isNone &&
      p.typedIs p.triggers.inTextOperator.test &&
      p.context.tokenToLeft.any (!·.isStringLiteral) && p.holds .atRightOfExpression) = true →
      ∃ test, p.typedIs test = true ∧ p.holds .atRightOfExpression = true := by
    intro p happ
    simp only [Bool.and_eq_true] at happ
    exact ⟨_, happ.1.1.2, happ.2⟩
  exact ⟨delivers_shortcut, delivers_completion (by simp), delivers_openAutocomplete inText,
    delivers_plain rfl, delivers_plain rfl, delivers_number, delivers_string,
    delivers_starting rfl, delivers_operatorToken, delivers_starting rfl, delivers_starting rfl,
    delivers_starting rfl, delivers_starting rfl⟩

/-! ## Every key -/

/-- Every rung of the ladder of a key gives, where it applies, an action that carries what is
demanded. -/
theorem delivers_of_mem_ladder (cls : KeyClass) : ∀ r ∈ ladder cls, r.Delivers cls := by
  cases cls with
  | backspace => exact delivers_of_mem_backspaceLadder
  | delete => exact delivers_of_mem_deleteLadder
  | printable => exact delivers_of_mem_printableLadder
  | escape =>
    simp only [ladder, escapeLadder, List.forall_mem_cons, List.not_mem_nil,
      false_implies, implies_true, and_true]
    exact ⟨delivers_moveOff rfl, delivers_draftMode⟩
  | left | right =>
    simp only [ladder, leftLadder, rightLadder, List.forall_mem_cons, List.not_mem_nil,
      false_implies, implies_true, and_true]
    exact ⟨delivers_plain rfl, delivers_moveOff rfl, delivers_plain rfl, delivers_plain rfl,
      delivers_plain rfl, delivers_plain rfl, delivers_moveOff rfl⟩
  | up | down =>
    simp only [ladder, upLadder, downLadder, List.forall_mem_cons, List.not_mem_nil,
      false_implies, implies_true, and_true]
    exact ⟨delivers_plain rfl, delivers_moveOff rfl⟩
  | home | endKey | tab | backTab | enter =>
    simp only [ladder, homeLadder, endLadder, tabLadder, backTabLadder, enterLadder,
      List.forall_mem_cons, List.not_mem_nil,
      false_implies, implies_true, and_true]
    exact ⟨delivers_plain rfl, delivers_plain rfl⟩

/-- What a key comes to carries what is demanded. -/
theorem delivers_resolve (r : Resolver) (q : Queries) (menuOpen : Bool) (key : Key)
    (context : Context) :
    Probe.Delivers ⟨key, context, q, r.triggers, menuOpen⟩
      (r.resolve q menuOpen key context).action := by
  have hignore : Probe.Delivers ⟨key, context, q, r.triggers, menuOpen⟩ .ignore :=
    .inl ⟨rfl, .bare .ignore rfl⟩
  unfold resolve
  split
  · exact hignore
  · next cls hcls =>
    dsimp only
    split
    · exact hignore
    · next rung hrung =>
      exact delivers_of_mem_ladder cls rung (List.mem_of_find?_eq_some hrung) _ hcls
        (Rung.first?_eq_some_iff.1 hrung).1

/-- Every action that a key or a request comes to carries just the payload that its intent
demands. What a key comes to is its own, or the insertion of the first insertable record for
the autocompleted text with the typed character; what it commits is the insertion of the
first one for the text as it is; and what a request comes to is made of that request. -/
theorem carries_demanded_payload (compile? : PatternCompiler) (config : ResolverConfig)
    (q : Queries) (menuOpen : Bool) (key : Key) (context : Context) (request : Request) :
    let resolution := (ofConfigWith compile? config).resolve q menuOpen key context
    let action := resolution.action
    let routed := Toolbox.route q request context
    ((action.source = .keyboard ∧ Carries (config.triggers.patternInUse compile?) q key context
        action.intent action.payload) ∨ Completes q key context action) ∧
      (∀ a, resolution.autoCommit = some a → a.source = .autocomplete ∧ ∃ token record,
        context.autocomplete = some token ∧
          IsFirstFor token.text (q.constructs context) record ∧
          Toolbox.Carries record.request a.intent a.payload) ∧
      Toolbox.Carries request routed.intent routed.payload := by
  intro resolution action routed
  constructor
  · have h := delivers_resolve (ofConfigWith compile? config) q menuOpen key context
    have hpattern : (fun kind => ((ofConfigWith compile? config).triggers.forKind kind).pattern) =
        config.triggers.patternInUse compile? :=
      funext fun kind => Triggers.pattern_forKind compile? config.triggers kind
    rw [Probe.Delivers, hpattern] at h
    exact h
  constructor
  · intro a ha
    obtain ⟨_, _, token, record, htoken, hrecord, _, rfl⟩ :=
      (autoCommit_eq_some_iff compile? config q menuOpen key context a).1 ha
    exact ⟨rfl, token, record, htoken, hrecord, Toolbox.carries_route q record.request context⟩
  · exact Toolbox.carries_route q request context

end Resolver

end StructEdit
