import StructEdit.Proofs.Toolbox.Routing
import StructEdit.Resolver.Ladders

/-!
# StructEdit.Proofs.Resolver.Rungs

What the rungs of all ladders have in common. Each rung says for itself whether it moves
the cursor off its token, and what it says is what its action does; and an action that is
not from the keyboard inserts something. Main statements: `Resolver.marked_of_mem_ladder`
and `Resolver.insertsOrKeyed_of_mem_ladder`.
-/

namespace StructEdit

/-- The intents with which an autocompleted text is done: they leave the token, or close
the menu that goes with it. -/
def Intent.movesOff (i : Intent) : Bool := i.leavesToken || i == .closeValidInsertMenu

/-- To move off a token is to leave it or to close the menu at it. -/
@[simp]
theorem Intent.movesOff_eq_true_iff {i : Intent} :
    i.movesOff = true ↔ i.leavesToken = true ∨ i = .closeValidInsertMenu := by
  simp [movesOff]

/-- An insertion stays where the cursor is. -/
theorem Intent.movesOff_of_isInsertion {i : Intent} (h : i.isInsertion = true) :
    i.movesOff = false := by
  cases i <;> simp_all [isInsertion, movesOff, leavesToken]

/-- The action inserts something, or is from the keyboard. -/
def Action.InsertsOrKeyed (a : Action) : Prop :=
  a.intent.isInsertion = true ∨ a.source = .keyboard

namespace Resolver

/-! ## Marks -/

/-- The rung says that it moves off the token just when its action does. -/
def Marked (r : KeyRung) : Prop :=
  ∀ p, (r.result p).leaves = (r.result p).action.intent.movesOff

variable {name : String} {applies : Probe → Bool}

/-- A rung without a mark is marked rightly just when its action never moves off. -/
theorem marked_rung {action : Probe → Action} :
    Marked (rung name applies action) ↔ ∀ p, (action p).intent.movesOff = false :=
  forall_congr' fun _ => eq_comm

theorem marked_plain {intent : Intent} (h : intent.movesOff = false) :
    Marked (plain name applies intent) := marked_rung.2 fun _ => h

/-- A rung with a mark is marked rightly when its intent moves off. -/
theorem marked_moveOff {intent : Intent} (h : intent.movesOff = true) :
    Marked (moveOff name applies intent) := fun _ => h.symm

theorem marked_onPredicate {predicate : Predicate} {intent : Intent}
    (h : intent.movesOff = false) : Marked (onPredicate name predicate intent) := marked_plain h

theorem marked_onPredicateWith {predicate : Predicate} {intent : Intent} {payload : Payload}
    (h : intent.movesOff = false) : Marked (onPredicateWith name predicate intent payload) :=
  marked_rung.2 fun _ => h

/-- What is done to a node does not depend on there being one. -/
theorem marked_onNode {intent : Intent} {node : Probe → Option NodeId}
    (h : intent.movesOff = false) : Marked (rung name applies fun p => onNode intent (node p)) :=
  marked_rung.2 fun _ => h

theorem marked_ite {c : Probe → Bool} {i j : Intent} (hi : i.movesOff = false)
    (hj : j.movesOff = false) :
    Marked (rung name applies fun p => { intent := if c p then i else j }) := by
  refine marked_rung.2 fun p => ?_
  dsimp only
  split
  · exact hi
  · exact hj

/-- Starting autocompletion stays in the token. -/
theorem marked_starting {predicate : Predicate} {kind : AutocompleteKind} :
    Marked (starting name predicate kind) := marked_rung.2 fun _ => rfl

/-! ## Committed insertions -/

/-- The first of some records that is insertable and stands for a text. -/
def IsFirstFor (text : String) (records : List Insertion) (record : Insertion) : Prop :=
  record.matchText = text ∧ record.isInsertable = true ∧ ∃ before after,
    records = before ++ record :: after ∧
      ∀ r ∈ before, r.matchText = text → r.isInsertable = false

/-- A text commits the request of the first record that it names, if that one still comes to
something. -/
theorem commitFor?_eq_some_iff {q : Queries} {context : Context} {text : String} {a : Action} :
    commitFor? q context text = some a ↔ ∃ record,
      IsFirstFor text (q.constructs context) record ∧
        (Toolbox.route q record.request context).isIgnored = false ∧
        a = (Toolbox.route q record.request context).fromSource .autocomplete := by
  simp only [commitFor?, bind, Option.bind_eq_some_iff]
  refine exists_congr fun record => and_congr ?_ ?_
  · simp [IsFirstFor, List.find?_eq_some_iff_append, and_assoc, Decidable.imp_iff_not_or]
  · by_cases h : (Toolbox.route q record.request context).isIgnored = true <;>
      simp [h, eq_comm]

/-- What is committed inserts something. -/
theorem isInsertion_of_commitFor? {q : Queries} {context : Context} {text : String} {a : Action}
    (h : commitFor? q context text = some a) : a.intent.isInsertion = true := by
  obtain ⟨_, _, hroute, rfl⟩ := commitFor?_eq_some_iff.1 h
  exact Toolbox.isInsertion_route hroute

/-- A completed text inserts, so it does not move off the token. -/
theorem movesOff_completion? (p : Probe) : (p.completion?.getD .ignore).intent.movesOff = false := by
  cases h : p.completion? with
  | none => rfl
  | some a =>
    obtain ⟨text, _, ha⟩ := Option.bind_eq_some_iff.1 h
    exact Intent.movesOff_of_isInsertion (isInsertion_of_commitFor? ha)

/-- No shortcut moves off the token. -/
theorem movesOff_shortcut? (p : Probe) : (p.shortcut?.getD .ignore).movesOff = false := by
  unfold Probe.shortcut?
  split
  · split <;> rfl
  · rfl

/-! ## Every ladder -/

/-- Each rung for a character is marked rightly. -/
theorem marked_of_mem_printableLadder {r : KeyRung} (h : r ∈ printableLadder) : Marked r := by
  revert r
  simp only [printableLadder, List.forall_mem_cons, List.not_mem_nil, false_implies, marked_starting,
    marked_rung, movesOff_shortcut?, movesOff_completion?, implies_true, true_and, and_true]
  refine ⟨fun _ => rfl, marked_plain rfl, marked_plain rfl, fun _ => rfl, fun _ => rfl, fun p => ?_⟩
  split <;> rfl

/-- Every rung of every ladder says whether its action moves off the token. -/
theorem marked_of_mem_ladder {cls : KeyClass} {r : KeyRung} (h : r ∈ ladder cls) : Marked r := by
  cases cls with
  | printable => exact marked_of_mem_printableLadder h
  | up | down | left | right | escape =>
    revert r
    simp [ladder, upLadder, downLadder, leftLadder, rightLadder, escapeLadder, marked_plain,
      marked_moveOff, marked_onNode, Intent.movesOff, Intent.leavesToken]
  | _ =>
    revert r
    simp [ladder, homeLadder, endLadder, backspaceLadder, deleteLadder, tabLadder, backTabLadder,
      enterLadder, marked_plain, marked_onPredicate, marked_onPredicateWith, marked_onNode,
      marked_ite, Intent.movesOff, Intent.leavesToken]

/-! ## Sources of actions -/

/-- What a completed text comes to inserts something. -/
theorem insertsOrKeyed_completion? (p : Probe) : (p.completion?.getD .ignore).InsertsOrKeyed := by
  cases h : p.completion? with
  | none => exact .inr rfl
  | some a =>
    obtain ⟨text, _, ha⟩ := Option.bind_eq_some_iff.1 h
    exact .inl (isInsertion_of_commitFor? ha)

/-- What a rung of a ladder comes to inserts something or is from the keyboard. -/
theorem insertsOrKeyed_of_mem_ladder {cls : KeyClass} {r : KeyRung} (h : r ∈ ladder cls)
    (p : Probe) : (r.result p).action.InsertsOrKeyed := by
  revert r
  cases cls with
  | printable =>
    simp only [ladder, printableLadder, List.forall_mem_cons, List.not_mem_nil, false_implies,
      implies_true, and_true]
    refine ⟨.inr rfl, insertsOrKeyed_completion? p, .inr rfl, .inr rfl, .inr rfl, .inr rfl, .inr rfl,
      .inr rfl, ?_, .inr rfl, .inr rfl, .inr rfl, .inr rfl⟩
    dsimp only [rung]
    split <;> exact .inr rfl
  | _ =>
    simp [ladder, upLadder, downLadder, leftLadder, rightLadder, homeLadder, endLadder,
      backspaceLadder, deleteLadder, tabLadder, backTabLadder, enterLadder, escapeLadder, rung,
      plain, moveOff, onPredicate, onPredicateWith, onNode, Action.withPayload,
      Action.InsertsOrKeyed]

end Resolver

end StructEdit
