import StructEdit.Proofs.Resolver.Commit

/-!
# StructEdit.Proofs.Resolver.MenuKeys

Keys that steer an open menu. Six ladders begin with a rung for an open menu, and no
other rung of any ladder looks at the menu or steers it (`ladder_cases`). Main statement:
`Resolver.steers_open_menu`, which keys steer a menu and when; what the others come to
does not depend on the menu.
-/

namespace StructEdit

/-- Whether the keys of a class steer a menu that is open. The keys that go left and right
move the cursor instead where it stands in text. -/
def KeyClass.steersMenu (inText : Bool) : KeyClass → Bool
  | .up | .down | .enter | .escape => true
  | .left | .right => !inText
  | _ => false

/-- Whether a key steers a menu that is open. -/
def Key.steersMenu (k : Key) (inText : Bool) : Bool := k.class?.any (·.steersMenu inText)

/-- The keys that steer a menu by their codes: Left and Right do so outside of text only. -/
theorem Key.steersMenu_eq_true_iff {k : Key} {inText : Bool} :
    k.steersMenu inText = true ↔ k.code ∈ [.up, .down, .enter, .escape] ∨
      k.code ∈ [.left, .right] ∧ inText = false := by
  obtain ⟨code, modifiers⟩ := k
  cases code with
  | tab => cases h : modifiers.shift <;> simp [steersMenu, class?, KeyClass.steersMenu, h]
  | _ => simp [steersMenu, class?, KeyClass.steersMenu]

namespace Resolver

/-- The same key press while a menu is open, or while none is. -/
def Probe.withMenu (p : Probe) (menuOpen : Bool) : Probe := { p with menuOpen }

/-! ## Rungs -/

/-- The rung does not look at the menu, and what it comes to does not steer one. -/
structure IgnoresMenu (r : KeyRung) : Prop where
  applies : ∀ p menuOpen, r.applies (p.withMenu menuOpen) = r.applies p
  result : ∀ p menuOpen, r.result (p.withMenu menuOpen) = r.result p
  not_directed : ∀ p, (r.result p).action.intent.isMenuDirected = false

/-- The rung is the one of a class of keys for an open menu. -/
structure IsForMenu (cls : KeyClass) (r : KeyRung) : Prop where
  applies : ∀ p, r.applies p = (p.menuOpen && cls.steersMenu p.inText)
  directed : ∀ p, (r.result p).action.intent.isMenuDirected = true

variable {name : String} {applies : Probe → Bool} {intent : Intent} {cls : KeyClass}

/-- A rung that asks nothing of the menu and is not for it ignores it. -/
theorem ignoresMenu_rung {action : Probe → Action}
    (happlies : ∀ p menuOpen, applies (p.withMenu menuOpen) = applies p)
    (haction : ∀ p menuOpen, action (p.withMenu menuOpen) = action p)
    (h : ∀ p, (action p).intent.isMenuDirected = false) : IgnoresMenu (rung name applies action) where
  applies := happlies
  result p menuOpen := congrArg (Move.mk · false) (haction p menuOpen)
  not_directed := h

/-- A rung for one intent ignores the menu if its condition does. -/
theorem ignoresMenu_plain (happlies : ∀ p menuOpen, applies (p.withMenu menuOpen) = applies p)
    (h : intent.isMenuDirected = false) : IgnoresMenu (plain name applies intent) :=
  ignoresMenu_rung happlies (fun _ _ => rfl) fun _ => h

theorem ignoresMenu_moveOff (happlies : ∀ p menuOpen, applies (p.withMenu menuOpen) = applies p)
    (h : intent.isMenuDirected = false) : IgnoresMenu (moveOff name applies intent) :=
  ⟨happlies, fun _ _ => rfl, fun _ => h⟩

/-- Predicates are not about the menu. -/
theorem ignoresMenu_onPredicate {predicate : Predicate} (h : intent.isMenuDirected = false) :
    IgnoresMenu (onPredicate name predicate intent) := ignoresMenu_plain (fun _ _ => rfl) h

theorem ignoresMenu_onPredicateWith {predicate : Predicate} {payload : Payload}
    (h : intent.isMenuDirected = false) :
    IgnoresMenu (onPredicateWith name predicate intent payload) :=
  ignoresMenu_rung (fun _ _ => rfl) (fun _ _ => rfl) fun _ => h

theorem ignoresMenu_starting {predicate : Predicate} {kind : AutocompleteKind} :
    IgnoresMenu (starting name predicate kind) :=
  ignoresMenu_rung (fun _ _ => rfl) (fun _ _ => rfl) fun _ => rfl

/-- A rung for an open menu applies where there is one and the key steers it. -/
theorem isForMenu_plain (happlies : ∀ p, applies p = (p.menuOpen && cls.steersMenu p.inText))
    (h : intent.isMenuDirected = true) : IsForMenu cls (plain name applies intent) :=
  ⟨happlies, fun _ => h⟩

/-- A choice between intents ignores the menu if the condition of the choice does. -/
theorem ignoresMenu_ite {c : Probe → Bool} {i j : Intent}
    (happlies : ∀ p menuOpen, applies (p.withMenu menuOpen) = applies p)
    (hc : ∀ p menuOpen, c (p.withMenu menuOpen) = c p) (hi : i.isMenuDirected = false)
    (hj : j.isMenuDirected = false) :
    IgnoresMenu (rung name applies fun p => { intent := if c p then i else j }) := by
  refine ignoresMenu_rung happlies (fun p menuOpen => by rw [hc]) fun p => ?_
  dsimp only
  split
  · exact hi
  · exact hj

/-- What is done to a node ignores the menu. -/
theorem ignoresMenu_onNode {node : Probe → Option NodeId}
    (happlies : ∀ p menuOpen, applies (p.withMenu menuOpen) = applies p)
    (hnode : ∀ p menuOpen, node (p.withMenu menuOpen) = node p) (h : intent.isMenuDirected = false) :
    IgnoresMenu (rung name applies fun p => onNode intent (node p)) :=
  ignoresMenu_rung happlies (fun p menuOpen => by rw [hnode]) fun _ => h

/-! ## Ladders -/

/-- No shortcut is for the menu. -/
theorem isMenuDirected_shortcut? (p : Probe) :
    (p.shortcut?.getD .ignore).isMenuDirected = false := by
  unfold Probe.shortcut?
  split
  · split <;> rfl
  · rfl

/-- A completed text is not for the menu. -/
theorem isMenuDirected_completion? (p : Probe) :
    (p.completion?.getD .ignore).intent.isMenuDirected = false := by
  cases h : p.completion? with
  | none => rfl
  | some a =>
    obtain ⟨_, _, ha⟩ := Option.bind_eq_some_iff.1 h
    exact Intent.isMenuDirected_of_isInsertion (isInsertion_of_commitFor? ha)

/-- No rung for Backspace looks at the menu. -/
theorem ignoresMenu_of_mem_backspaceLadder : ∀ r ∈ backspaceLadder, IgnoresMenu r := by
  simp only [backspaceLadder, List.forall_mem_cons, List.not_mem_nil, false_implies,
    implies_true, and_true]
  exact ⟨ignoresMenu_ite (fun _ _ => rfl) (fun _ _ => rfl) rfl rfl,
    ignoresMenu_onNode (fun _ _ => rfl) (fun _ _ => rfl) rfl,
    ignoresMenu_onNode (fun _ _ => rfl) (fun _ _ => rfl) rfl,
    ignoresMenu_onPredicate rfl, ignoresMenu_onPredicate rfl, ignoresMenu_onPredicate rfl,
    ignoresMenu_onPredicateWith rfl, ignoresMenu_onPredicate rfl, ignoresMenu_onPredicate rfl,
    ignoresMenu_onPredicate rfl, ignoresMenu_onPredicate rfl, ignoresMenu_onPredicateWith rfl,
    ignoresMenu_onPredicateWith rfl, ignoresMenu_onPredicateWith rfl,
    ignoresMenu_onPredicate rfl, ignoresMenu_onPredicate rfl⟩

/-- No rung for Delete looks at the menu. -/
theorem ignoresMenu_of_mem_deleteLadder : ∀ r ∈ deleteLadder, IgnoresMenu r := by
  simp only [deleteLadder, List.forall_mem_cons, List.not_mem_nil, false_implies,
    implies_true, and_true]
  exact ⟨ignoresMenu_ite (fun _ _ => rfl) (fun _ _ => rfl) rfl rfl,
    ignoresMenu_onNode (fun _ _ => rfl) (fun _ _ => rfl) rfl,
    ignoresMenu_onNode (fun _ _ => rfl) (fun _ _ => rfl) rfl,
    ignoresMenu_onPredicate rfl, ignoresMenu_onPredicate rfl, ignoresMenu_onPredicate rfl,
    ignoresMenu_onPredicateWith rfl, ignoresMenu_onPredicate rfl,
    ignoresMenu_onPredicateWith rfl, ignoresMenu_onPredicate rfl,
    ignoresMenu_onPredicateWith rfl, ignoresMenu_onPredicateWith rfl,
    ignoresMenu_onPredicate rfl, ignoresMenu_onPredicate rfl⟩

/-- No rung for a character looks at the menu. -/
theorem ignoresMenu_of_mem_printableLadder : ∀ r ∈ printableLadder, IgnoresMenu r := by
  simp only [printableLadder, List.forall_mem_cons, List.not_mem_nil, false_implies,
    implies_true, and_true]
  refine ⟨ignoresMenu_rung (fun _ _ => rfl) (fun _ _ => rfl) isMenuDirected_shortcut?,
    ignoresMenu_rung (fun _ _ => rfl) (fun _ _ => rfl) isMenuDirected_completion?,
    ignoresMenu_rung (fun _ _ => rfl) (fun _ _ => rfl) fun _ => rfl,
    ignoresMenu_plain (fun _ _ => rfl) rfl, ignoresMenu_plain (fun _ _ => rfl) rfl,
    ignoresMenu_rung (fun _ _ => rfl) (fun _ _ => rfl) fun _ => rfl,
    ignoresMenu_rung (fun _ _ => rfl) (fun _ _ => rfl) fun _ => rfl,
    ignoresMenu_starting,
    ignoresMenu_rung (fun _ _ => rfl) (fun _ _ => rfl) fun p => ?_,
    ignoresMenu_starting, ignoresMenu_starting, ignoresMenu_starting, ignoresMenu_starting⟩
  -- the operator that is typed, if it is one
  split <;> rfl

/-- The ladder of keys that steer a menu begins with the rung for it, and no other rung of
any ladder looks at the menu. -/
theorem ladder_cases (cls : KeyClass) :
    (∃ r rest, ladder cls = r :: rest ∧ IsForMenu cls r ∧ ∀ s ∈ rest, IgnoresMenu s) ∨
      (∀ inText, cls.steersMenu inText = false) ∧ ∀ s ∈ ladder cls, IgnoresMenu s := by
  cases cls with
  | up | down =>
    refine .inl ⟨_, _, rfl, isForMenu_plain (fun p => (Bool.and_true _).symm) rfl, ?_⟩
    simp only [List.forall_mem_cons, List.not_mem_nil, false_implies, implies_true, and_true]
    exact ignoresMenu_moveOff (fun _ _ => rfl) rfl
  | left | right =>
    refine .inl ⟨_, _, rfl, isForMenu_plain (fun p => Bool.and_comm _ _) rfl, ?_⟩
    simp only [List.forall_mem_cons, List.not_mem_nil, false_implies, implies_true, and_true]
    exact ⟨ignoresMenu_moveOff (fun _ _ => rfl) rfl, ignoresMenu_plain (fun _ _ => rfl) rfl,
      ignoresMenu_plain (fun _ _ => rfl) rfl, ignoresMenu_plain (fun _ _ => rfl) rfl,
      ignoresMenu_plain (fun _ _ => rfl) rfl, ignoresMenu_moveOff (fun _ _ => rfl) rfl⟩
  | enter =>
    refine .inl ⟨_, _, rfl, isForMenu_plain (fun p => (Bool.and_true _).symm) rfl, ?_⟩
    simp only [List.forall_mem_cons, List.not_mem_nil, false_implies, implies_true, and_true]
    exact ignoresMenu_onPredicate rfl
  | escape =>
    refine .inl ⟨_, _, rfl, ⟨fun p => (Bool.and_true _).symm, fun _ => rfl⟩, ?_⟩
    simp only [List.forall_mem_cons, List.not_mem_nil, false_implies, implies_true, and_true]
    exact ignoresMenu_onNode (fun _ _ => rfl) (fun _ _ => rfl) rfl
  | home | endKey =>
    refine .inr ⟨fun _ => rfl, ?_⟩
    simp only [ladder, homeLadder, endLadder, List.forall_mem_cons, List.not_mem_nil,
      false_implies, implies_true, and_true]
    exact ⟨ignoresMenu_plain (fun _ _ => rfl) rfl, ignoresMenu_plain (fun _ _ => rfl) rfl⟩
  | tab | backTab =>
    refine .inr ⟨fun _ => rfl, ?_⟩
    simp only [ladder, tabLadder, backTabLadder, List.forall_mem_cons, List.not_mem_nil,
      false_implies, implies_true, and_true]
    exact ⟨ignoresMenu_onPredicate rfl, ignoresMenu_onPredicate rfl⟩
  | backspace => exact .inr ⟨fun _ => rfl, ignoresMenu_of_mem_backspaceLadder⟩
  | delete => exact .inr ⟨fun _ => rfl, ignoresMenu_of_mem_deleteLadder⟩
  | printable => exact .inr ⟨fun _ => rfl, ignoresMenu_of_mem_printableLadder⟩

/-! ## The first rung that applies -/

variable {p : Probe}

/-- Of rungs that ignore the menu the same one applies first, with the menu open or not. -/
theorem first?_withMenu_of_ignoresMenu {rungs : List KeyRung} (h : ∀ r ∈ rungs, IgnoresMenu r)
    (menuOpen : Bool) : Rung.first? rungs (p.withMenu menuOpen) = Rung.first? rungs p := by
  induction rungs with
  | nil => rfl
  | cons r rungs ih =>
    rw [List.forall_mem_cons] at h
    rw [Rung.first?, Rung.first?, List.find?_cons, List.find?_cons, h.1.applies]
    split
    · rfl
    · exact ih h.2

/-- A key steers an open menu if its class does. -/
theorem directed_of_steersMenu (hopen : p.menuOpen = true)
    (hsteers : cls.steersMenu p.inText = true) :
    ∃ r, Rung.first? (ladder cls) p = some r ∧
      (r.result p).action.intent.isMenuDirected = true := by
  obtain ⟨r, rest, hladder, hmenu, _⟩ | ⟨hnever, _⟩ := ladder_cases cls
  · refine ⟨r, ?_, hmenu.directed p⟩
    rw [hladder, Rung.first?, List.find?_cons, hmenu.applies, hopen, hsteers, Bool.and_self]
  · rw [hnever] at hsteers
    contradiction

/-- What applies to another key, or where there is no menu, is a rung that does not look at
the menu. -/
theorem ignoresMenu_of_first? {r : KeyRung} (h : (p.menuOpen && cls.steersMenu p.inText) = false)
    (hr : Rung.first? (ladder cls) p = some r) : IgnoresMenu r := by
  obtain ⟨s, rest, hladder, hmenu, hrest⟩ | ⟨_, hall⟩ := ladder_cases cls
  · rw [hladder, Rung.first?, List.find?_cons, hmenu.applies, h] at hr
    exact hrest r (List.mem_of_find?_eq_some hr)
  · exact hall r (List.mem_of_find?_eq_some hr)

/-- What applies to a key that does not steer menus is the same while a menu is open. -/
theorem first?_withMenu (h : cls.steersMenu p.inText = false) (menuOpen : Bool) :
    Rung.first? (ladder cls) (p.withMenu menuOpen) = Rung.first? (ladder cls) p := by
  obtain ⟨s, rest, hladder, hmenu, hrest⟩ | ⟨_, hall⟩ := ladder_cases cls
  · have hoff (b : Bool) : s.applies (p.withMenu b) = false := by
      rw [hmenu.applies, Bool.and_eq_false_iff]
      exact .inr h
    have hfirst (b : Bool) :
        Rung.first? (ladder cls) (p.withMenu b) = Rung.first? rest (p.withMenu b) := by
      rw [hladder, Rung.first?, List.find?_cons, hoff]
      rfl
    calc Rung.first? (ladder cls) (p.withMenu menuOpen)
        = Rung.first? rest (p.withMenu menuOpen) := hfirst menuOpen
      _ = Rung.first? rest p := first?_withMenu_of_ignoresMenu hrest menuOpen
      _ = Rung.first? (ladder cls) p := (hfirst p.menuOpen).symm
  · exact first?_withMenu_of_ignoresMenu hall menuOpen

/-! ## Resolving -/

variable {r : Resolver} {q : Queries} {menuOpen : Bool} {key : Key} {context : Context}

/-- A key steers a menu just when it is a key that does and a menu is open. -/
theorem isMenuDirected_resolve : (r.resolve q menuOpen key context).action.intent.isMenuDirected =
    (menuOpen && key.steersMenu (q.textEditable context)) := by
  cases hcls : key.class? with
  | none => simp [resolve, Key.steersMenu, hcls, Action.ignore, Intent.isMenuDirected]
  | some cls =>
    let p : Probe := ⟨key, context, q, r.triggers, menuOpen⟩
    rw [resolve_of_class hcls, Key.steersMenu, hcls, Option.any_some]
    cases h : menuOpen && cls.steersMenu (q.textEditable context) with
    | true =>
      rw [Bool.and_eq_true] at h
      obtain ⟨rung, hfirst, hdirected⟩ := directed_of_steersMenu (p := p) h.1 h.2
      rw [hfirst]
      exact hdirected
    | false =>
      cases hfirst : Rung.first? (ladder cls) p with
      | none => rfl
      | some rung => exact (ignoresMenu_of_first? h hfirst).not_directed p

/-- What a key that does not steer menus comes to is the same while a menu is open. -/
theorem resolve_eq_of_not_steersMenu (h : key.steersMenu (q.textEditable context) = false) :
    r.resolve q menuOpen key context = r.resolve q false key context := by
  cases hcls : key.class? with
  | none => simp only [resolve, hcls]
  | some cls =>
    rw [Key.steersMenu, hcls, Option.any_some] at h
    let p : Probe := ⟨key, context, q, r.triggers, false⟩
    have hfirst : Rung.first? (ladder cls) (p.withMenu menuOpen) = Rung.first? (ladder cls) p :=
      first?_withMenu (p := p) h menuOpen
    rw [resolve_of_class hcls, resolve_of_class hcls]
    change ((Rung.first? _ (p.withMenu menuOpen)).map (r.answer (p.withMenu menuOpen))).getD {} =
      ((Rung.first? _ p).map (r.answer p)).getD {}
    rw [hfirst]
    cases hrung : Rung.first? (ladder cls) p with
    | none => rfl
    | some rung =>
      have hignores : IgnoresMenu rung := ignoresMenu_of_first? rfl hrung
      simp only [Option.map_some, answer, hignores.result]
      rfl

/-- Which keys steer a menu: while a menu is open, and whatever is held with them, the keys
that go up and down, Enter and Escape, and where the cursor is not in text also those that
go left and right. What is committed never steers a menu. What all other keys come to, in
text those that go left and right among them, is the same whether a menu is open or not. -/
theorem steers_open_menu (r : Resolver) (q : Queries) (menuOpen : Bool) (key : Key)
    (context : Context) :
    let steers := key.code ∈ [.up, .down, .enter, .escape] ∨
      key.code ∈ [.left, .right] ∧ q.textEditable context = false
    ((r.resolve q menuOpen key context).action.intent.isMenuDirected = true ↔
        menuOpen = true ∧ steers) ∧
      (∀ a, (r.resolve q menuOpen key context).autoCommit = some a →
        a.intent.isMenuDirected = false) ∧
      (¬ steers → r.resolve q true key context = r.resolve q false key context) := by
  intro steers
  have hsteers : key.steersMenu (q.textEditable context) = true ↔ steers :=
    Key.steersMenu_eq_true_iff
  refine ⟨?_, fun a ha => ?_, fun hnot => ?_⟩
  · rw [isMenuDirected_resolve, Bool.and_eq_true, hsteers]
  · exact Intent.isMenuDirected_of_isInsertion (commit_of_autoCommit ha).1
  · rw [← hsteers, Bool.not_eq_true] at hnot
    exact resolve_eq_of_not_steersMenu hnot

end Resolver

end StructEdit
