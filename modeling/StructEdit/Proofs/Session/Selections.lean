import StructEdit.Proofs.Session.Matches

/-!
# StructEdit.Proofs.Session.Selections

Selections in a session. Selecting an option carries out what is bound to it, which may be to
send an action on, which may be to select an option. The rules for this (`Session.Runs`) go
round in a circle; but where a selection is carried out the menus are gone, so that nothing
more is selected. Main statements: `Session.runs_iff`, there is just one way to carry out a
task, and `Session.selects_at_most_once`.
-/

namespace StructEdit

namespace Session

variable {σ : Type} {s t : Session σ}

/-! ## Tasks -/

/-- What is to be done in a session. -/
inductive Task where
  /-- An action is to be sent to what it is for. -/
  | send (call : Call)
  /-- The focused option is to be selected. -/
  | select
  /-- What is bound to the option that was selected is to be carried out. -/
  | carryOut (selection : Selection)

/-- How a task is done: the selections that are carried out on the way, in their order, and the
answer with the session that is left. The rules lead from actions to selections and from
selections to actions, and do not say themselves that this comes to an end. -/
inductive Runs : Session σ → Task → List Selection → Bool × Session σ → Prop where
  | ignored {s : Session σ} {call : Call} (ignored : call.action.isIgnored = true) :
    Runs s (.send call) [] (false, s)
  | selects {s : Session σ} {call : Call} {run : List Selection} {r : Bool × Session σ}
    (selects : call.action.intent = .selectMenuSuggestion) (next : Runs s .select run r) :
    Runs s (.send call) run (true, r.2)
  /-- Where no leaf is focused, a link may be opened. -/
  | unselected {s : Session σ} (none : s.menu.select.1 = none) :
    Runs s .select [] (true, { s with menu := s.menu.select.2 })
  | selected {s : Session σ} {selection : Selection} {run : List Selection}
    {r : Bool × Session σ} (some : s.menu.select.1 = some selection)
    (next : Runs { s with menu := s.menu.select.2 } (.carryOut selection) run r) :
    Runs s .select run r
  | steered {s : Session σ} {call : Call} (directed : call.action.intent.isMenuDirected = true)
    (other : call.action.intent ≠ .selectMenuSuggestion) :
    Runs s (.send call) [] (true, s.steer call.action.intent)
  | opened {s : Session σ} {call : Call} (opens : call.action.intent = .openAutocomplete) :
    Runs s (.send call) [] (s.openAutocomplete call)
  | edited {s : Session σ} {call : Call} (acts : call.action.isIgnored = false)
    (directed : call.action.intent.isMenuDirected = false)
    (other : call.action.intent ≠ .openAutocomplete) : Runs s (.send call) [] (s.edit call)
  /-- The selection comes to nothing once the menus are gone. -/
  | dropped {s : Session σ} {selection : Selection} (none : s.bare.selected? selection = none) :
    Runs s (.carryOut selection) [selection] (true, s.bare)
  | sentOn {s : Session σ} {selection : Selection} {action : Action} {run : List Selection}
    {r : Bool × Session σ} (some : s.bare.selected? selection = some action)
    (next : Runs s.bare (.send ⟨action, s.bare.context, none⟩) run r) :
    Runs s (.carryOut selection) (selection :: run) (true, r.2)

/-! ## One way to do a task -/

/-- The selection that an action leads to. -/
def selection? (s : Session σ) (call : Call) : Option Selection :=
  if call.action.intent = .selectMenuSuggestion then s.menu.select.1 else none

/-- What a task comes to, with the selections that are carried out on the way. -/
def outcome (s : Session σ) : Task → List Selection × Bool × Session σ
  | .send call => ((s.selection? call).toList, s.dispatch call)
  | .select => (s.menu.select.1.toList, true, s.selectOption)
  | .carryOut selection => ([selection], true, s.runSelection selection)

theorem selection?_of_ne {call : Call} (h : call.action.intent ≠ .selectMenuSuggestion) :
    s.selection? call = none := if_neg h

/-- An action that selects nothing is sent on without a selection. -/
theorem outcome_send_of_ne {call : Call} (h : call.action.intent ≠ .selectMenuSuggestion) :
    s.outcome (.send call) = ([], s.dispatch call) := by
  rw [outcome, selection?_of_ne h, Option.toList_none]

/-- An action that selects comes to what selecting the focused option comes to. -/
theorem outcome_send_of_selects {call : Call}
    (h : call.action.intent = .selectMenuSuggestion) :
    s.outcome (.send call) = ((s.outcome .select).1, true, (s.outcome .select).2.2) := by
  rw [outcome, outcome, selection?, if_pos h, dispatch_of_selects h]

/-- Where no leaf is focused, selecting ends at once. -/
theorem outcome_select_of_eq_none (h : s.menu.select.1 = none) :
    s.outcome .select = ([], true, { s with menu := s.menu.select.2 }) := by
  rw [outcome, selectOption_of_eq_none h, h, Option.toList_none]

/-- What is bound to a focused leaf is carried out. -/
theorem outcome_select_of_eq_some {selection : Selection}
    (h : s.menu.select.1 = some selection) :
    s.outcome .select =
      ({ s with menu := s.menu.select.2 } : Session σ).outcome (.carryOut selection) := by
  have hconfig : s.menu.select.2.config = s.menu.config := MenuCommand.config_run .select s.menu
  rw [outcome, outcome, selectOption_of_eq_some h, h, runSelection_withMenu hconfig,
    Option.toList_some]

/-- Where nothing is selected, an action is sent on without a selection. -/
theorem runs_send_of_ne {call : Call} (hs : call.action.intent ≠ .selectMenuSuggestion) :
    s.Runs (.send call) [] (s.dispatch call) := by
  by_cases hi : call.action.isIgnored = true
  · rw [dispatch_of_isIgnored hi]
    exact .ignored hi
  by_cases hm : call.action.intent.isMenuDirected = true
  · rw [dispatch_of_steers hm hs]
    exact .steered hm hs
  by_cases ho : call.action.intent = .openAutocomplete
  · rw [dispatch_openAutocomplete ho]
    exact .opened ho
  · rw [Bool.not_eq_true] at hi hm
    rw [dispatch_eq_edit (by simpa [Action.isIgnored] using hi) hm ho]
    exact .edited hi hm ho

/-- Without menus there is nothing to select, so whatever is sent on ends there. -/
theorem runs_send_bare (s : Session σ) (call : Call) :
    s.bare.Runs (.send call) [] (s.bare.dispatch call) := by
  by_cases hs : call.action.intent = .selectMenuSuggestion
  · have hnone : s.bare.menu.select.1 = none := rfl
    rw [dispatch_of_selects hs, selectOption_of_eq_none hnone]
    exact .selects hs (.unselected hnone)
  · exact runs_send_of_ne hs

/-- What is bound to an option is carried out without menus, where what it sends on selects
nothing. -/
theorem runs_carryOut (s : Session σ) (selection : Selection) :
    s.Runs (.carryOut selection) [selection] (true, s.runSelection selection) := by
  rw [runSelection]
  split
  · next hnone => exact .dropped hnone
  · next action hsome => exact .sentOn hsome (s.runs_send_bare _)

/-- Selecting the focused option ends at once or leads on to what is bound to it. -/
theorem runs_select (s : Session σ) :
    s.Runs .select (s.outcome .select).1 (s.outcome .select).2 := by
  cases h : s.menu.select.1 with
  | none =>
    rw [outcome_select_of_eq_none h]
    exact .unselected h
  | some selection =>
    rw [outcome_select_of_eq_some h]
    exact .selected h (runs_carryOut _ selection)

/-- Each task can be done. -/
theorem runs_outcome (s : Session σ) (task : Task) :
    s.Runs task (s.outcome task).1 (s.outcome task).2 := by
  cases task with
  | carryOut selection => exact s.runs_carryOut selection
  | select => exact s.runs_select
  | send call =>
    by_cases hs : call.action.intent = .selectMenuSuggestion
    · rw [outcome_send_of_selects hs]
      exact .selects hs s.runs_select
    · rw [outcome_send_of_ne hs]
      exact runs_send_of_ne hs

/-- However a task is done, it comes to the same. The induction is on the rules; each of the
three that lead on has the outcome of what it leads to. -/
theorem eq_outcome_of_runs {task : Task} {run : List Selection} {r : Bool × Session σ}
    (h : s.Runs task run r) : (run, r) = s.outcome task := by
  induction h with
  | @ignored s call hi =>
    have hs : call.action.intent ≠ .selectMenuSuggestion := by
      rw [eq_of_beq hi]
      decide
    rw [outcome_send_of_ne hs, dispatch_of_isIgnored hi]
  | selects hs _ ih => rw [outcome_send_of_selects hs, ← ih]
  | unselected hnone => rw [outcome_select_of_eq_none hnone]
  | selected hsome _ ih => rw [outcome_select_of_eq_some hsome, ih]
  | steered hm hs => rw [outcome_send_of_ne hs, dispatch_of_steers hm hs]
  | @opened s call ho =>
    have hs : call.action.intent ≠ .selectMenuSuggestion := by
      rw [ho]
      decide
    rw [outcome_send_of_ne hs, dispatch_openAutocomplete ho]
  | @edited s call hi hm ho =>
    have hs : call.action.intent ≠ .selectMenuSuggestion := by
      intro hs
      rw [hs] at hm
      contradiction
    rw [outcome_send_of_ne hs, dispatch_eq_edit (by simpa [Action.isIgnored] using hi) hm ho]
  | dropped hnone => rw [outcome, runSelection, hnone]
  | @sentOn s selection action run r hsome _ ih =>
    rw [outcome, Prod.mk.injEq] at ih
    rw [outcome, runSelection, hsome]
    dsimp only
    rw [← ih.2]
    -- the menus are gone, so what is sent on selects nothing more
    have hnone : s.bare.selection? ⟨action, s.bare.context, none⟩ = none := by
      unfold selection?
      split <;> rfl
    rw [ih.1, hnone, Option.toList_none]

/-- There is just one way to do a task. -/
theorem runs_iff {task : Task} {run : List Selection} {r : Bool × Session σ} :
    s.Runs task run r ↔ (run, r) = s.outcome task := by
  refine ⟨eq_outcome_of_runs, fun h => ?_⟩
  have hruns := s.runs_outcome task
  rwa [← h] at hruns

/-- No task takes more than one selection. -/
theorem length_outcome_le (s : Session σ) (task : Task) : (s.outcome task).1.length ≤ 1 := by
  cases task with
  | send call => cases h : s.selection? call <;> simp [outcome, h]
  | select => cases h : s.menu.select.1 <;> simp [outcome, h]
  | carryOut selection => exact Nat.le_refl 1

/-! ## Events -/

/-- How an event happens, with the selections that are carried out on the way. -/
inductive Happens (s : Session σ) : Event → List Selection → Bool × Session σ → Prop where
  | pressed {key : Key} {run : List Selection} {r : Bool × Session σ}
    (stays : (s.resolve key s.context).autoCommit = none)
    (next : s.Runs (.send ⟨(s.resolve key s.context).action, s.context, some key⟩) run r) :
    s.Happens (.key key) run r
  /-- What the key commits is sent on before what the key comes to. -/
  | committed {key : Key} {commit : Action} {run run' : List Selection} {r r' : Bool × Session σ}
    (commits : (s.resolve key s.context).autoCommit = some commit)
    (first : s.Runs (.send ⟨commit, s.context, some key⟩) run r)
    (next : r.2.Runs (.send ⟨(s.resolve key s.context).action, r.2.context, some key⟩) run' r') :
    s.Happens (.key key) (run ++ run') (r.1 || r'.1, r'.2)
  | unplaced {request : Request} (ignored : (s.route request s.context).isIgnored = true) :
    s.Happens (.button request) [] (false, s)
  | placed {request : Request} {run : List Selection} {r : Bool × Session σ}
    (acts : (s.route request s.context).isIgnored = false)
    (next : s.Runs (.send ⟨s.route request s.context, s.context, none⟩) run r) :
    s.Happens (.button request) run r
  | shown : s.Happens .showInserts [] s.showInserts
  | hovered {menu : MenuId} {option : Nat} :
    s.Happens (.hover menu option) [] (s.hover menu option)
  | missed {menu : MenuId} {option : Nat} {t : Session σ}
    (miss : s.hover menu option = (false, t)) : s.Happens (.click menu option) [] (false, t)
  | followed {menu : MenuId} {option : Nat} {t : Session σ}
    (hit : s.hover menu option = (true, t))
    (link : ((t.menu.menu? menu).bind (·.options[option]?)).any (·.isLink) = true) :
    s.Happens (.click menu option) []
      (t.menu.openSubMenu.1, { t with menu := t.menu.openSubMenu.2 })
  | clicked {menu : MenuId} {option : Nat} {t : Session σ} {run : List Selection}
    {r : Bool × Session σ} (hit : s.hover menu option = (true, t))
    (leaf : ((t.menu.menu? menu).bind (·.options[option]?)).any (·.isLink) = false)
    (next : t.Runs .select run r) : s.Happens (.click menu option) run (true, r.2)

/-- There is one way for something to go, to an end that is known, with no more than one
selection. -/
def OneWay (goes : List Selection → Bool × Session σ → Prop) (r : Bool × Session σ) : Prop :=
  ∃ run, run.length ≤ 1 ∧ ∀ run' r', goes run' r' ↔ run' = run ∧ r' = r

/-- What has one way without a selection has one way. -/
theorem oneWay_nil {goes : List Selection → Bool × Session σ → Prop} {r : Bool × Session σ}
    (h : ∀ run' r', goes run' r' ↔ run' = [] ∧ r' = r) : OneWay goes r :=
  ⟨[], Nat.zero_le 1, h⟩

/-- Each task has one way. -/
theorem oneWay_runs (s : Session σ) (task : Task) : OneWay (s.Runs task) (s.outcome task).2 :=
  ⟨(s.outcome task).1, s.length_outcome_le task, fun run' r' => by rw [runs_iff, Prod.ext_iff]⟩

theorem oneWay_send (s : Session σ) (call : Call) :
    OneWay (s.Runs (.send call)) (s.dispatch call) := s.oneWay_runs (.send call)

/-- An action that selects nothing is sent on without a selection. -/
theorem runs_send_of_ne_iff {call : Call} (h : call.action.intent ≠ .selectMenuSuggestion)
    {run : List Selection} {r : Bool × Session σ} :
    s.Runs (.send call) run r ↔ run = [] ∧ r = s.dispatch call := by
  rw [runs_iff, outcome_send_of_ne h, Prod.mk.injEq]

/-- What moves off a token selects nothing. -/
theorem ne_select_of_movesOff {intent : Intent} (h : intent.movesOff = true) :
    intent ≠ .selectMenuSuggestion := by
  rintro rfl
  contradiction

theorem ne_select_of_isInsertion {intent : Intent} (h : intent.isInsertion = true) :
    intent ≠ .selectMenuSuggestion := by
  rintro rfl
  contradiction

/-- Neither what a key commits nor the move off the token that it is then is a selection. -/
theorem oneWay_press_of_commit {key : Key} {commit : Action}
    (h : (s.resolve key s.context).autoCommit = some commit) :
    OneWay (s.Happens (.key key)) (s.press key) := by
  obtain ⟨hinsertion, _, hoff⟩ := Resolver.commit_of_autoCommit h
  have hfirst := @runs_send_of_ne_iff σ s ⟨commit, s.context, some key⟩
    (ne_select_of_isInsertion hinsertion)
  refine oneWay_nil fun run' r' => ?_
  simp only [press, h]
  constructor
  · intro hhappens
    cases hhappens with
    | pressed stays =>
      rw [h] at stays
      contradiction
    | committed commits first next =>
      obtain rfl := Option.some.inj (commits.symm.trans h)
      obtain ⟨rfl, rfl⟩ := hfirst.1 first
      obtain ⟨rfl, rfl⟩ := (runs_send_of_ne_iff (ne_select_of_movesOff hoff)).1 next
      exact ⟨rfl, rfl⟩
  · rintro ⟨rfl, rfl⟩
    exact .committed h (hfirst.2 ⟨rfl, rfl⟩)
      ((runs_send_of_ne_iff (ne_select_of_movesOff hoff)).2 ⟨rfl, rfl⟩)

/-- A key has one way: that of what it comes to, behind that of what it commits. -/
theorem oneWay_press (s : Session σ) (key : Key) :
    OneWay (s.Happens (.key key)) (s.press key) := by
  cases hc : (s.resolve key s.context).autoCommit with
  | some commit => exact oneWay_press_of_commit hc
  | none =>
    obtain ⟨run, hlen, hruns⟩ :=
      s.oneWay_send ⟨(s.resolve key s.context).action, s.context, some key⟩
    refine ⟨run, hlen, fun run' r' => ?_⟩
    simp only [press, hc, ← hruns]
    refine ⟨fun hhappens => ?_, .pressed hc⟩
    cases hhappens with
    | pressed _ next => exact next
    | committed commits =>
      rw [hc] at commits
      contradiction

/-- A button has one way: that of the action it is routed to. -/
theorem oneWay_pressButton (s : Session σ) (request : Request) :
    OneWay (s.Happens (.button request)) (s.pressButton request) := by
  unfold pressButton
  dsimp only
  split
  · next hi =>
    refine oneWay_nil fun run' r' => ⟨fun hhappens => ?_, ?_⟩
    · cases hhappens with
      | unplaced => exact ⟨rfl, rfl⟩
      | placed acts =>
        rw [hi] at acts
        contradiction
    · rintro ⟨rfl, rfl⟩
      exact .unplaced hi
  · next hi =>
    obtain ⟨run, hlen, hruns⟩ := s.oneWay_send ⟨s.route request s.context, s.context, none⟩
    refine ⟨run, hlen, fun run' r' => ?_⟩
    rw [← hruns]
    refine ⟨fun hhappens => ?_, .placed (Bool.not_eq_true _ ▸ hi)⟩
    cases hhappens with
    | unplaced ignored => exact absurd ignored hi
    | placed _ next => exact next

theorem oneWay_showInserts (s : Session σ) : OneWay (s.Happens .showInserts) s.showInserts := by
  refine oneWay_nil fun run' r' => ⟨?_, ?_⟩
  · rintro ⟨⟩
    exact ⟨rfl, rfl⟩
  · rintro ⟨rfl, rfl⟩
    exact .shown

theorem oneWay_hover (s : Session σ) (menu : MenuId) (option : Nat) :
    OneWay (s.Happens (.hover menu option)) (s.hover menu option) := by
  refine oneWay_nil fun run' r' => ⟨?_, ?_⟩
  · rintro ⟨⟩
    exact ⟨rfl, rfl⟩
  · rintro ⟨rfl, rfl⟩
    exact .hovered

/-- A click on an option has one way, which the option decides: a link opens its menu, and a leaf
is selected. -/
theorem oneWay_click_of_hit {menu : MenuId} {option : Nat}
    (hhit : s.hover menu option = (true, t)) :
    OneWay (s.Happens (.click menu option)) (s.click menu option) := by
  unfold click
  rw [hhit]
  dsimp only
  split
  · contradiction
  split
  · next hlink =>
    refine oneWay_nil fun run' r' => ⟨fun hhappens => ?_, ?_⟩
    · cases hhappens with
      | missed miss => cases miss.symm.trans hhit
      | followed hit =>
        cases hit.symm.trans hhit
        exact ⟨rfl, rfl⟩
      | clicked hit leaf =>
        cases hit.symm.trans hhit
        rw [leaf] at hlink
        contradiction
    · rintro ⟨rfl, rfl⟩
      exact .followed hhit hlink
  · next hleaf =>
    obtain ⟨run, hlen, hruns⟩ := t.oneWay_runs .select
    refine ⟨run, hlen, fun run' r' => ⟨fun hhappens => ?_, ?_⟩⟩
    · cases hhappens with
      | missed miss => cases miss.symm.trans hhit
      | followed hit link =>
        cases hit.symm.trans hhit
        exact absurd link hleaf
      | clicked hit _ next =>
        cases hit.symm.trans hhit
        obtain ⟨rfl, rfl⟩ := (hruns _ _).1 next
        exact ⟨rfl, rfl⟩
    · rintro ⟨rfl, rfl⟩
      exact .clicked hhit (Bool.not_eq_true _ ▸ hleaf) ((hruns _ _).2 ⟨rfl, rfl⟩)

/-- A click on nothing has one way. -/
theorem oneWay_click_of_miss {menu : MenuId} {option : Nat}
    (hmiss : s.hover menu option = (false, t)) :
    OneWay (s.Happens (.click menu option)) (s.click menu option) := by
  have hclick : s.click menu option = (false, t) := by simp [click, hmiss]
  rw [hclick]
  refine oneWay_nil fun run' r' => ⟨fun hhappens => ?_, ?_⟩
  · cases hhappens with
    | missed miss =>
      cases miss.symm.trans hmiss
      exact ⟨rfl, rfl⟩
    | followed hit => cases hit.symm.trans hmiss
    | clicked hit => cases hit.symm.trans hmiss
  · rintro ⟨rfl, rfl⟩
    exact .missed hmiss

/-- Whatever state a session is in and whatever is bound to the options of its menus, what is
sent on comes to an end in one way, and so does each event; on the way no more than one
selection is carried out. -/
theorem selects_at_most_once (s : Session σ) :
    (∀ call, OneWay (s.Runs (.send call)) (s.dispatch call)) ∧
      ∀ e, OneWay (s.Happens e) (e.run s) := by
  refine ⟨s.oneWay_send, fun e => ?_⟩
  cases e with
  | key key => exact s.oneWay_press key
  | button request => exact s.oneWay_pressButton request
  | showInserts => exact s.oneWay_showInserts
  | hover menu option => exact s.oneWay_hover menu option
  | click menu option =>
    cases h : s.hover menu option with
    | mk hit t =>
      cases hit with
      | false => exact oneWay_click_of_miss h
      | true => exact oneWay_click_of_hit h

end Session

end StructEdit
