import StructEdit.Environment
import StructEdit.Menu.Controller
import StructEdit.Resolver

/-!
# StructEdit.Session

Editing sessions. Keys, toolbox buttons and the mouse are resolved to actions;
these go to the menus or to the executer, and the menus are kept in step with
them. A session keeps a log of what its executer was told.
-/

namespace StructEdit

/-- An editing session: the environment it works in, the rules of its keys, its menus,
and the world as it is now. -/
structure Session (σ : Type) where
  environment : Environment σ
  resolver : Resolver
  menu : MenuController
  /-- The source of what is selected in the menu. -/
  menuSource : Source := .toolbox
  world : σ
  /-- What the executer was told, in order. -/
  log : List Call := []

/-- What selecting in the menu does for records: it inserts the construct of the
option. Of records with the same construct the last one counts. -/
def insertActions (records : List Insertion) (text : String) : Option Selection :=
  (records.reverse.find? fun r => r.construct == text).map fun r => .insert r.request

namespace Session

/-- A new session with a configuration, for a given meaning of patterns. -/
def ofConfigWith (compile? : PatternCompiler) (config : Config) (environment : Environment σ)
    (world : σ) : Session σ where
  environment
  resolver := .ofConfigWith compile? config.resolver
  menu := { config := config.menu }
  world

/-- A new session with a configuration. -/
def ofConfig (config : Config) (environment : Environment σ) (world : σ) : Session σ :=
  ofConfigWith Pattern.compile? config environment world

/-! ## Asking -/

/-- The answers about the document as it is now. -/
def queries (s : Session σ) : Queries := s.environment.queries s.world

/-- The context at the cursor. -/
def context (s : Session σ) : Context := s.queries.context

/-- What a key comes to in a context. -/
def resolve (s : Session σ) (key : Key) (context : Context) : Resolution :=
  s.resolver.resolve s.queries s.menu.isOpen key context

/-- What a request comes to in a context. -/
def route (s : Session σ) (request : Request) (context : Context) : Action :=
  Toolbox.route s.queries request context

/-! ## Acting -/

/-- Tells the executer. -/
def execute (s : Session σ) (call : Call) : Bool × Session σ :=
  let r := s.environment.execute call s.world
  (r.1, { s with world := r.2, log := s.log ++ [call] })

/-- Tells the executer that autocompletion starts, and shows a menu of what is on
offer to it. -/
def openAutocomplete (s : Session σ) (call : Call) : Bool × Session σ :=
  let (suppressed, s) := s.execute call
  match call.action.payload with
  | some (.autocomplete _ _ _ validMatches) =>
    let built := s.menu.buildFlat (validMatches.map (·.construct)) (insertActions validMatches)
      (.ofPosition call.context.position)
    (suppressed, { s with menuSource := .autocomplete, menu := built.2 })
  | _ => (suppressed, s)

/-- Whether an action ends autocompletion: one that completes text does, and one
that leaves its token. -/
def endsAutocompletion (a : Action) : Bool := a.source == .autocomplete || a.intent.leavesToken

/-- Tells the executer of an edit, and drops the menus if it ends autocompletion. -/
def edit (s : Session σ) (call : Call) : Bool × Session σ :=
  if endsAutocompletion call.action && s.menu.isOpen then
    { s with menu := s.menu.remove }.execute call
  else s.execute call

/-- Moves the focus in the menus as an intent says that selects nothing. -/
def steer (s : Session σ) (intent : Intent) : Session σ :=
  match intent with
  | .selectMenuSuggestionBelow => { s with menu := s.menu.focusBelow }
  | .selectMenuSuggestionAbove => { s with menu := s.menu.focusAbove }
  | .openSubMenu => { s with menu := s.menu.openSubMenu.2 }
  | .closeSubMenu => { s with menu := s.menu.closeSubMenu.2 }
  | .closeValidInsertMenu => { s with menu := s.menu.remove }
  | _ => s

/-- The action that a selection comes to in the context at the cursor. What cannot
be inserted any more comes to none. -/
def selected? (s : Session σ) (selection : Selection) : Option Action :=
  match selection with
  | .insert request =>
    let action := (s.route request s.context).fromSource s.menuSource
    if action.isIgnored then none else some action
  | .edit action => some action
  | .noop => none

/-- The session with its menus dropped. -/
def bare (s : Session σ) : Session σ := { s with menu := s.menu.remove }

theorem tree?_of_select {c d : MenuController} {selection : Selection}
    (h : c.select = (some selection, d)) : c.tree?.isSome = true := by
  cases ht : c.tree? with
  | some t => rfl
  | none =>
    have hnone : c.select.1 = none := by
      cases hid : c.focusedMenuId? <;> cases hi : c.focusedOption? <;>
        simp [MenuController.select, MenuController.selectFocused, hid, hi, ht]
    rw [h] at hnone
    contradiction

mutual

/-- Sends an action to what it is for: the menus, or the executer. The answer is
whether what the key does by default is to be suppressed.

Selecting an option drops the menus before the action bound to the option is sent
on. That action may be anything, to select an option included, but with no menus
there is nothing to select. -/
def dispatch (s : Session σ) (call : Call) : Bool × Session σ :=
  if call.action.isIgnored then (false, s)
  else if call.action.intent = .selectMenuSuggestion then (true, selectOption s)
  else if call.action.intent.isMenuDirected then (true, s.steer call.action.intent)
  else if call.action.intent = .openAutocomplete then s.openAutocomplete call
  else s.edit call
termination_by 3 * s.menu.tree?.isSome.toNat + 2

/-- Selects the focused option. A link opens its menu, and what is bound to another
option is done. -/
def selectOption (s : Session σ) : Session σ :=
  match _h : s.menu.select with
  | (none, menu) => { s with menu }
  | (some selection, menu) => runSelection { s with menu } selection
termination_by 3 * s.menu.tree?.isSome.toNat + 1
decreasing_by simp [tree?_of_select _h]

/-- Drops the menus, and does what was bound to an option of them. -/
def runSelection (s : Session σ) (selection : Selection) : Session σ :=
  match s.bare.selected? selection with
  | none => s.bare
  | some action => (dispatch s.bare ⟨action, s.bare.context, none⟩).2
termination_by 3
decreasing_by simp [bare]

end

/-! ## Events -/

/-- A key is pressed. -/
def press (s : Session σ) (key : Key) : Bool × Session σ :=
  let context := s.context
  let resolution := s.resolve key context
  match resolution.autoCommit with
  | none => s.dispatch ⟨resolution.action, context, some key⟩
  | some commit =>
    let (committed, s) := s.dispatch ⟨commit, context, some key⟩
    let (suppressed, s) := s.dispatch ⟨resolution.action, s.context, some key⟩
    (committed || suppressed, s)

/-- A toolbox button is pressed. -/
def pressButton (s : Session σ) (request : Request) : Bool × Session σ :=
  let action := s.route request s.context
  if action.isIgnored then (false, s) else s.dispatch ⟨action, s.context, none⟩

/-- The menu of everything that can be inserted is asked for. -/
def showInserts (s : Session σ) : Bool × Session σ :=
  let records := (s.queries.insertions s.context).filter (·.isInsertable)
  let built := s.menu.buildAvailable (records.map (·.construct)) (insertActions records)
    (.ofPosition s.context.position)
  (built.1, { s with menuSource := .toolbox, menu := built.2 })

/-- The mouse moves over an option. -/
def hover (s : Session σ) (menu : MenuId) (option : Nat) : Bool × Session σ :=
  let moved := s.menu.focus menu option
  (moved.1, { s with menu := moved.2 })

/-- An option is clicked on: a link opens its menu, and anything else is selected. -/
def click (s : Session σ) (menu : MenuId) (option : Nat) : Bool × Session σ :=
  let (found, s) := s.hover menu option
  if !found then (false, s)
  else if ((s.menu.menu? menu).bind (·.options[option]?)).any (·.isLink) then
    let entered := s.menu.openSubMenu
    (entered.1, { s with menu := entered.2 })
  else (true, s.selectOption)

end Session

end StructEdit
