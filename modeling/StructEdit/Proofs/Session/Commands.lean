import StructEdit.Proofs.Menu.Focus
import StructEdit.Proofs.Session.Calls

/-!
# StructEdit.Proofs.Session.Commands

What a session does to its menus. Whatever happens to it, its menus are changed by the
operations on menus only (`Session.operates_run`), so what these keep is kept by a session.
Main statements: `Session.operates_runAll`, and from it `Session.focused_runAll`.
-/

namespace StructEdit

namespace Session

variable {σ : Type} {s t u : Session σ}

/-! ## Operations between two sessions -/

/-- From the first session to the second one the menus were changed by operations only. -/
def Operates (s t : Session σ) : Prop := ∃ cmds, t.menu = MenuCommand.runAll cmds s.menu

/-- Where the menus are the same, no operation was needed. -/
theorem operates_of_menu_eq (h : t.menu = s.menu) : s.Operates t := ⟨[], h⟩

/-- One command is an operation. -/
theorem operates_one (cmd : MenuCommand) (h : t.menu = (cmd.run s.menu).2) : s.Operates t :=
  ⟨[cmd], h⟩

/-- Operations behind operations are operations. -/
theorem Operates.trans (h : s.Operates t) (h' : t.Operates u) : s.Operates u := by
  obtain ⟨cmds, ht⟩ := h
  obtain ⟨cmds', hu⟩ := h'
  refine ⟨cmds ++ cmds', ?_⟩
  rw [hu, ht, MenuCommand.runAll, MenuCommand.runAll, MenuCommand.runAll, List.foldl_append]

/-! ## Sending an action on -/

/-- Autocompletion builds one menu. -/
theorem operates_openAutocomplete (s : Session σ) (call : Call) :
    s.Operates (s.openAutocomplete call).2 := by
  unfold openAutocomplete
  dsimp only
  split
  · exact operates_one (.buildFlat _ _ _) rfl
  · exact operates_of_menu_eq rfl

/-- An edit drops the menus or leaves them. -/
theorem operates_edit (s : Session σ) (call : Call) : s.Operates (s.edit call).2 := by
  unfold edit
  split
  · exact operates_one .remove rfl
  · exact operates_of_menu_eq rfl

/-- Steering is one command or none. -/
theorem operates_steer (s : Session σ) (intent : Intent) : s.Operates (s.steer intent) := by
  unfold steer
  split
  · exact operates_one .focusBelow rfl
  · exact operates_one .focusAbove rfl
  · exact operates_one .openSubMenu rfl
  · exact operates_one .closeSubMenu rfl
  · exact operates_one .remove rfl
  · exact operates_of_menu_eq rfl

/-- An action that is sent on changes the menus by operations only, whatever is bound to the
options. -/
theorem operates_dispatch (s : Session σ) (call : Call) : s.Operates (s.dispatch call).2 := by
  refine dispatch_induction (motive := fun s _ r => s.Operates r.2) ?_ ?_ ?_ ?_ ?_ ?_ ?_ s call
  · exact fun s _ _ => operates_of_menu_eq rfl
  · exact fun s _ _ => operates_one .select rfl
  · exact fun s _ => operates_one .remove rfl
  · intro s _ _ _ _ _ _ ih
    have hbare : s.Operates s.bare := operates_one .remove rfl
    exact hbare.trans ih
  · exact fun s _ => s.operates_steer _
  · exact fun s call _ => s.operates_openAutocomplete call
  · exact fun s call _ _ => s.operates_edit call

/-- Selecting an option changes the menus by operations only. -/
theorem operates_selectOption (s : Session σ) : s.Operates s.selectOption :=
  s.selectOption_eq_dispatch ▸ s.operates_dispatch .selecting

/-! ## Events -/

/-- A key changes the menus by what it commits and by what it comes to. -/
theorem operates_press (s : Session σ) (key : Key) : s.Operates (s.press key).2 := by
  unfold press
  dsimp only
  split
  · exact s.operates_dispatch _
  · exact (s.operates_dispatch _).trans (operates_dispatch _ _)

theorem operates_pressButton (s : Session σ) (request : Request) :
    s.Operates (s.pressButton request).2 := by
  unfold pressButton
  dsimp only
  split
  · exact operates_of_menu_eq rfl
  · exact s.operates_dispatch _

theorem operates_hover (s : Session σ) (menu : MenuId) (option : Nat) :
    s.Operates (s.hover menu option).2 := operates_one (.focus menu option) rfl

/-- A click moves the focus, and then opens a menu or selects. -/
theorem operates_click (s : Session σ) (menu : MenuId) (option : Nat) :
    s.Operates (s.click menu option).2 := by
  have hover := s.operates_hover menu option
  unfold click
  dsimp only
  split
  · exact hover
  · split
    · exact hover.trans (operates_one .openSubMenu rfl)
    · exact hover.trans (operates_selectOption _)

/-- What happens to a session changes its menus by operations only. -/
theorem operates_run (o : Occurrence σ) (s : Session σ) : s.Operates (o.run s) := by
  cases o with
  | event e =>
    cases e with
    | key key => exact s.operates_press key
    | button request => exact s.operates_pressButton request
    | showInserts => exact operates_one (.buildAvailable _ _ _) rfl
    | hover menu option => exact s.operates_hover menu option
    | click menu option => exact s.operates_click menu option
  | change world => exact operates_of_menu_eq rfl

/-- Whatever happens to a session, its menus are changed by operations only. -/
theorem operates_runAll (os : List (Occurrence σ)) (s : Session σ) :
    s.Operates (Occurrence.runAll os s) := by
  unfold Occurrence.runAll
  induction os generalizing s with
  | nil => exact operates_of_menu_eq rfl
  | cons o os ih => exact (operates_run o s).trans (ih _)

/-- The menus of a session are in focus, whatever happened to it. -/
theorem focused_runAll (compile? : PatternCompiler) (config : Config)
    (environment : Environment σ) (world : σ) (os : List (Occurrence σ)) :
    (Occurrence.runAll os (ofConfigWith compile? config environment world)).menu.Focused := by
  obtain ⟨cmds, hcmds⟩ := operates_runAll os (ofConfigWith compile? config environment world)
  rw [hcmds]
  exact MenuController.focused_runAll cmds (MenuController.all_of_panel_eq_none rfl)

end Session

end StructEdit
