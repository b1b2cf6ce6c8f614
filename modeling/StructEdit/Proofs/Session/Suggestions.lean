import StructEdit.Proofs.Menu.Insertions
import StructEdit.Proofs.Session.Calls

/-!
# StructEdit.Proofs.Session.Suggestions

The end of a session of suggestions. While the menus of a session are menus of
insertions, which no event changes (`Session.settles_run`), an event that completes a
text or leaves its token leaves no menus. Main statement:
`Session.no_menu_of_completion`.
-/

namespace StructEdit

/-- What is bound to a record inserts its construct. -/
theorem insertActions_ne_edit (records : List Insertion) (text : String) (a : Action) :
    insertActions records text ≠ some (.edit a) := by
  simp [insertActions]

namespace Session

variable {σ : Type} {s t : Session σ}

/-- From the first session to the second one all menus stayed menus of insertions, and if
the executer was told anything that ends a session of suggestions, none are left. -/
def Settles (s t : Session σ) : Prop :=
  t.menu.Offering ∧ ∃ calls, t.log = s.log ++ calls ∧
    ((∃ call ∈ calls, endsAutocompletion call.action = true) → t.menu.panel = none)

/-- Where the executer was told nothing, there is nothing to settle. -/
theorem settles_of_log_eq (h : t.menu.Offering) (hlog : t.log = s.log) : s.Settles t :=
  ⟨h, [], by simp [hlog], by simp⟩

/-- Without menus everything is settled, whatever the executer was told. -/
theorem settles_of_panel_eq_none {n : Nat} (h : t.menu.panel = none) (htells : s.Tells n t) :
    s.Settles t := by
  obtain ⟨calls, hlog, _⟩ := htells
  exact ⟨MenuController.all_of_panel_eq_none h, calls, hlog, fun _ => h⟩

/-! ## Sending an action on -/

/-- An edit that ends autocompletion leaves no menus: those that offer insertions are open, so it
drops them. -/
theorem panel_edit_of_ends (h : s.menu.Offering) {call : Call}
    (hends : endsAutocompletion call.action = true) : (s.edit call).2.menu.panel = none := by
  unfold edit
  split
  · rfl
  · next hopen =>
    have hclosed : s.menu.tree?.isSome ≠ true := by
      intro hsome
      exact hopen (by simp [hends, h.isSome_tree?_iff.1 hsome])
    have hnone : s.menu.tree? = none := by simpa using hclosed
    exact MenuController.panel_eq_none_iff.2 hnone

/-- An edit settles what it ends. -/
theorem settles_edit (h : s.menu.Offering) (call : Call) : s.Settles (s.edit call).2 := by
  refine ⟨?_, [call], s.log_edit call, fun ⟨c, hc, hends⟩ => ?_⟩
  · unfold edit
    split
    · exact MenuController.all_of_panel_eq_none rfl
    · exact h
  · rw [List.mem_singleton.1 hc] at hends
    exact panel_edit_of_ends h hends

/-- To start autocompletion ends none, so its menu may stay. -/
theorem settles_openAutocomplete (h : s.menu.Offering) {call : Call}
    (hends : endsAutocompletion call.action = false) : s.Settles (s.openAutocomplete call).2 := by
  refine ⟨?_, [call], s.log_openAutocomplete call, by simp [hends]⟩
  unfold openAutocomplete
  dsimp only
  split
  · exact MenuController.offering_buildFlat (insertActions_ne_edit _) _ _
  · exact h

/-- Steering keeps menus of insertions. -/
theorem offering_steer (h : s.menu.Offering) (intent : Intent) : (s.steer intent).menu.Offering := by
  unfold steer
  split
  · exact h.stepFocus _
  · exact h.stepFocus _
  · exact h.openSubMenu
  · exact h.closeSubMenu
  · exact MenuController.all_of_panel_eq_none rfl
  · exact h

/-- What is selected in menus of insertions inserts something. -/
theorem isInsertion_of_selected? {selection : Selection} (h : ∀ a, selection ≠ .edit a)
    {action : Action} (ha : s.selected? selection = some action) :
    action.intent.isInsertion = true := by
  cases selection with
  | insert request =>
    simp only [selected?] at ha
    split at ha
    · contradiction
    · next hi =>
      rw [← Option.some.inj ha]
      rw [Action.isIgnored_fromSource, Bool.not_eq_true] at hi
      exact Toolbox.isInsertion_route hi
  | edit a => exact absurd rfl (h a)
  | noop => contradiction

/-- An action that inserts or is from the keyboard settles what it ends. What is bound to an
option is one of these, for edits are never bound. -/
theorem settles_dispatch (h : s.menu.Offering) {call : Call}
    (hcall : call.action.InsertsOrKeyed) : s.Settles (s.dispatch call).2 := by
  revert h hcall
  refine dispatch_induction (motive := fun s call r => s.menu.Offering →
    call.action.InsertsOrKeyed → s.Settles r.2) ?_ ?_ ?_ ?_ ?_ ?_ ?_ s call
  · exact fun s _ _ h _ => settles_of_log_eq h rfl
  · exact fun s _ _ h _ => settles_of_log_eq h.select rfl
  · exact fun s _ _ _ => settles_of_log_eq (MenuController.all_of_panel_eq_none rfl) rfl
  · intro s _ selection action r hs ha ih h _
    refine ih (MenuController.all_of_panel_eq_none rfl) (.inl ?_)
    refine isInsertion_of_selected? (fun a he => h.select_ne_edit a ?_) ha
    rw [hs, he]
  · exact fun s _ h _ => settles_of_log_eq (offering_steer h _) (s.log_steer _)
  · intro s call ho h hcall
    refine settles_openAutocomplete h ?_
    rcases hcall with hi | hk
    · exact absurd ho (Intent.ne_openAutocomplete_of_isInsertion hi)
    · simp [endsAutocompletion, ho, hk, Intent.leavesToken]
  · exact fun s call _ _ h _ => settles_edit h call

/-- Selecting an option settles what it ends. -/
theorem settles_selectOption (h : s.menu.Offering) : s.Settles s.selectOption := by
  have hcall : Call.selecting.action.InsertsOrKeyed := .inr rfl
  exact s.selectOption_eq_dispatch ▸ settles_dispatch h hcall

/-! ## Events -/

/-- An action that moves off the token leaves no menus. -/
theorem panel_dispatch_of_movesOff (h : s.menu.Offering) {call : Call}
    (hoff : call.action.intent.movesOff = true) : (s.dispatch call).2.menu.panel = none := by
  rcases Intent.movesOff_eq_true_iff.1 hoff with hleaves | hclose
  · rw [dispatch_eq_edit_of_leavesToken hleaves]
    exact panel_edit_of_ends h (by simp [endsAutocompletion, hleaves])
  · rw [dispatch_close hclose]
    rfl

/-- A key settles what it ends, and what it commits before. -/
theorem settles_press (h : s.menu.Offering) (key : Key) : s.Settles (s.press key).2 := by
  cases hc : (s.resolve key s.context).autoCommit with
  | none =>
    unfold press
    simp only [hc]
    exact settles_dispatch h (Resolver.insertsOrKeyed_resolve _ _ _ key _)
  | some commit =>
    refine settles_of_panel_eq_none ?_ (s.tells_press key)
    obtain ⟨hinsertion, _, hoff⟩ := Resolver.commit_of_autoCommit hc
    unfold press
    simp only [hc]
    exact panel_dispatch_of_movesOff (settles_dispatch h (.inl hinsertion)).1 hoff

/-- A button inserts or does nothing. -/
theorem settles_pressButton (h : s.menu.Offering) (request : Request) :
    s.Settles (s.pressButton request).2 := by
  unfold pressButton
  dsimp only
  split
  · exact settles_of_log_eq h rfl
  · next hi =>
    rw [Bool.not_eq_true] at hi
    exact settles_dispatch h (.inl (Toolbox.isInsertion_route hi))

/-- The menu of everything comes up without a word to the executer. -/
theorem settles_showInserts (s : Session σ) : s.Settles s.showInserts.2 :=
  settles_of_log_eq (MenuController.offering_build (insertActions_ne_edit _) _ _ _) rfl

/-- A click settles what it ends by selecting. -/
theorem settles_click (h : s.menu.Offering) (menu : MenuId) (option : Nat) :
    s.Settles (s.click menu option).2 := by
  have hover : (s.hover menu option).2.menu.Offering := h.focus menu option
  unfold click
  dsimp only
  split
  · exact settles_of_log_eq hover rfl
  · split
    · exact settles_of_log_eq hover.openSubMenu rfl
    · exact settles_selectOption hover

/-- Each event settles what it ends. -/
theorem settles_run (h : s.menu.Offering) (e : Event) : s.Settles (e.run s).2 := by
  cases e with
  | key key => exact settles_press h key
  | button request => exact settles_pressButton h request
  | showInserts => exact settles_showInserts s
  | hover menu option => exact settles_of_log_eq (h.focus menu option) rfl
  | click menu option => exact settles_click h menu option

/-- Whatever happens, the menus of a session are menus of insertions. -/
theorem offering_runAll (h : s.menu.Offering) (os : List (Occurrence σ)) :
    (Occurrence.runAll os s).menu.Offering := by
  unfold Occurrence.runAll
  induction os generalizing s with
  | nil => exact h
  | cons o os ih =>
    cases o with
    | event e => exact ih (settles_run h e).1
    | change world => exact ih h

/-- Where there are no menus, a click does nothing. -/
theorem click_of_panel_eq_none (h : s.menu.panel = none) (menu : MenuId) (option : Nat) :
    s.click menu option = (false, s) := by
  rw [click, hover, MenuController.focus_eq_mapPanel,
    MenuController.mapPanel_of_tree?_eq_none (MenuController.panel_eq_none_iff.1 h), h]
  rfl

/-- Where there are no menus, nothing can be selected. -/
theorem dispatch_select_of_panel_eq_none (h : s.menu.panel = none) {call : Call}
    (hcall : call.action.intent = .selectMenuSuggestion) : s.dispatch call = (true, s) := by
  have hselect : s.menu.select = (none, s.menu) := by
    rw [MenuController.select_eq_mapPanel, h,
      MenuController.mapPanel_of_tree?_eq_none (MenuController.panel_eq_none_iff.1 h)]
    rfl
  rw [dispatch_of_selects hcall, selectOption_of_eq_none (by rw [hselect]), hselect]

/-- After every event, whatever happened before, there are menus just when their root is
open; and none are left after one with which the executer was told a completed text or a
move off the token, so that nothing can be inserted from them any more. -/
theorem no_menu_of_completion (compile? : PatternCompiler) (config : Config)
    (environment : Environment σ) (world : σ) (os : List (Occurrence σ)) (e : Event) :
    let s := Occurrence.runAll os (ofConfigWith compile? config environment world)
    let t := (e.run s).2
    (t.menu.tree?.isSome = true ↔ t.menu.isOpen = true) ∧
      ∃ calls, t.log = s.log ++ calls ∧
        ((∃ call ∈ calls, call.action.source = .autocomplete ∨
          call.action.intent.leavesToken = true) →
          t.menu.tree? = none ∧ (∀ menu option, t.click menu option = (false, t)) ∧
            ∀ call, call.action.intent = .selectMenuSuggestion → t.dispatch call = (true, t)) := by
  intro s t
  have hs : s.menu.Offering := offering_runAll (MenuController.all_of_panel_eq_none rfl) os
  obtain ⟨ht, calls, hlog, hends⟩ := settles_run hs e
  refine ⟨ht.isSome_tree?_iff, calls, hlog, fun ⟨call, hcall, hc⟩ => ?_⟩
  have hnone : t.menu.panel = none := hends ⟨call, hcall, by simpa [endsAutocompletion] using hc⟩
  exact ⟨MenuController.panel_eq_none_iff.1 hnone, click_of_panel_eq_none hnone,
    fun _ => dispatch_select_of_panel_eq_none hnone⟩

end Session

end StructEdit
