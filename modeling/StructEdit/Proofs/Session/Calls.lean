import StructEdit.Proofs.Menu.Panels
import StructEdit.Proofs.Resolver.Commit
import StructEdit.Session.Event

/-!
# StructEdit.Proofs.Session.Calls

What the executer is told. Whatever is bound to the options of the menus, an action that
is sent on is told at most once, and never one that does nothing or is for the menus
(`Session.tells_dispatch`); a key that commits a text may be told after the insertion.
Main statement: `Session.calls_of_events`.
-/

namespace StructEdit

/-- The call is one for the executer: its action is to do something, and not just to the
menus. -/
def Call.IsForExecuter (call : Call) : Prop :=
  call.action.intent ≠ .ignore ∧ call.action.intent.isMenuDirected = false

/-- The action that selects the focused option, on its own. -/
def Call.selecting : Call := ⟨{ intent := .selectMenuSuggestion }, {}, none⟩

namespace Session

variable {σ : Type} {s t u : Session σ}

/-! ## Calls between two sessions -/

/-- From the first session to the second one the executer was told no more than `n` calls,
all of them for it. -/
def Tells (n : Nat) (s t : Session σ) : Prop :=
  ∃ calls, t.log = s.log ++ calls ∧ calls.length ≤ n ∧ ∀ call ∈ calls, call.IsForExecuter

/-- Where the log is the same, the executer was told nothing. -/
theorem tells_of_log_eq (h : t.log = s.log) (n : Nat) : s.Tells n t :=
  ⟨[], by simp [h], Nat.zero_le n, by simp⟩

theorem tells_one {call : Call} (h : t.log = s.log ++ [call]) (hcall : call.IsForExecuter) :
    s.Tells 1 t :=
  ⟨[call], h, Nat.le_refl 1, by simpa using hcall⟩

theorem Tells.mono {m n : Nat} (h : s.Tells m t) (hmn : m ≤ n) : s.Tells n t := by
  obtain ⟨calls, hlog, hlen, hcalls⟩ := h
  exact ⟨calls, hlog, Nat.le_trans hlen hmn, hcalls⟩

/-- Calls behind calls are calls, as many as there are together. -/
theorem Tells.trans {m n : Nat} (h : s.Tells m t) (h' : t.Tells n u) : s.Tells (m + n) u := by
  obtain ⟨calls, hlog, hlen, hcalls⟩ := h
  obtain ⟨calls', hlog', hlen', hcalls'⟩ := h'
  refine ⟨calls ++ calls', by rw [hlog', hlog, List.append_assoc], ?_, ?_⟩
  · rw [List.length_append]
    omega
  · rw [List.forall_mem_append]
    exact ⟨hcalls, hcalls'⟩

/-! ## Sending an action on -/

/-- An edit is told once. -/
theorem log_edit (s : Session σ) (call : Call) : (s.edit call).2.log = s.log ++ [call] := by
  unfold edit
  split <;> rfl

/-- The context at the cursor after an edit is the one that the executer leaves. -/
theorem context_edit (s : Session σ) (call : Call) :
    (s.edit call).2.context =
      (s.environment.queries (s.environment.execute call s.world).2).context := by
  unfold edit
  split <;> rfl

/-- The start of autocompletion is told once. -/
theorem log_openAutocomplete (s : Session σ) (call : Call) :
    (s.openAutocomplete call).2.log = s.log ++ [call] := by
  unfold openAutocomplete
  dsimp only
  split <;> rfl

/-- Steering is not told. -/
theorem log_steer (s : Session σ) (intent : Intent) : (s.steer intent).log = s.log := by
  unfold steer
  split <;> rfl

/-- Most actions are sent to the executer as they are. -/
theorem dispatch_eq_edit {call : Call} (hi : call.action.intent ≠ .ignore)
    (hm : call.action.intent.isMenuDirected = false)
    (ho : call.action.intent ≠ .openAutocomplete) : s.dispatch call = s.edit call := by
  have hselect : call.action.intent ≠ .selectMenuSuggestion := by
    intro h
    rw [h] at hm
    contradiction
  unfold dispatch
  simp [Action.isIgnored, hi, hselect, hm, ho]

/-- An action that leaves the token is an edit. -/
theorem dispatch_eq_edit_of_leavesToken {call : Call} (h : call.action.intent.leavesToken = true) :
    s.dispatch call = s.edit call := by
  refine dispatch_eq_edit ?_ ?_ ?_ <;> revert h <;> cases call.action.intent <;> decide

/-- An insertion is an edit. -/
theorem dispatch_eq_edit_of_isInsertion {call : Call} (h : call.action.intent.isInsertion = true) :
    s.dispatch call = s.edit call :=
  dispatch_eq_edit (Intent.ne_ignore_of_isInsertion h) (Intent.isMenuDirected_of_isInsertion h)
    (Intent.ne_openAutocomplete_of_isInsertion h)

/-- An action that does nothing is not sent on. -/
theorem dispatch_of_isIgnored {call : Call} (h : call.action.isIgnored = true) :
    s.dispatch call = (false, s) := by
  rw [dispatch, if_pos h]

/-- An action for the menus steers them, if it selects nothing. -/
theorem dispatch_of_steers {call : Call} (h : call.action.intent.isMenuDirected = true)
    (hs : call.action.intent ≠ .selectMenuSuggestion) :
    s.dispatch call = (true, s.steer call.action.intent) := by
  have hi : ¬ call.action.isIgnored = true := by
    intro hi
    rw [eq_of_beq hi] at h
    contradiction
  rw [dispatch, if_neg hi, if_neg hs, if_pos h]

/-- To close the menu drops the menus and does nothing else. -/
theorem dispatch_close {call : Call} (h : call.action.intent = .closeValidInsertMenu) :
    s.dispatch call = (true, { s with menu := s.menu.remove }) := by
  rw [dispatch_of_steers (by rw [h]; rfl) (by rw [h]; decide), h]
  rfl

/-! ## Selecting -/

theorem bare_withMenu {c : MenuController} (h : c.config = s.menu.config) :
    ({ s with menu := c } : Session σ).bare = s.bare := by
  simp only [bare, MenuController.remove, h]

/-- The menus that an option was selected in do not count for what it does. -/
theorem runSelection_withMenu {c : MenuController} (h : c.config = s.menu.config)
    (selection : Selection) :
    ({ s with menu := c } : Session σ).runSelection selection = s.runSelection selection := by
  rw [runSelection, bare_withMenu h, runSelection]

/-- Where no leaf is focused, a link may be opened. -/
theorem selectOption_of_eq_none (h : s.menu.select.1 = none) :
    s.selectOption = { s with menu := s.menu.select.2 } := by
  rw [selectOption]
  split
  · next hs => rw [hs]
  · next hs =>
    rw [hs] at h
    contradiction

/-- Selecting changes nothing in the menus before they are dropped. -/
theorem selectOption_of_eq_some {selection : Selection} (h : s.menu.select.1 = some selection) :
    s.selectOption = s.runSelection selection := by
  rw [selectOption]
  split
  · next hs =>
    rw [hs] at h
    contradiction
  · next selection' menu hs =>
    rw [hs, Option.some.injEq] at h
    have hconfig : menu.config = s.menu.config := by
      have hrun := MenuCommand.config_run .select s.menu
      rwa [MenuCommand.run, hs] at hrun
    rw [runSelection_withMenu hconfig, h]

/-- An action that selects is to select the focused option. -/
theorem dispatch_of_selects {call : Call} (h : call.action.intent = .selectMenuSuggestion) :
    s.dispatch call = (true, s.selectOption) := by
  rw [dispatch, if_neg (by simp [Action.isIgnored, h]), if_pos h]

/-- To select an option is to send an action that selects, so what is said of all actions holds
of it. -/
theorem selectOption_eq_dispatch (s : Session σ) :
    s.selectOption = (s.dispatch .selecting).2 := by
  rw [dispatch_of_selects rfl]

/-- The start of autocompletion opens a menu. -/
theorem dispatch_openAutocomplete {call : Call} (h : call.action.intent = .openAutocomplete) :
    s.dispatch call = s.openAutocomplete call := by
  rw [dispatch, if_neg (by simp [Action.isIgnored, h]), if_neg (by simp [h]),
    if_neg (by simp [h, Intent.isMenuDirected]), if_pos h]

/-- What an action comes to that is sent on: nothing is done with it, it selects an option that is
a link, that comes to nothing or that has an action bound to it, which is sent on in its turn, it
is for the menus, it starts autocompletion, or it is for the executer. -/
theorem dispatch_induction {motive : Session σ → Call → Bool × Session σ → Prop}
    (ignored : ∀ s call, call.action.isIgnored = true → motive s call (false, s))
    (opened : ∀ s call, s.menu.select.1 = none →
      motive s call (true, { s with menu := s.menu.select.2 }))
    (dropped : ∀ s call, motive s call (true, s.bare))
    (selected : ∀ s call selection action r, s.menu.select.1 = some selection →
      s.bare.selected? selection = some action → motive s.bare ⟨action, s.bare.context, none⟩ r →
        motive s call (true, r.2))
    (steered : ∀ s call, motive s call (true, s.steer call.action.intent))
    (autocompletes : ∀ s call, call.action.intent = .openAutocomplete →
      motive s call (s.openAutocomplete call))
    (edits : ∀ s call, call.IsForExecuter → call.action.intent ≠ .openAutocomplete →
      motive s call (s.edit call))
    (s : Session σ) (call : Call) : motive s call (s.dispatch call) := by
  by_cases hi : call.action.isIgnored = true
  · rw [dispatch_of_isIgnored hi]
    exact ignored s call hi
  by_cases hs : call.action.intent = .selectMenuSuggestion
  · rw [dispatch_of_selects hs]
    cases hselect : s.menu.select.1 with
    | none =>
      rw [selectOption_of_eq_none hselect]
      exact opened s call hselect
    | some selection =>
      rw [selectOption_of_eq_some hselect, runSelection]
      split
      · exact dropped s call
      · next action ha =>
        -- what is selected is sent on in a session without menus, where it cannot select again
        refine selected s call selection action _ hselect ha ?_
        exact dispatch_induction ignored opened dropped selected steered autocompletes edits _ _
  by_cases hm : call.action.intent.isMenuDirected = true
  · rw [dispatch_of_steers hm hs]
    exact steered s call
  by_cases ho : call.action.intent = .openAutocomplete
  · rw [dispatch_openAutocomplete ho]
    exact autocompletes s call ho
  · rw [Bool.not_eq_true] at hm
    have hacts : call.action.intent ≠ .ignore := by simpa [Action.isIgnored] using hi
    rw [dispatch_eq_edit hacts hm ho]
    exact edits s call ⟨hacts, hm⟩ ho
termination_by s.menu.tree?.isSome.toNat
decreasing_by
  have hthere : s.menu.tree?.isSome = true := tree?_of_select (Prod.ext hselect rfl)
  simp [bare, hthere]

/-- An action that is sent on is told at most once, and so is the one that is bound to the
option that it selects. -/
theorem tells_dispatch (s : Session σ) (call : Call) : s.Tells 1 (s.dispatch call).2 := by
  refine dispatch_induction (motive := fun s _ r => s.Tells 1 r.2) ?_ ?_ ?_ ?_ ?_ ?_ ?_ s call
  · exact fun s _ _ => tells_of_log_eq rfl 1
  · exact fun s _ _ => tells_of_log_eq rfl 1
  · exact fun s _ => tells_of_log_eq rfl 1
  · exact fun s _ _ _ _ _ _ ih => ih
  · exact fun s _ => tells_of_log_eq (s.log_steer _) 1
  · exact fun s call ho => tells_one (s.log_openAutocomplete call)
      ⟨by simp [ho], by simp [ho, Intent.isMenuDirected]⟩
  · exact fun s call hcall _ => tells_one (s.log_edit call) hcall

/-- Selecting an option tells one call at most. -/
theorem tells_selectOption (s : Session σ) : s.Tells 1 s.selectOption :=
  s.selectOption_eq_dispatch ▸ s.tells_dispatch .selecting

/-! ## Keys -/

/-- A key with which no text is committed is sent on as what it comes to. -/
theorem press_of_resolve {key : Key} {action : Action}
    (h : s.resolve key s.context = { action }) :
    s.press key = s.dispatch ⟨action, s.context, some key⟩ := by
  simp only [press, h]

/-- With the menus open, Enter is for them. -/
theorem press_enter {key : Key} (hopen : s.menu.isOpen = true) (hkey : key.class? = some .enter) :
    s.press key = s.dispatch ⟨{ intent := .selectMenuSuggestion }, s.context, some key⟩ :=
  press_of_resolve (Resolver.resolve_of_cons hkey rfl hopen)

/-- With the menus open and the cursor not in text, Right is for them. -/
theorem press_right {key : Key} (hopen : s.menu.isOpen = true)
    (htext : s.queries.textEditable s.context = false) (hkey : key.class? = some .right) :
    s.press key = (true, s.steer .openSubMenu) := by
  have hresolve : s.resolve key s.context = { action := { intent := .openSubMenu } } := by
    refine Resolver.resolve_of_cons hkey rfl ?_
    simp [Resolver.Probe.inText, htext, hopen]
  rw [press_of_resolve hresolve, dispatch_of_steers rfl (by simp)]

/-- A key tells two calls at most, one for what it commits and one for what it comes to. -/
theorem tells_press (s : Session σ) (key : Key) : s.Tells 2 (s.press key).2 := by
  unfold press
  dsimp only
  split
  · exact (s.tells_dispatch _).mono (by decide)
  · exact (s.tells_dispatch _).trans (tells_dispatch _ _)

/-- A key with which no text is committed is told at most once. -/
theorem tells_press_of_no_commit {key : Key}
    (h : (s.resolve key s.context).autoCommit = none) : s.Tells 1 (s.press key).2 := by
  unfold press
  simp only [h]
  exact s.tells_dispatch _

/-- A key with which a text is committed is told after the insertion, in the context that
this leaves, if it is one that leaves the token. -/
theorem log_press_of_commit {key : Key} {commit : Action}
    (h : (s.resolve key s.context).autoCommit = some commit) :
    (s.press key).2.log = s.log ++ ⟨commit, s.context, some key⟩ ::
      if (s.resolve key s.context).action.intent.leavesToken then
        [⟨(s.resolve key s.context).action, (s.environment.queries
          (s.environment.execute ⟨commit, s.context, some key⟩ s.world).2).context, some key⟩]
      else [] := by
  obtain ⟨hinsertion, _, hoff⟩ := Resolver.commit_of_autoCommit h
  have hcommit : s.dispatch ⟨commit, s.context, some key⟩ = s.edit ⟨commit, s.context, some key⟩ :=
    dispatch_eq_edit_of_isInsertion hinsertion
  unfold press
  simp only [h]
  rw [hcommit, context_edit]
  -- a committed text is left by a move, which is told, or by closing the menus, which is not
  change (s.resolve key s.context).action.intent.movesOff = true at hoff
  generalize (s.resolve key s.context).action = action at hoff ⊢
  generalize (s.environment.queries _).context = context
  rcases Intent.movesOff_eq_true_iff.1 hoff with hleaves | hclose
  · have hmove : ∀ u : Session σ, u.dispatch ⟨action, context, some key⟩ =
        u.edit ⟨action, context, some key⟩ := fun u => dispatch_eq_edit_of_leavesToken hleaves
    rw [if_pos hleaves, hmove, log_edit, log_edit, List.append_assoc, List.singleton_append]
  · have hstays : action.intent.leavesToken ≠ true := by
      rw [hclose]
      decide
    rw [if_neg hstays, dispatch_close hclose]
    exact log_edit s _

/-- The calls that a key makes are two just when it commits a text and leaves the token.
Then the insertion comes first, in the context before it, and what the key comes to comes
second, in the context after the insertion. -/
def CommitsFirst (s : Session σ) (key : Key) (calls : List Call) : Prop :=
  let resolution := s.resolve key s.context
  (calls.length = 2 ↔
    resolution.autoCommit.isSome = true ∧ resolution.action.intent.leavesToken = true) ∧
  ∀ commit, resolution.autoCommit = some commit →
    resolution.action.intent.leavesToken = true →
    commit.source = .autocomplete ∧
      calls = [⟨commit, s.context, some key⟩,
        ⟨resolution.action, (s.environment.queries
          (s.environment.execute ⟨commit, s.context, some key⟩ s.world).2).context, some key⟩]

/-- What a key tells is told in the order in which it is done. -/
theorem exists_commitsFirst_press (s : Session σ) (key : Key) :
    ∃ calls, (s.press key).2.log = s.log ++ calls ∧ calls.length ≤ 2 ∧
      s.CommitsFirst key calls := by
  unfold CommitsFirst
  cases h : (s.resolve key s.context).autoCommit with
  | none =>
    obtain ⟨calls, hlog, hlen, _⟩ := tells_press_of_no_commit h
    exact ⟨calls, hlog, by omega, by simp [h]; omega, by simp [h]⟩
  | some commit =>
    refine ⟨_, log_press_of_commit h, ?_⟩
    have hsource := (Resolver.commit_of_autoCommit h).2.1
    split
    · next hleaves => simp [h, hleaves, hsource]
    · next hstays => simp [h, hstays]

/-! ## Other events -/

/-- A button tells one call at most. -/
theorem tells_pressButton (s : Session σ) (request : Request) :
    s.Tells 1 (s.pressButton request).2 := by
  unfold pressButton
  dsimp only
  split
  · exact tells_of_log_eq rfl 1
  · exact s.tells_dispatch _

theorem log_showInserts (s : Session σ) : s.showInserts.2.log = s.log := rfl

theorem log_hover (s : Session σ) (menu : MenuId) (option : Nat) :
    (s.hover menu option).2.log = s.log := rfl

/-- A click tells one call at most. -/
theorem tells_click (s : Session σ) (menu : MenuId) (option : Nat) :
    s.Tells 1 (s.click menu option).2 := by
  unfold click
  dsimp only
  split
  · exact tells_of_log_eq (s.log_hover menu option) 1
  · split
    · exact tells_of_log_eq (s.log_hover menu option) 1
    · exact (tells_of_log_eq (s.log_hover menu option) 0).trans (tells_selectOption _)

/-- No event tells more than two calls. -/
theorem tells_run (e : Event) (s : Session σ) : s.Tells 2 (e.run s).2 := by
  cases e with
  | key key => exact s.tells_press key
  | button request => exact (s.tells_pressButton request).mono (by decide)
  | showInserts => exact tells_of_log_eq s.log_showInserts 2
  | hover menu option => exact tells_of_log_eq (s.log_hover menu option) 2
  | click menu option => exact (s.tells_click menu option).mono (by decide)

/-- However much happens, the executer is told only what is for it. -/
theorem tells_runAll (os : List (Occurrence σ)) (s : Session σ) :
    s.Tells (2 * os.length) (Occurrence.runAll os s) := by
  unfold Occurrence.runAll
  induction os generalizing s with
  | nil => exact tells_of_log_eq rfl 0
  | cons o os ih =>
    have ho : s.Tells 2 (o.run s) := by
      cases o with
      | event e => exact tells_run e s
      | change world => exact tells_of_log_eq rfl 2
    rw [List.length_cons, Nat.mul_succ, Nat.add_comm]
    exact ho.trans (ih _)

/-- What the executer is told, from any session on and whatever is bound to the options of
its menus: by a key two calls at most, an insertion that the key commits before the move
that the key is; by all that happens only what is for it; by the mouse over an option and
by the menu of all insertions nothing; by a button or a click one call at most. -/
theorem calls_of_events (s : Session σ) :
    (∀ key, ∃ calls, (s.press key).2.log = s.log ++ calls ∧ calls.length ≤ 2 ∧
      s.CommitsFirst key calls) ∧
    (∀ os, ∃ calls, (Occurrence.runAll os s).log = s.log ++ calls ∧
      ∀ call ∈ calls, call.action.intent ≠ .ignore ∧ call.action.intent.isMenuDirected = false) ∧
    (∀ menu option, (s.hover menu option).2.log = s.log) ∧
    s.showInserts.2.log = s.log ∧
    (∀ request, ∃ calls, (s.pressButton request).2.log = s.log ++ calls ∧ calls.length ≤ 1) ∧
    ∀ menu option, ∃ calls, (s.click menu option).2.log = s.log ++ calls ∧ calls.length ≤ 1 := by
  refine ⟨s.exists_commitsFirst_press, fun os => ?_, s.log_hover, s.log_showInserts,
    fun request => ?_, fun menu option => ?_⟩
  · obtain ⟨calls, hlog, _, hcalls⟩ := s.tells_runAll os
    exact ⟨calls, hlog, hcalls⟩
  · obtain ⟨calls, hlog, hlen, _⟩ := s.tells_pressButton request
    exact ⟨calls, hlog, hlen⟩
  · obtain ⟨calls, hlog, hlen, _⟩ := s.tells_click menu option
    exact ⟨calls, hlog, hlen⟩

end Session

end StructEdit
