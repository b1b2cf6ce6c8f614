import StructEdit.Proofs.Menu.Answers
import StructEdit.Proofs.Menu.Chain
import StructEdit.Proofs.Resolver.Payloads
import StructEdit.Proofs.Session.Commands
import StructEdit.Proofs.Session.Selections

/-!
# StructEdit.Proofs.Session.Provenance

Where insertions come from. A history says what opened the menus that are there
(`Occurrence.openerAll`), and the source that a session keeps is always that of what opened
its menus (`Session.attributed_runAll`), whatever opened or failed to open before. Main
statement: `Session.leaf_inserts_for_opener`, what selecting a leaf comes to.
-/

namespace StructEdit

/-! ## What opens menus -/

/-- What opens menus. -/
inductive Opener where
  /-- The start of an autocompletion. -/
  | autocompletion
  /-- The menu of everything that can be inserted. -/
  | inserts
deriving DecidableEq

/-- The source that is due to what is inserted from the menus. -/
def Opener.source : Opener → Source
  | .autocompletion => .autocomplete
  | .inserts => .toolbox

/-- The executer is told that autocompletion starts. -/
def Call.starts (call : Call) : Bool := call.action.intent == .openAutocomplete

namespace Occurrence

variable {σ : Type}

/-- What opened the menus that are there after an occurrence, given what opened those that
were there before. -/
def opener (o : Occurrence σ) (s : Session σ) (before : Option Opener) : Option Opener :=
  let t := o.run s
  if t.menu.tree?.isNone then none
  else if (t.log.drop s.log.length).any Call.starts then some .autocompletion
  else
    match o with
    | .event .showInserts => some .inserts
    | _ => before

/-- What opened the menus that are there after one occurrence after the other. -/
def openerAll : List (Occurrence σ) → Session σ → Option Opener → Option Opener
  | [], _, before => before
  | o :: os, s, before => openerAll os (o.run s) (o.opener s before)

end Occurrence

/-! ## Starts of autocompletion -/

/-- If autocompletion starts with the action, the action says what is on offer. -/
def Action.Offers (a : Action) : Prop :=
  a.intent = .openAutocomplete → ∃ kind first pattern records,
    a.payload = some (.autocomplete kind first pattern records)

/-- An insertion starts no autocompletion. -/
theorem Action.offers_of_isInsertion {a : Action} (h : a.intent.isInsertion = true) : a.Offers :=
  fun ho => absurd ho (Intent.ne_openAutocomplete_of_isInsertion h)

/-- A key that starts autocompletion says what is on offer. -/
theorem Resolver.offers_resolve (r : Resolver) (q : Queries) (menuOpen : Bool) (key : Key)
    (context : Context) : (r.resolve q menuOpen key context).action.Offers := by
  intro ho
  rcases r.delivers_resolve q menuOpen key context with ⟨_, hcarries⟩ | hcompletes
  · rw [ho] at hcarries
    generalize (r.resolve q menuOpen key context).action.payload = payload at hcarries
    cases hcarries with
    | autocomplete kind c => exact ⟨kind, c, _, _, rfl⟩
    | bare _ hbare => contradiction
  · obtain ⟨_, _, _, _, _, _, _, hcarries⟩ := hcompletes
    rw [ho] at hcarries
    contradiction

/-! ## Leaves -/

namespace MenuController

variable {c : MenuController} {id : MenuId} {m : Menu} {index : Nat} {o : MenuOption}
  {selection : Selection}

/-- What is bound to the leaf in focus is selected. -/
theorem select_of_leaf (hfocus : c.panel.bind (·.focusedOption?) = some o)
    (ht : o.target = .select selection) : c.select.1 = some selection := by
  obtain ⟨p, hp, ho⟩ := Option.bind_eq_some_iff.1 hfocus
  rw [select_eq_mapPanel, hp]
  simp only [Option.bind_some, MenuPanel.select, ho, ht]

/-- The focus can move to a leaf that there is, and what is bound to it is selected then. -/
theorem Focused.focus_leaf (h : c.Focused) (hm : c.menu? id = some m)
    (ho : m.options[index]? = some o) (ht : o.target = .select selection) :
    (c.focus id index).1 = true ∧
      (((c.focus id index).2.menu? id).bind (·.options[index]?)).any (·.isLink) = false ∧
      (c.focus id index).2.select.1 = some selection := by
  obtain ⟨d, hd, _, hat, hfocus⟩ := h.focus_option hm ho
  rw [hd]
  refine ⟨rfl, ?_, select_of_leaf hfocus ht⟩
  simp [hat, MenuOption.isLink, MenuOption.child?, ht]

/-- No leaf of menus of insertions takes an action as it is. -/
theorem Offering.target_ne_edit (h : c.Offering) (hm : c.menu? id = some m)
    (ho : m.options[index]? = some o) (ht : o.target = .select selection) (a : Action) :
    selection ≠ .edit a := by
  rintro rfl
  obtain ⟨p, hp, hm⟩ := exists_panel_of_menu? hm
  refine (h p hp).inserts id m hm o (List.mem_of_getElem? ho) a ?_
  simp [MenuOption.selection?, ht]

end MenuController

namespace Session

variable {σ : Type} {s t u : Session σ}

/-! ## The source between two sessions -/

/-- From the first session to the second one autocompletion started, and what is selected
is of autocompletion; or it did not start, no menus came up, and the source is as it was. -/
def Keeps (s t : Session σ) : Prop :=
  ∃ calls, t.log = s.log ++ calls ∧
    if calls.any Call.starts then t.menuSource = .autocomplete
    else t.menuSource = s.menuSource ∧ (t.menu.panel.isSome = true → s.menu.panel.isSome = true)

/-- Where the executer was told nothing and no menus came up, the source is kept. -/
theorem keeps_of_log_eq (hlog : t.log = s.log) (hsource : t.menuSource = s.menuSource)
    (hpanel : t.menu.panel.isSome = true → s.menu.panel.isSome = true) : s.Keeps t :=
  ⟨[], by rw [hlog, List.append_nil], hsource, hpanel⟩

theorem Keeps.trans (h : s.Keeps t) (h' : t.Keeps u) : s.Keeps u := by
  obtain ⟨calls, hlog, hkeeps⟩ := h
  obtain ⟨calls', hlog', hkeeps'⟩ := h'
  refine ⟨calls ++ calls', by rw [hlog', hlog, List.append_assoc], ?_⟩
  rw [List.any_append]
  -- the later start of autocompletion decides; an earlier one does where there is none
  cases hc' : calls'.any Call.starts with
  | true =>
    rw [hc', if_pos rfl] at hkeeps'
    simpa using hkeeps'
  | false =>
    rw [hc', if_neg (by decide)] at hkeeps'
    rw [Bool.or_false, hkeeps'.1]
    split at hkeeps
    · next hc => rwa [if_pos hc]
    · next hc =>
      rw [if_neg hc]
      exact ⟨hkeeps.1, fun hu => hkeeps.2 (hkeeps'.2 hu)⟩

/-! ### Sending an action on -/

/-- Steering brings no menus up. -/
theorem keeps_steer (s : Session σ) (intent : Intent) : s.Keeps (s.steer intent) := by
  refine keeps_of_log_eq (s.log_steer intent) ?_ ?_
  · unfold steer
    split <;> rfl
  · unfold steer
    split
    · exact (@MenuController.isSome_panel_run s.menu .focusBelow rfl).le
    · exact (@MenuController.isSome_panel_run s.menu .focusAbove rfl).le
    · exact (@MenuController.isSome_panel_run s.menu .openSubMenu rfl).le
    · exact (@MenuController.isSome_panel_run s.menu .closeSubMenu rfl).le
    · simp
    · exact id

/-- The start of autocompletion sets the source to its own. -/
theorem keeps_openAutocomplete {call : Call} (ho : call.action.intent = .openAutocomplete)
    (hcall : call.action.Offers) : s.Keeps (s.openAutocomplete call).2 := by
  obtain ⟨kind, first, pattern, records, hpayload⟩ := hcall ho
  refine ⟨[call], s.log_openAutocomplete call, ?_⟩
  rw [if_pos (by simp [Call.starts, ho])]
  exact menuSource_openAutocomplete hpayload

/-- Any other edit leaves the source as it is. -/
theorem keeps_edit {call : Call} (ho : call.action.intent ≠ .openAutocomplete) :
    s.Keeps (s.edit call).2 := by
  refine ⟨[call], s.log_edit call, ?_⟩
  rw [if_neg (by simpa [Call.starts] using ho)]
  unfold edit
  split
  · exact ⟨rfl, by simp [execute]⟩
  · exact ⟨rfl, id⟩

theorem keeps_bare (s : Session σ) : s.Keeps s.bare := keeps_of_log_eq rfl rfl (by simp [bare])

/-- An action that is sent on sets the source just when it starts autocompletion. -/
theorem keeps_dispatch (h : s.menu.Offering) {call : Call} (hcall : call.action.Offers) :
    s.Keeps (s.dispatch call).2 := by
  revert h hcall
  refine dispatch_induction (motive := fun s call r => s.menu.Offering → call.action.Offers →
    s.Keeps r.2) ?_ ?_ ?_ ?_ ?_ ?_ ?_ s call
  · exact fun s _ _ _ _ => keeps_of_log_eq rfl rfl id
  · exact fun s _ _ _ _ =>
      keeps_of_log_eq rfl rfl (@MenuController.isSome_panel_run s.menu .select rfl).le
  · exact fun s _ _ _ => s.keeps_bare
  · intro s _ selection action r hs ha ih h _
    -- what is bound to an option only inserts, so it does not start autocompletion
    have hinsertion : action.intent.isInsertion = true := by
      refine isInsertion_of_selected? (fun a he => h.select_ne_edit a ?_) ha
      rw [hs, he]
    exact s.keeps_bare.trans
      (ih (MenuController.all_of_panel_eq_none rfl) (Action.offers_of_isInsertion hinsertion))
  · exact fun s _ _ _ => s.keeps_steer _
  · exact fun s call ho _ hcall => keeps_openAutocomplete ho hcall
  · exact fun s call _ ho _ _ => keeps_edit ho

theorem keeps_selectOption (h : s.menu.Offering) : s.Keeps s.selectOption := by
  have hcall : Call.selecting.action.Offers := by simp [Action.Offers, Call.selecting]
  exact s.selectOption_eq_dispatch ▸ keeps_dispatch h hcall

/-! ### Events -/

/-- A key starts autocompletion by what it comes to, never by what it commits. -/
theorem keeps_press (h : s.menu.Offering) (key : Key) : s.Keeps (s.press key).2 := by
  have haction := s.resolver.offers_resolve s.queries s.menu.isOpen key s.context
  unfold press
  dsimp only
  split
  · exact keeps_dispatch h haction
  · next commit hc =>
    obtain ⟨hinsertion, _⟩ := Resolver.commit_of_autoCommit hc
    exact (keeps_dispatch h (Action.offers_of_isInsertion hinsertion)).trans
      (keeps_dispatch (settles_dispatch h (.inl hinsertion)).1 haction)

theorem keeps_pressButton (h : s.menu.Offering) (request : Request) :
    s.Keeps (s.pressButton request).2 := by
  unfold pressButton
  dsimp only
  split
  · exact keeps_of_log_eq rfl rfl id
  · next hi =>
    rw [Bool.not_eq_true] at hi
    exact keeps_dispatch h (Action.offers_of_isInsertion (Toolbox.isInsertion_route hi))

/-- The mouse brings no menus up. -/
theorem keeps_hover (s : Session σ) (menu : MenuId) (option : Nat) :
    s.Keeps (s.hover menu option).2 := by
  refine keeps_of_log_eq rfl rfl fun hpanel => ?_
  rwa [hover, MenuController.panel_focus, Option.isSome_map] at hpanel

/-- A click brings no menus up but through what it selects. -/
theorem keeps_click (h : s.menu.Offering) (menu : MenuId) (option : Nat) :
    s.Keeps (s.click menu option).2 := by
  have hhover := s.keeps_hover menu option
  have hoffering : (s.hover menu option).2.menu.Offering := h.focus menu option
  unfold click
  dsimp only
  split
  · exact hhover
  · split
    · exact hhover.trans <|
        keeps_of_log_eq rfl rfl (@MenuController.isSome_panel_run _ .openSubMenu rfl).le
    · exact hhover.trans (keeps_selectOption hoffering)

/-! ## The source of the menus that are there -/

/-- The menus that there are, if there are any, are those of an opener, and what is selected
in them is of its source. -/
def Attributed (s : Session σ) (opener : Option Opener) : Prop :=
  opener.map Opener.source = s.menu.panel.map fun _ => s.menuSource

/-- The source is that of the opener. -/
theorem Attributed.menuSource_eq {opener : Opener} (h : s.Attributed (some opener)) :
    s.menuSource = opener.source := by
  obtain ⟨_, _, hsource⟩ := Option.map_eq_some_iff.1 h.symm
  exact hsource

/-- Menus that are there have an opener. -/
theorem Attributed.exists_opener {opener : Option Opener} (h : s.Attributed opener)
    (hpanel : s.menu.panel.isSome = true) : ∃ o, opener = some o := by
  rw [← Option.isSome_iff_exists, ← Option.isSome_map, h, Option.isSome_map, hpanel]

theorem attributed_none (h : s.menu.panel = none) : s.Attributed none := by
  rw [Attributed, h, Option.map_none, Option.map_none]

/-- Menus that are there are those of an opener if the source is its own. -/
theorem attributed_some {opener : Opener} (h : s.menu.panel.isSome = true)
    (hsource : s.menuSource = opener.source) : s.Attributed (some opener) := by
  obtain ⟨p, hp⟩ := Option.isSome_iff_exists.1 h
  rw [Attributed, hp, Option.map_some, Option.map_some, hsource]

/-- Where menus are kept or autocompletion starts, a start of autocompletion decides. -/
theorem Keeps.attributed (h : s.Keeps t) {before : Option Opener} (hs : s.Attributed before) :
    t.Attributed (if t.menu.tree?.isNone then none
      else if (t.log.drop s.log.length).any Call.starts then some .autocompletion
      else before) := by
  obtain ⟨calls, hlog, hkeeps⟩ := h
  rw [hlog, List.drop_left]
  cases ht : t.menu.tree? with
  | none => exact attributed_none (MenuController.panel_eq_none_iff.2 ht)
  | some tree =>
    have hsome : t.menu.panel.isSome = true := by
      rw [MenuController.isSome_panel, ht, Option.isSome_some]
    rw [Option.isNone_some, if_neg (by decide)]
    split at hkeeps
    · next hc =>
      rw [if_pos hc]
      exact attributed_some hsome hkeeps
    · next hc =>
      rw [if_neg hc]
      obtain ⟨hsource, hkept⟩ := hkeeps
      obtain ⟨opener, rfl⟩ := hs.exists_opener (hkept hsome)
      exact attributed_some hsome (hsource.trans hs.menuSource_eq)

/-- The menu of everything has its opener when it comes up. -/
theorem attributed_showInserts (s : Session σ) :
    s.showInserts.2.Attributed
      (if s.showInserts.2.menu.tree?.isNone then none else some .inserts) := by
  cases ht : s.showInserts.2.menu.tree? with
  | none => exact attributed_none (MenuController.panel_eq_none_iff.2 ht)
  | some tree =>
    exact attributed_some (by rw [MenuController.isSome_panel, ht, Option.isSome_some]) rfl

/-- The source is that of what opened the menus, after one more occurrence. -/
theorem attributed_run (h : s.menu.Offering) {before : Option Opener} (hs : s.Attributed before)
    (o : Occurrence σ) : (o.run s).Attributed (o.opener s before) := by
  cases o with
  | change world =>
    have hkeeps : s.Keeps { s with world } := keeps_of_log_eq rfl rfl id
    exact hkeeps.attributed hs
  | event e =>
    cases e with
    | key key => exact (keeps_press h key).attributed hs
    | button request => exact (keeps_pressButton h request).attributed hs
    | hover menu option => exact (s.keeps_hover menu option).attributed hs
    | click menu option => exact (keeps_click h menu option).attributed hs
    | showInserts =>
      have hlog : (s.showInserts.2.log.drop s.log.length).any Call.starts = false := by
        rw [log_showInserts, List.drop_length, List.any_nil]
      have hopener : (Occurrence.event .showInserts).opener s before =
          if s.showInserts.2.menu.tree?.isNone then none else some .inserts := by
        simp only [Occurrence.opener, Occurrence.run, Event.run, hlog, Bool.false_eq_true, if_false]
      rw [hopener]
      exact s.attributed_showInserts

/-- The source is that of what opened the menus, whatever happened. -/
theorem attributed_runAll (h : s.menu.Offering) {before : Option Opener}
    (hs : s.Attributed before) (os : List (Occurrence σ)) :
    (Occurrence.runAll os s).Attributed (Occurrence.openerAll os s before) := by
  unfold Occurrence.runAll
  induction os generalizing s before with
  | nil => exact hs
  | cons o os ih => exact ih (offering_runAll h [o]) (attributed_run h hs o)

/-! ## Selecting a leaf -/

variable {id : MenuId} {m : Menu} {index : Nat} {o : MenuOption} {selection : Selection}

/-- A leaf was selected: the menus are gone, and the executer was told what the leaf inserts
and nothing else, with a source. -/
structure Takes (s : Session σ) (source : Source) (selection : Selection)
    (r : Bool × Session σ) : Prop where
  answer : r.1 = true
  gone : r.2.menu.tree? = none
  /-- The request is routed in the context at the cursor when the menus are gone. -/
  told : ∀ request, selection = .insert request →
    (s.bare.route request s.bare.context).isIgnored = false →
      r.2.log = s.log ++
        [⟨(s.bare.route request s.bare.context).fromSource source, s.bare.context, none⟩]
  dropped : ∀ request, selection = .insert request →
    (s.bare.route request s.bare.context).isIgnored = true → r.2.log = s.log
  noop : selection = .noop → r.2.log = s.log
  /-- No leaf takes an action as it is. -/
  no_edit : ∀ action, selection ≠ .edit action

/-- What is bound to a leaf that inserts is carried out with the source that is kept. -/
theorem takes_runSelection (h : ∀ a, selection ≠ .edit a) :
    s.Takes s.menuSource selection (true, s.runSelection selection) := by
  cases selection with
  | edit a => exact absurd rfl (h a)
  | noop =>
    have hbare : s.runSelection .noop = s.bare := by
      rw [runSelection]
      rfl
    exact hbare ▸ ⟨rfl, rfl, by simp, by simp, fun _ => rfl, h⟩
  | insert request =>
    have hsource : ((s.route request s.context).fromSource s.menuSource).isIgnored =
        (s.bare.route request s.bare.context).isIgnored := Action.isIgnored_fromSource ..
    rw [runSelection_insert, inserted, hsource]
    cases hi : (s.bare.route request s.bare.context).isIgnored with
    | true =>
      -- the request comes to nothing where it is, so there is nothing to be told
      refine ⟨rfl, rfl, ?_, fun _ _ _ => rfl, by simp, h⟩
      rintro _ ⟨⟩ hacts
      rw [hi] at hacts
      contradiction
    | false =>
      refine ⟨rfl, rfl, ?_, ?_, by simp, h⟩
      · rintro _ ⟨⟩ _
        rfl
      · rintro _ ⟨⟩ hignored
        rw [hi] at hignored
        contradiction

/-- A click on a leaf selects it, wherever the focus was. -/
theorem takes_click (h : s.menu.Focused) (hm : s.menu.menu? id = some m)
    (ho : m.options[index]? = some o) (ht : o.target = .select selection)
    (hedit : ∀ a, selection ≠ .edit a) :
    s.Takes s.menuSource selection (s.click id index) := by
  obtain ⟨hfound, hlink, hselect⟩ := h.focus_leaf hm ho ht
  have hout : (s.hover id index).2.runSelection selection = s.runSelection selection :=
    runSelection_withMenu (MenuCommand.config_run (.focus id index) s.menu) selection
  have hclick : s.click id index = (true, s.runSelection selection) := by
    rw [← hout, click, hover]
    dsimp only
    rw [hfound, hlink, selectOption_of_eq_some hselect]
    rfl
  rw [hclick]
  exact takes_runSelection hedit

/-- With the menus open, Enter selects the focused leaf. -/
theorem takes_press (hopen : s.menu.isOpen = true) (hm : s.menu.menu? id = some m)
    (ho : m.options[index]? = some o) (ht : o.target = .select selection)
    (hid : s.menu.focusedMenuId? = some id) (hi : s.menu.focusedOption? = some index)
    (hedit : ∀ a, selection ≠ .edit a) {key : Key} (hkey : key.class? = some .enter) :
    s.Takes s.menuSource selection (s.press key) := by
  have hselect : s.menu.select.1 = some selection :=
    MenuController.select_of_leaf (MenuController.focusedOption?_of_get? hm ho hid hi) ht
  have hpress : s.press key = (true, s.runSelection selection) := by
    rw [press_enter hopen hkey, dispatch_of_selects rfl, selectOption_of_eq_some hselect]
  rw [hpress]
  exact takes_runSelection hedit

/-- Whatever happened to a session, a leaf of the menus that are there can be selected, by a
click and, when it is in focus, by Enter. Then the menus are gone, and what the executer is
told is the insertion that the leaf is bound to, if it still comes to one, as one of what
opened the menus. -/
theorem leaf_inserts_for_opener (compile? : PatternCompiler) (config : Config)
    (environment : Environment σ) (world : σ) (os : List (Occurrence σ)) (id : MenuId) (m : Menu)
    (index : Nat) (o : MenuOption) (selection : Selection) :
    let s₀ := ofConfigWith compile? config environment world
    let s := Occurrence.runAll os s₀
    s.menu.menu? id = some m → m.options[index]? = some o → o.target = .select selection →
      ∃ opener, Occurrence.openerAll os s₀ none = some opener ∧
        s.Takes opener.source selection (s.click id index) ∧
        (s.menu.focusedMenuId? = some id → s.menu.focusedOption? = some index →
          s.menu.isOpen = true ∧ ∀ key : Key, key.class? = some .enter →
            s.Takes opener.source selection (s.press key)) := by
  intro s₀ s hm ho ht
  have hs₀ : s₀.menu.Offering := MenuController.all_of_panel_eq_none rfl
  have hoffering : s.menu.Offering := offering_runAll hs₀ os
  have hfocused : s.menu.Focused := focused_runAll compile? config environment world os
  have hpanel : s.menu.panel.isSome = true := by
    obtain ⟨p, hp, _⟩ := MenuController.exists_panel_of_menu? hm
    rw [hp, Option.isSome_some]
  -- menus of insertions are open for as long as they are there
  have hopen : s.menu.isOpen = true := by
    rwa [← hoffering.isSome_tree?_iff, ← MenuController.isSome_panel]
  have hedit : ∀ a, selection ≠ .edit a := hoffering.target_ne_edit hm ho ht
  have hattributed := attributed_runAll hs₀ (attributed_none rfl) os
  obtain ⟨opener, hopener⟩ := hattributed.exists_opener hpanel
  rw [hopener] at hattributed
  refine ⟨opener, hopener, ?_, fun hid hi => ⟨hopen, fun key hkey => ?_⟩⟩
  · rw [← hattributed.menuSource_eq]
    exact takes_click hfocused hm ho ht hedit
  · rw [← hattributed.menuSource_eq]
    exact takes_press hopen hm ho ht hid hi hedit hkey

/-- The match that typing `w` offers is inserted as one of autocompletion, by a click and by
Enter when it is in focus: either way the executer is told of the `while` statement. -/
theorem typed_match_inserts :
    let record : Insertion :=
      ⟨"while", "while", { kind := .whileStmt, construct := "while" }, .valid⟩
    let script : Script := { holds := Script.holding [.onBeginningOfLine], insertions := [record] }
    let s₀ := ofConfigWith (fun _ => .ok fun _ => true) {} (.scripted true) script
    let os : List (Occurrence Script) := [.event (.key ⟨.char 'w', {}⟩), .event (.hover 0 0)]
    let s := Occurrence.runAll os s₀
    let inserts : Call :=
      ⟨⟨.insertStatement, some (.statement "while"), .autocomplete⟩, script.context, none⟩
    Occurrence.openerAll os s₀ none = some .autocompletion ∧
      s.Takes .autocomplete (.insert record.request) (s.click 0 0) ∧
      (s.click 0 0).2.log = s.log ++ [inserts] ∧
      s.Takes .autocomplete (.insert record.request) (s.press ⟨.enter, {}⟩) ∧
      (s.press ⟨.enter, {}⟩).2.log = s.log ++ [inserts] := by
  intro record script s₀ os s inserts
  let call : Call := ⟨⟨.openAutocomplete, some (.autocomplete .startOfLine 'w'
    ({} : TriggerConfig).startOfLine [record]), .keyboard⟩, s₀.context, some ⟨.char 'w', {}⟩⟩
  let shown : MenuPanel := .ofTree (.single (s₀.matchMenu [record] call.context))
  let t := (s₀.press ⟨.char 'w', {}⟩).2
  have ht : t = (s₀.openAutocomplete call).2 := by
    rw [← dispatch_openAutocomplete rfl]
    rfl
  have hshown : t.menu.panel = some shown := by rw [ht, panel_openAutocomplete rfl (by simp)]
  have hpanel : s.menu.panel = some (shown.focus 0 0) := by
    change (t.menu.focus 0 0).2.panel = _
    rw [MenuController.panel_focus, hshown]
    rfl
  have hqueries : s.queries = script.queries := by
    change t.queries = _
    rw [ht]
    rfl
  have hfirst : Occurrence.opener (.event (.key ⟨.char 'w', {}⟩)) s₀ none =
      some .autocompletion := by
    change (if t.menu.tree?.isNone then none
      else if (t.log.drop s₀.log.length).any Call.starts then some Opener.autocompletion
      else none) = some .autocompletion
    rw [MenuController.tree?_of_panel hshown, ht, log_openAutocomplete, List.drop_left]
    rfl
  have hopener : Occurrence.openerAll os s₀ none = some .autocompletion := by
    change Occurrence.opener (.event (.hover 0 0)) t (Occurrence.opener _ s₀ none) = _
    rw [hfirst]
    change (if s.menu.tree?.isNone then none
      else if (t.log.drop t.log.length).any Call.starts then some Opener.autocompletion
      else some .autocompletion) = some .autocompletion
    rw [MenuController.tree?_of_panel hpanel, ite_self]
    rfl
  have hm : s.menu.menu? 0 =
      some ((s₀.matchMenu [record] call.context).opened.clearFocus.opened.highlight 0) := by
    rw [MenuController.menu?_of_panel hpanel]
    rfl
  have hid : s.menu.focusedMenuId? = some 0 := by
    rw [MenuController.focusedMenuId?_of_panel hpanel]
    rfl
  have hi : s.menu.focusedOption? = some 0 := by
    rw [MenuController.focusedOption?_of_panel hpanel]
    rfl
  have hroute : s.bare.route record.request s.bare.context =
      ⟨.insertStatement, some (.statement "while"), .toolbox⟩ := by
    change Toolbox.route s.queries record.request s.queries.context = _
    rw [hqueries]
    rfl
  have hcontext : s.bare.context = script.context := congrArg Queries.context hqueries
  -- what a leaf takes is routed when the menus are gone, with the source of what opened them
  have hlog {r : Bool × Session Script} (h : s.Takes .autocomplete (.insert record.request) r) :
      r.2.log = s.log ++ [inserts] := by
    rw [h.told record.request rfl (by rw [hroute]; rfl), hroute, hcontext]
    rfl
  obtain ⟨opener, hsame, hclick, henter⟩ := leaf_inserts_for_opener (fun _ => .ok fun _ => true)
    {} (.scripted true) script os 0 _ 0 _ (.insert record.request) hm rfl rfl
  obtain rfl := Option.some.inj (hopener.symm.trans hsame)
  have hpress := (henter hid hi).2 ⟨.enter, {}⟩ rfl
  exact ⟨hopener, hclick, hlog hclick, hpress, hlog hpress⟩

end Session

end StructEdit
