import StructEdit.Proofs.Menu.Trail

/-!
# StructEdit.Proofs.Menu.Chain

What is open while keys move the focus through menus that were built: nothing, or the
chain of menus from the root to the focused one and at most the menu that the focused
option links to (`MenuPanel.OpensChain`). Main statement:
`MenuController.chain_runAll_of_builder`, for whatever is done to the menus after they
were built, a jump to an option apart.
-/

namespace StructEdit

/-! ## Panels -/

namespace MenuPanel

variable {p : MenuPanel} {f : MenuId} {preview : Option MenuId}

/-- All menus are closed, no option is highlighted, and the focus is on the root. -/
structure AllClosed (p : MenuPanel) : Prop where
  focused : p.focusedMenuId? = some p.tree.root
  closed : p.tree.Every fun m => m.isOpen = false ∧ ∀ o ∈ m.options, o.focused = false

/-- The open menus are the chain of menus from the root to the focused menu `f`, and
perhaps the menu that the focused option links to. Every menu of the chain but the last
has the link to the next one as its highlighted option and as the link it remembers, and
no menu off the chain has a highlighted option. -/
structure OpensChain (p : MenuPanel) (f : MenuId) : Prop where
  focused : p.focusedMenuId? = some f
  below_root : p.tree.Below p.tree.root f
  isOpen : (∀ x, p.tree.isOpen x = true ↔ p.tree.Below x f) ∨
    ∃ o c, p.focusedOption? = some o ∧ o.child? = some c ∧
      ∀ x, p.tree.isOpen x = true ↔ p.tree.Below x f ∨ x = c
  points : ∀ a b, p.tree.IsChild a b → p.tree.Below b f →
    ∃ m, p.tree.get? a = some m ∧ m.PointsTo b
  unfocused : ∀ x m, p.tree.get? x = some m → ¬ p.tree.Below x f →
    ∀ o ∈ m.options, o.focused = false

/-- A panel that is shut has all menus closed and no focus on an option. -/
theorem Shut.allClosed (h : p.Shut) (hs : p.Sound) : p.AllClosed where
  focused := h.focused
  closed id m hm := by
    have hclosed := h.closed id m hm
    have hnone : m.focused? = none := (hs.orderly id m hm).focused?_eq_none hclosed
    exact ⟨hclosed, by simpa [Menu.focused?] using hnone⟩

/-- The open menus are those from the root down to the focused one, and the one behind the focused
link. -/
theorem At.isOpen_iff (h : p.At f preview) (hr : p.tree.Rooted) {x : MenuId} :
    p.tree.isOpen x = true ↔ p.tree.Below x f ∨ preview = some x := by
  constructor
  · intro hopen
    obtain ⟨m, hm, hopen⟩ := MenuTree.isOpen_iff.1 hopen
    by_cases hx : p.tree.Below x f
    · exact .inl hx
    · exact .inr ((h.leads.apart hm hx).1.1 hopen)
  · rintro (hx | hx)
    · exact h.leads.isOpen_of_below h.isOpen hx
    · have hchild := h.leads.preview hx
      obtain ⟨m, hm, _⟩ := hr.parent_of_child hchild
      have happart := h.leads.apart hm (hr.not_below_parent h.leads.live hchild)
      exact MenuTree.isOpen_iff.2 ⟨m, hm, happart.1.2 hx⟩

/-- On the way from the root the open menus make a chain down to the focused one. -/
theorem At.opensChain (h : p.At f preview) (hr : p.tree.Rooted) : p.OpensChain f where
  focused := h.focused
  below_root := h.leads.live
  isOpen := by
    cases preview with
    | none => exact .inl fun x => by simp [h.isOpen_iff hr]
    | some c =>
      obtain ⟨o, ho, hc⟩ := h.linked c rfl
      exact .inr ⟨o, c, ho, hc, fun x => by simp [h.isOpen_iff hr, eq_comm]⟩
  points a b hab hb := by
    obtain ⟨m, hm, _, hpoint⟩ := h.leads.way hab hb
    exact ⟨m, hm, hpoint⟩
  unfocused x m hm hx := by
    simpa [Menu.focused?] using (h.leads.apart hm hx).2

/-- On a trail the menus are all closed, or the open ones make a chain. -/
theorem OnTrail.allClosed_or_opensChain (h : p.OnTrail) : p.AllClosed ∨ ∃ f, p.OpensChain f := by
  rcases h.trail with hs | ⟨f, preview, hat⟩
  · exact .inl (hs.allClosed h.toSound)
  · exact .inr ⟨f, hat.opensChain h.rooted⟩

/-- On the way that the open menus make, going back from a menu below another one lands on the
link to the menu that is left. -/
theorem OnTrail.exists_closeSubMenu? (h : p.OnTrail) {id parent : MenuId} {m : Menu}
    (hid : p.focusedMenuId? = some id) (hm : p.tree.get? id = some m)
    (hparent : m.parent = some parent) :
    ∃ q o, p.closeSubMenu? = some q ∧ q.focusedMenuId? = some parent ∧
      q.focusedOption? = some o ∧ o.child? = some id := by
  rcases h.trail with hs | ⟨f, preview, hat⟩
  · rw [hs.focused, Option.some.injEq] at hid
    subst hid
    rw [h.rooted.parent_root m hm] at hparent
    contradiction
  · rw [hat.focused, Option.some.injEq] at hid
    subst hid
    obtain ⟨q, o, hq, hback, ho, hc⟩ := hat.closeSubMenu? h.toFocused h.navigable hm hparent
    exact ⟨q, o, hq, hback.focused, ho, hc⟩

end MenuPanel

/-! ## The menus of an editor -/

namespace MenuCommand

/-- The operation builds menus. -/
def isBuilder : MenuCommand → Bool
  | build .. | buildFlat .. | buildAvailable .. => true
  | _ => false

/-- The operation opens or closes the menus, moves the focus one option or one menu
further, or selects. -/
def isSteering : MenuCommand → Bool
  | toggleRoot | focusBelow | focusAbove | openSubMenu | closeSubMenu | select => true
  | _ => false

end MenuCommand

namespace MenuController

variable {c : MenuController}

/-- There are menus, with the focus on the way that the open ones make. -/
structure OnTrail (c : MenuController) : Prop where
  isSome : c.panel.isSome = true
  all : c.All MenuPanel.OnTrail

/-- Going back from a menu below another one lands on the link to the menu that is left. -/
def GoesBackToLink (c : MenuController) : Prop :=
  ∀ id m parent, c.focusedMenuId? = some id → c.menu? id = some m → m.parent = some parent →
    c.closeSubMenu.1 = true ∧ c.closeSubMenu.2.focusedMenuId? = some parent ∧
      ∃ o, c.closeSubMenu.2.panel.bind (·.focusedOption?) = some o ∧ o.child? = some id

/-- On a trail, going back lands on the link that leads to the menu that was left. -/
theorem OnTrail.goesBackToLink (h : c.OnTrail) : c.GoesBackToLink := by
  intro id m parent hid hm hparent
  obtain ⟨p, hp⟩ := Option.isSome_iff_exists.1 h.isSome
  rw [focusedMenuId?_of_panel hp] at hid
  rw [menu?_of_panel hp] at hm
  obtain ⟨q, o, hq, hback, ho, hc⟩ := (h.all p hp).exists_closeSubMenu? hid hm hparent
  have hleft : c.closeSubMenu.2.panel = some q := by
    rw [panel_closeSubMenu, hp, Option.map_some, hq, Option.getD_some]
  refine ⟨?_, (focusedMenuId?_of_panel hleft).trans hback, o, ?_, hc⟩
  · rw [closeSubMenu_eq_mapPanel, hp, Option.bind_some, hq, Option.isSome_some]
  · rw [hleft, Option.bind_some, ho]

/-- Menus that are built start a trail. -/
theorem onTrail_build {entries : Entries} {rootKey : String}
    {actions : String → Option Selection} {anchor : Anchor}
    (h : (c.build entries rootKey actions anchor).1 = true) :
    (c.build entries rootKey actions anchor).2.OnTrail := by
  rw [build_fst] at h
  refine ⟨?_, c.all_build fun t ht => ?_⟩
  · rwa [panel_build, Option.isSome_map]
  · have hnav := MenuTree.navigable_of_build? ht
    refine MenuPanel.onTrail_ofTree hnav.collapse ?_ ?_
    · exact hnav.unfocused_collapse fun id m hm o ho => MenuTree.unfocused_of_build? ht hm ho
    · exact hnav.closed_collapse (MenuTree.closed_of_build? ht)

/-- Menus that were just built are on the way that starts at the root. -/
theorem onTrail_of_builder {builder : MenuCommand} (hb : builder.isBuilder = true)
    (h : (builder.run c).1 = .flag true) : (builder.run c).2.OnTrail := by
  cases builder with
  | build entries rootKey actions anchor => exact onTrail_build (MenuReply.flag.inj h)
  | buildFlat suggestions actions anchor =>
    have h := MenuReply.flag.inj h
    simp only [MenuCommand.run, buildFlat] at h ⊢
    split
    · next hempty => simp [hempty] at h
    · next hempty =>
      rw [if_neg hempty] at h
      exact onTrail_build h
  | buildAvailable suggestions actions anchor => exact onTrail_build (MenuReply.flag.inj h)
  | _ => contradiction

/-- Moving the focus neither builds menus nor drops them. -/
theorem isSome_panel_run (c : MenuController) {cmd : MenuCommand} (h : cmd.isSteering = true) :
    (cmd.run c).2.panel.isSome = c.panel.isSome := by
  rw [MenuCommand.panel_run]
  cases cmd with
  | toggleRoot | focusBelow | focusAbove | openSubMenu | closeSubMenu | select =>
    exact Option.isSome_map
  | _ => contradiction

/-- No steering command leads off the trail. -/
theorem OnTrail.run (h : c.OnTrail) {cmd : MenuCommand} (hcmd : cmd.isSteering = true) :
    (cmd.run c).2.OnTrail := by
  refine ⟨(isSome_panel_run c hcmd).trans h.isSome, ?_⟩
  cases cmd with
  | toggleRoot => exact h.all.toggleRoot MenuPanel.OnTrail.toggleRoot
  | focusBelow => exact h.all.stepFocus fun hp => hp.stepFocus _
  | focusAbove => exact h.all.stepFocus fun hp => hp.stepFocus _
  | openSubMenu => exact h.all.openSubMenu MenuPanel.OnTrail.openSubMenu?
  | closeSubMenu => exact h.all.closeSubMenu MenuPanel.OnTrail.closeSubMenu?
  | select => exact h.all.select MenuPanel.OnTrail.select
  | _ => contradiction

/-- Steering keeps to the trail. -/
theorem OnTrail.runAll (h : c.OnTrail) {cmds : List MenuCommand}
    (hcmds : ∀ cmd ∈ cmds, cmd.isSteering = true) : (MenuCommand.runAll cmds c).OnTrail := by
  unfold MenuCommand.runAll
  induction cmds generalizing c with
  | nil => exact h
  | cons cmd cmds ih =>
    rw [List.forall_mem_cons] at hcmds
    exact ih (h.run hcmds.1) hcmds.2

/-- After menus were built and the focus was moved through them one option or one menu at
a time, either all menus are closed or the open ones are the chain to the focused menu and
at most what its focused option links to; and going back lands on the link that was
followed. -/
theorem chain_runAll_of_builder (c : MenuController) {builder : MenuCommand}
    {cmds : List MenuCommand} (hb : builder.isBuilder = true)
    (hbuilt : (builder.run c).1 = .flag true) (hcmds : ∀ cmd ∈ cmds, cmd.isSteering = true) :
    let d := MenuCommand.runAll cmds (builder.run c).2
    ∃ p, d.panel = some p ∧ (p.AllClosed ∨ ∃ f, p.OpensChain f) ∧ d.GoesBackToLink := by
  intro d
  have hrun : d.OnTrail := (onTrail_of_builder hb hbuilt).runAll hcmds
  obtain ⟨p, hp⟩ := Option.isSome_iff_exists.1 hrun.isSome
  exact ⟨p, hp, (hrun.all p hp).allClosed_or_opensChain, hrun.goesBackToLink⟩

/-- Into a category and one further down: the open menus are the chain to the category, and going
back from it lands on the link to it. -/
theorem chain_runAll_of_operators :
    let builder : MenuCommand := .build [("Top", ["Operators", "print()"]),
      ("Operators", ["and", "or"])] "Top" (fun _ => none) ⟨0, 0⟩
    let cmds : List MenuCommand := [.focusBelow, .openSubMenu, .focusBelow]
    let d := MenuCommand.runAll cmds (builder.run { config := {} }).2
    builder.isBuilder = true ∧ (builder.run { config := {} }).1 = .flag true ∧
      (∀ cmd ∈ cmds, cmd.isSteering = true) ∧ (∃ p, d.panel = some p ∧ p.OpensChain 1) ∧
      d.closeSubMenu.1 = true ∧ d.closeSubMenu.2.focusedMenuId? = some 0 ∧
      ∃ o, d.closeSubMenu.2.panel.bind (·.focusedOption?) = some o ∧ o.child? = some 1 := by
  intro builder cmds d
  have hbuilt : (builder.run { config := {} }).1 = .flag true := by decide
  have hcmds : ∀ cmd ∈ cmds, cmd.isSteering = true := by simp [cmds, MenuCommand.isSteering]
  have hfocus : d.focusedMenuId? = some 1 := by decide +kernel
  have hparent : (d.menu? 1).bind (·.parent) = some 0 := by decide +kernel
  have hroot : d.tree?.map (·.root) = some 0 := by decide +kernel
  obtain ⟨p, hp, hopen, hback⟩ := chain_runAll_of_builder { config := {} } rfl hbuilt hcmds
  obtain ⟨m, hm, hparent⟩ := Option.bind_eq_some_iff.1 hparent
  refine ⟨rfl, hbuilt, hcmds, ⟨p, hp, ?_⟩, hback 1 m 0 hfocus hm hparent⟩
  have hp1 : p.focusedMenuId? = some 1 := (focusedMenuId?_of_panel hp).symm.trans hfocus
  rcases hopen with hclosed | ⟨f, hchain⟩
  · rw [tree?_of_panel hp, Option.map_some, Option.some.injEq] at hroot
    rw [hclosed.focused, hroot] at hp1
    contradiction
  · obtain rfl : f = 1 := Option.some.inj (hchain.focused.symm.trans hp1)
    exact hchain

end MenuController

end StructEdit
