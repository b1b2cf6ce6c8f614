import StructEdit.Proofs.Menu.Answers
import StructEdit.Proofs.Session.Commands
import StructEdit.Proofs.Session.Suggestions

/-!
# StructEdit.Proofs.Session.Mouse

What the mouse does in a session. To click on an option is to move the mouse there and press a
key: Enter on a leaf, which selects it, and Right on a link, which enters the menu behind it
(`Session.press_hover_of_leaf`, `Session.press_hover_of_link`). Main statements:
`Session.click_eq_press_hover`, and `Session.fails_idly_runAll` on what cannot be done.
-/

namespace StructEdit

namespace Session

variable {σ : Type} {s : Session σ} {id : MenuId} {m : Menu} {index : Nat} {o : MenuOption}
  {key : Key}

/-! ## The mouse -/

/-- A click on an option that there is moves the focus there, and then enters the menu behind
it if the option is a link and selects it if it is none. -/
theorem click_of_live (h : s.menu.Focused) (hm : s.menu.menu? id = some m)
    (ho : m.options[index]? = some o) :
    ∃ d, s.hover id index = (true, { s with menu := d }) ∧
      (s.menu.isOpen = true → d.isOpen = true) ∧
      let t : Session σ := { s with menu := d }
      s.click id index = (true, if o.isLink then t.steer .openSubMenu else t.selectOption) := by
  obtain ⟨d, hd, hopen, hat, hfocus⟩ := h.focus_option hm ho
  have hhover : s.hover id index = (true, { s with menu := d }) := by rw [hover, hd]
  refine ⟨d, hhover, hopen, ?_⟩
  have hsame : ({ o with focused := true } : MenuOption).isLink = o.isLink := rfl
  simp only [click, hhover, hat, Option.any_some, hsame]
  cases hlink : o.isLink with
  | false => rfl
  | true =>
    have hentered : d.openSubMenu.1 = true :=
      MenuController.openSubMenu_eq_true_iff.2 ⟨_, hfocus, hlink⟩
    simp [hentered, steer]

/-- On a leaf, Enter does what a click does. -/
theorem press_hover_of_leaf (h : s.menu.Focused) (hopen : s.menu.isOpen = true)
    (hm : s.menu.menu? id = some m) (ho : m.options[index]? = some o) (hleaf : o.isLink = false)
    (hkey : key.class? = some .enter) : (s.hover id index).2.press key = s.click id index := by
  obtain ⟨d, hhover, hstays, hclick⟩ := click_of_live h hm ho
  rw [hclick, hhover, hleaf, press_enter (hstays hopen) hkey, dispatch_of_selects rfl]
  rfl

/-- On a link, Right does what a click does, outside of text. -/
theorem press_hover_of_link (h : s.menu.Focused) (hopen : s.menu.isOpen = true)
    (hm : s.menu.menu? id = some m) (ho : m.options[index]? = some o) (hlink : o.isLink = true)
    (htext : s.queries.textEditable s.context = false) (hkey : key.class? = some .right) :
    (s.hover id index).2.press key = s.click id index := by
  obtain ⟨d, hhover, hstays, hclick⟩ := click_of_live h hm ho
  have hpress : Session.press { s with menu := d } key =
      (true, Session.steer { s with menu := d } .openSubMenu) :=
    press_right (hstays hopen) htext hkey
  rw [hclick, hhover, hlink, hpress]
  rfl

/-! ## Whatever happened -/

/-- Whatever happened to a session, a click on an option that there is, shown or not, has the
same answer and leaves the same session as moving the mouse over it and pressing a key: Enter if
the option is a leaf, and Right if it is a link and the cursor is not in text. -/
theorem click_eq_press_hover (compile? : PatternCompiler) (config : Config)
    (environment : Environment σ) (world : σ) (os : List (Occurrence σ)) (id : MenuId) (m : Menu)
    (index : Nat) (o : MenuOption) :
    let s := Occurrence.runAll os (ofConfigWith compile? config environment world)
    s.menu.menu? id = some m → m.options[index]? = some o →
      (s.hover id index).1 = true ∧
      (o.isLink = false → ∀ key : Key, key.class? = some .enter →
        s.click id index = (s.hover id index).2.press key) ∧
      (o.isLink = true → s.queries.textEditable s.context = false →
        ∀ key : Key, key.class? = some .right →
          s.click id index = (s.hover id index).2.press key) := by
  intro s hm ho
  have hfocused : s.menu.Focused := focused_runAll compile? config environment world os
  have hoffering : s.menu.Offering := offering_runAll (MenuController.all_of_panel_eq_none rfl) os
  -- menus of insertions are open for as long as they are there
  have hopen : s.menu.isOpen = true := by
    obtain ⟨t, ht, _⟩ := Option.bind_eq_some_iff.1 hm
    rw [← hoffering.isSome_tree?_iff, ht, Option.isSome_some]
  obtain ⟨d, hhover, _⟩ := click_of_live hfocused hm ho
  refine ⟨by rw [hhover], fun hleaf key hkey => ?_, fun hlink htext key hkey => ?_⟩
  · exact (press_hover_of_leaf hfocused hopen hm ho hleaf hkey).symm
  · exact (press_hover_of_link hfocused hopen hm ho hlink htext hkey).symm

/-- In a menu with a link and a leaf, a click on the link is Right on it, and a click on an option
of the menu behind it, which is not shown yet, is Enter on that. -/
theorem click_eq_press_hover_of_categories :
    let config : Config := { menu := { categories := [⟨"Top", ["Loops", "print()"]⟩,
      ⟨"Loops", ["while", "for"]⟩] } }
    let script : Script := { insertions := [
      ⟨"while", "while", { kind := .whileStmt, construct := "while" }, .valid⟩,
      ⟨"for", "for", { kind := .forStmt, construct := "for" }, .valid⟩,
      ⟨"print()", "print", { kind := .printFunctionStmt, construct := "print" }, .valid⟩] }
    let s := Occurrence.runAll [.event .showInserts]
      (ofConfigWith (fun _ => .ok fun _ => true) config (.scripted true) script)
    ((s.menu.menu? 1).bind (·.options[1]?)).map (·.isLink) = some false ∧
      ((s.menu.menu? 0).bind (·.options[0]?)).map (·.isLink) = some true ∧
      s.queries.textEditable s.context = false ∧
      s.click 1 1 = (s.hover 1 1).2.press ⟨.enter, {}⟩ ∧
      s.click 0 0 = (s.hover 0 0).2.press ⟨.right, {}⟩ := by
  intro config script s
  have hleaf : ((s.menu.menu? 1).bind (·.options[1]?)).map (·.isLink) = some false := by
    decide +kernel
  have hlink : ((s.menu.menu? 0).bind (·.options[0]?)).map (·.isLink) = some true := by
    decide +kernel
  have htext : s.queries.textEditable s.context = false := rfl
  obtain ⟨leaf, hat, hisLeaf⟩ := Option.map_eq_some_iff.1 hleaf
  obtain ⟨link, hroot, hisLink⟩ := Option.map_eq_some_iff.1 hlink
  obtain ⟨m, hm, ho⟩ := Option.bind_eq_some_iff.1 hat
  obtain ⟨top, htop, ho'⟩ := Option.bind_eq_some_iff.1 hroot
  obtain ⟨_, henter, _⟩ := click_eq_press_hover (fun _ => .ok fun _ => true) config
    (.scripted true) script [.event .showInserts] 1 m 1 leaf hm ho
  obtain ⟨_, _, hright⟩ := click_eq_press_hover (fun _ => .ok fun _ => true) config
    (.scripted true) script [.event .showInserts] 0 top 0 link htop ho'
  exact ⟨hleaf, hlink, htext, henter hisLeaf ⟨.enter, {}⟩ rfl,
    hright hisLink htext ⟨.right, {}⟩ rfl⟩

/-! ## What cannot be done -/

/-- The mouse misses: nothing changes where there is nothing under it. -/
structure FailsIdly (s : Session σ) : Prop where
  menus : s.menu.FailsIdly
  hover_eq : ∀ menu option, (s.hover menu option).1 = false → (s.hover menu option).2 = s
  click_eq : ∀ menu option, (s.click menu option).1 = false → (s.click menu option).2 = s
  click_iff : ∀ menu option, (s.click menu option).1 = false ↔ (s.hover menu option).1 = false

/-- Where the mouse finds no option, nothing changes. -/
theorem hover_of_miss {menu : MenuId} {option : Nat} (h : (s.hover menu option).1 = false) :
    s.hover menu option = (false, s) := by
  have hsame : (s.menu.focus menu option).2 = s.menu :=
    MenuController.idle_setFocus menu option s.menu h
  have hhover : s.hover menu option = ((s.menu.focus menu option).1, s) := by rw [hover, hsame]
  rw [hhover] at h ⊢
  rw [h]

/-- Where the mouse finds no option, a click does nothing. -/
theorem click_of_miss {menu : MenuId} {option : Nat} (h : (s.hover menu option).1 = false) :
    s.click menu option = (false, s) := by
  simp [click, hover_of_miss h]

/-- A click misses just when the mouse does: there is always something to select or to enter. -/
theorem click_eq_false_iff (h : s.menu.Focused) {menu : MenuId} {option : Nat} :
    (s.click menu option).1 = false ↔ (s.hover menu option).1 = false := by
  refine ⟨fun hclick => ?_, fun hmiss => by rw [click_of_miss hmiss]⟩
  by_contra hhit
  obtain ⟨m, hm, hi⟩ := h.focus_eq_true_iff.1 (Bool.eq_true_of_not_eq_false hhit)
  obtain ⟨_, _, _, hdone⟩ := click_of_live h hm (List.getElem?_eq_getElem hi)
  rw [hdone] at hclick
  contradiction

/-- Where highlight and focus are together, what cannot be done changes nothing. -/
theorem failsIdly_of_focused (h : s.menu.Focused) : s.FailsIdly where
  menus := h.failsIdly
  hover_eq _ _ hmiss := by rw [hover_of_miss hmiss]
  click_eq _ _ hmiss := by rw [click_of_miss ((click_eq_false_iff h).1 hmiss)]
  click_iff _ _ := click_eq_false_iff h

/-- Whatever was done to the menus of an editor, and whatever happened to a session, moving the
focus and the mouse change nothing when the answer is that they did not; and it is clear from the
menus when that is so. -/
theorem fails_idly_runAll (compile? : PatternCompiler) (config : Config)
    (environment : Environment σ) (world : σ) (cmds : List MenuCommand)
    (os : List (Occurrence σ)) :
    (MenuCommand.runAll cmds { config := config.menu }).FailsIdly ∧
      (Occurrence.runAll os (ofConfigWith compile? config environment world)).FailsIdly := by
  have hmenus : (MenuCommand.runAll cmds { config := config.menu }).Focused :=
    MenuController.focused_runAll cmds (MenuController.all_of_panel_eq_none rfl)
  exact ⟨hmenus.failsIdly,
    failsIdly_of_focused (focused_runAll compile? config environment world os)⟩

end Session

end StructEdit
