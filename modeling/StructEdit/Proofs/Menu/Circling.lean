import StructEdit.Proofs.Menu.Refocusing

/-!
# StructEdit.Proofs.Menu.Circling

Going round the options of the focused menu. The step from the last option leads to the first
one and the step back to the last, so that the index of the option in focus is counted modulo
the number of options (`MenuPanel.FocusesAt`); links on the way open and close menus below,
but do not lead away from the menu. Main statement: `MenuController.circles_runAll`, for any
number of steps down or up.
-/

namespace StructEdit

/-! ## Panels -/

namespace MenuPanel

variable {p : MenuPanel} {id : MenuId} {n : Nat} {r d : Int}

/-! ### Indexes -/

/-- The next index is one more, as a residue. -/
theorem cast_indexBelow (n i : Nat) : (indexBelow n (some i) : Int) = ((i : Int) + 1) % n := by
  simp [indexBelow]

/-- The previous index is one less, as a residue. -/
theorem cast_indexAbove {n i : Nat} (h : i < n) :
    (indexAbove n (some i) : Int) = ((i : Int) - 1) % n := by
  cases i with
  | zero =>
    rw [← Int.add_emod_right, Int.emod_eq_of_lt (by omega) (by omega), indexAbove]
    omega
  | succ i =>
    rw [Int.emod_eq_of_lt (by omega) (by omega), indexAbove]
    omega

/-! ### Steps -/

/-- The focus is on an option of a menu with `n` options, the one whose index is `r` up to
multiples of `n`. -/
structure FocusesAt (p : MenuPanel) (id : MenuId) (n : Nat) (r : Int) : Prop where
  menu : p.focusedMenuId? = some id
  length : ∃ m, p.tree.get? id = some m ∧ m.options.length = n
  option : ∃ j : Nat, p.focusedOption = some j ∧ (j : Int) = r % n

/-- A step within the focused menu keeps a panel steerable. -/
theorem Steerable.stepFocus (h : p.Steerable) (step : Nat → Option Nat → Nat) :
    (p.stepFocus step).Steerable where
  toFocused := h.toFocused.stepFocus step
  navigable := h.navigable.of_bare_eq (steered_stepFocus h.rooted step).bare

/-- A step leads to another option of the same menu, which has as many options as before. -/
theorem Steerable.focusesAt_stepFocus (h : p.Steerable) {m : Menu}
    (hid : p.focusedMenuId? = some id) (hm : p.tree.get? id = some m)
    {step : Nat → Option Nat → Nat}
    (hlt : step m.options.length p.focusedOption < m.options.length)
    (hr : (step m.options.length p.focusedOption : Int) = r % m.options.length) :
    (p.stepFocus step).FocusesAt id m.options.length r := by
  obtain ⟨_, hfocus⟩ := h.refocuses_stepFocus hid hm hlt
  obtain ⟨m', o, htree⟩ := hfocus.tree
  obtain ⟨k, hk, _, _, _, hbare⟩ := htree.after
  obtain rfl := Option.some.inj (hm.symm.trans htree.before)
  refine ⟨hfocus.focusedMenu, ⟨k, hk, ?_⟩, _, hfocus.focusedOption, hr⟩
  simpa using congrArg (fun k : Menu => k.options.length) hbare

/-- A step that adds `d` to the index of the option in focus, up to multiples of the number of
options, does so as often as it is taken. -/
theorem FocusesAt.iterate_stepFocus {step : Nat → Option Nat → Nat}
    (hlt : ∀ i, i < n → step n (some i) < n)
    (hstep : ∀ i, i < n → (step n (some i) : Int) = ((i : Int) + d) % n)
    (hs : p.Steerable) (h : p.FocusesAt id n r) (k : Nat) :
    ((·.stepFocus step)^[k] p).FocusesAt id n (r + k * d) := by
  induction k generalizing p r with
  | zero => simpa using h
  | succ k ih =>
    obtain ⟨hid, ⟨m, hm, rfl⟩, i, hi, hir⟩ := h
    have hin : i < m.options.length := hs.lt_of_focusedOption hid hm hi
    have hnext : (p.stepFocus step).FocusesAt id m.options.length (r + d) := by
      refine hs.focusesAt_stepFocus hid hm (by rw [hi]; exact hlt i hin) ?_
      rw [hi, hstep i hin, hir, Int.emod_add_emod]
    have hsum : r + (k + 1 : Nat) * d = r + d + k * d := by
      rw [Nat.cast_succ, add_one_mul, add_comm _ d, add_assoc]
    rw [Function.iterate_succ_apply, hsum]
    exact ih (hs.stepFocus step) hnext

/-- Steps down add up. -/
theorem FocusesAt.iterate_focusBelow (hs : p.Steerable) (h : p.FocusesAt id n r) (k : Nat) :
    (focusBelow^[k] p).FocusesAt id n (r + k) := by
  have hrun : ((·.stepFocus indexBelow)^[k] p).FocusesAt id n (r + k * 1) :=
    h.iterate_stepFocus (fun i hi => indexBelow_lt (by omega) _) (fun i _ => cast_indexBelow n i)
      hs k
  rwa [mul_one] at hrun

/-- Steps up add up. -/
theorem FocusesAt.iterate_focusAbove (hs : p.Steerable) (h : p.FocusesAt id n r) (k : Nat) :
    (focusAbove^[k] p).FocusesAt id n (r - k) := by
  have hrun : ((·.stepFocus indexAbove)^[k] p).FocusesAt id n (r + k * -1) :=
    h.iterate_stepFocus
      (fun i hi => indexAbove_lt (by omega) fun j hj => Option.some.inj hj ▸ hi)
      (fun i hi => by rw [cast_indexAbove hi, sub_eq_add_neg]) hs k
  rwa [mul_neg_one, ← sub_eq_add_neg] at hrun

/-! ### From no option -/

/-- From no option the first step down leads to the first option, and the first step up to the
last one. -/
theorem Steerable.focusesAt_of_none (h : p.Steerable) {m : Menu}
    (hid : p.focusedMenuId? = some id) (hm : p.tree.get? id = some m)
    (hnone : p.focusedOption = none) :
    p.focusBelow.FocusesAt id m.options.length 0 ∧
      p.focusAbove.FocusesAt id m.options.length (m.options.length - 1) := by
  have hpos : 0 < m.options.length :=
    List.length_pos_of_ne_nil (h.navigable.options_ne_nil id m hm)
  constructor
  · refine h.focusesAt_stepFocus hid hm (indexBelow_lt hpos _) ?_
    rw [hnone, Int.zero_emod, indexBelow, Nat.cast_zero]
  · refine h.focusesAt_stepFocus hid hm (indexAbove_lt hpos (by simp [hnone])) ?_
    rw [hnone, Int.emod_eq_of_lt (by omega) (by omega), indexAbove]
    omega

end MenuPanel

/-! ## The menus of an editor -/

namespace MenuController

variable {c : MenuController} {p : MenuPanel} {id : MenuId} {n : Nat} {r : Int}

/-- The focus is on an option of a menu with `n` options, the one whose index is `r` modulo `n`. -/
structure FocusesAt (c : MenuController) (id : MenuId) (n : Nat) (r : Int) : Prop where
  menu : c.focusedMenuId? = some id
  length : ∃ m, c.menu? id = some m ∧ m.options.length = n
  option : ∃ j : Nat, c.focusedOption? = some j ∧ (j : Int) = r % n

/-- Where the focus of a controller is, that of its panel is. -/
theorem focusesAt_iff (h : c.panel = some p) : c.FocusesAt id n r ↔ p.FocusesAt id n r := by
  constructor
  · rintro ⟨hid, hlength, hoption⟩
    rw [focusedMenuId?_of_panel h] at hid
    rw [focusedOption?_of_panel h] at hoption
    simp only [menu?_of_panel h] at hlength
    exact ⟨hid, hlength, hoption⟩
  · rintro ⟨hid, hlength, hoption⟩
    constructor <;>
      simpa only [focusedMenuId?_of_panel h, menu?_of_panel h, focusedOption?_of_panel h]

/-- The focus is on the same option of the same menu, or on no option of it. -/
def SameFocus (c d : MenuController) : Prop :=
  c.focusedMenuId? = d.focusedMenuId? ∧ c.focusedOption? = d.focusedOption?

/-- An index that there is counts as itself. -/
theorem focusesAt_of_lt {m : Menu} {i : Nat} (hid : c.focusedMenuId? = some id)
    (hm : c.menu? id = some m) (hi : c.focusedOption? = some i) (hlt : i < m.options.length) :
    c.FocusesAt id m.options.length i :=
  ⟨hid, ⟨m, hm, rfl⟩, i, hi, by rw [← Int.natCast_mod, Nat.mod_eq_of_lt hlt]⟩

/-- The residue of an index that is in range is the index. -/
theorem FocusesAt.sameFocus {d : MenuController} {i : Nat} (h : d.FocusesAt id n i) (hi : i < n)
    (hid : c.focusedMenuId? = some id) (hc : c.focusedOption? = some i) : d.SameFocus c := by
  obtain ⟨j, hj, hji⟩ := h.option
  rw [← Int.natCast_mod, Nat.mod_eq_of_lt hi, Int.natCast_inj] at hji
  exact ⟨h.menu.trans hid.symm, by rw [hj, hc, hji]⟩

/-! ### Any number of steps -/

/-- What each step does to the panel, so many steps do so many times. -/
theorem panel_iterate {F : MenuController → MenuController} {f : MenuPanel → MenuPanel}
    (hF : ∀ c, (F c).panel = c.panel.map f) (h : c.panel = some p) (k : Nat) :
    (F^[k] c).panel = some (f^[k] p) := by
  induction k generalizing c p with
  | zero => exact h
  | succ k ih => exact ih (by rw [hF, h, Option.map_some])

theorem FocusesAt.iterate_focusBelow (hs : c.All MenuPanel.Steerable) (h : c.FocusesAt id n r)
    (k : Nat) : (focusBelow^[k] c).FocusesAt id n (r + k) := by
  obtain ⟨m, hm, _⟩ := h.length
  obtain ⟨p, hp, _⟩ := exists_panel_of_menu? hm
  refine (focusesAt_iff (panel_iterate panel_focusBelow hp k)).2 ?_
  exact ((focusesAt_iff hp).1 h).iterate_focusBelow (hs p hp) k

theorem FocusesAt.iterate_focusAbove (hs : c.All MenuPanel.Steerable) (h : c.FocusesAt id n r)
    (k : Nat) : (focusAbove^[k] c).FocusesAt id n (r - k) := by
  obtain ⟨m, hm, _⟩ := h.length
  obtain ⟨p, hp, _⟩ := exists_panel_of_menu? hm
  refine (focusesAt_iff (panel_iterate panel_focusAbove hp k)).2 ?_
  exact ((focusesAt_iff hp).1 h).iterate_focusAbove (hs p hp) k

/-- Steps down keep the menus steerable. -/
theorem steerable_focusBelow (hs : c.All MenuPanel.Steerable) :
    c.focusBelow.All MenuPanel.Steerable :=
  hs.stepFocus fun h => h.stepFocus _

theorem steerable_focusAbove (hs : c.All MenuPanel.Steerable) :
    c.focusAbove.All MenuPanel.Steerable :=
  hs.stepFocus fun h => h.stepFocus _

/-- As many steps back as forth lead to the same option. -/
theorem sameFocus_of_lt (hs : c.All MenuPanel.Steerable) {m : Menu} {i : Nat}
    (hid : c.focusedMenuId? = some id) (hm : c.menu? id = some m)
    (hi : c.focusedOption? = some i) (hlt : i < m.options.length) (k : Nat) :
    (focusAbove^[k] (focusBelow^[k] c)).SameFocus c ∧
      (focusBelow^[k] (focusAbove^[k] c)).SameFocus c := by
  have hat : c.FocusesAt id m.options.length i := focusesAt_of_lt hid hm hi hlt
  constructor
  · have hthere : (focusBelow^[k] c).All MenuPanel.Steerable :=
      Function.Iterate.rec (All MenuPanel.Steerable) hs (fun _ => steerable_focusBelow) k
    have hback := (hat.iterate_focusBelow hs k).iterate_focusAbove hthere k
    rw [add_sub_cancel_right] at hback
    exact hback.sameFocus hlt hid hi
  · have hthere : (focusAbove^[k] c).All MenuPanel.Steerable :=
      Function.Iterate.rec (All MenuPanel.Steerable) hs (fun _ => steerable_focusAbove) k
    have hback := (hat.iterate_focusAbove hs k).iterate_focusBelow hthere k
    rw [sub_add_cancel] at hback
    exact hback.sameFocus hlt hid hi

/-- The first step is from no option, the others are from the option that it leads to. -/
theorem focusesAt_of_none (hs : c.All MenuPanel.Steerable) {m : Menu}
    (hid : c.focusedMenuId? = some id) (hm : c.menu? id = some m)
    (hnone : c.focusedOption? = none) (k : Nat) :
    (focusBelow^[k + 1] c).FocusesAt id m.options.length k ∧
      (focusAbove^[k + 1] c).FocusesAt id m.options.length (m.options.length - 1 - k) := by
  obtain ⟨p, hp, hget⟩ := exists_panel_of_menu? hm
  rw [focusedMenuId?_of_panel hp] at hid
  rw [focusedOption?_of_panel hp] at hnone
  obtain ⟨hfirst, hlast⟩ := (hs p hp).focusesAt_of_none hid hget hnone
  constructor
  · have hbelow : c.focusBelow.FocusesAt id m.options.length 0 :=
      (focusesAt_iff (by rw [panel_focusBelow, hp, Option.map_some])).2 hfirst
    have hrun := hbelow.iterate_focusBelow (steerable_focusBelow hs) k
    rwa [zero_add] at hrun
  · have habove : c.focusAbove.FocusesAt id m.options.length (m.options.length - 1) :=
      (focusesAt_iff (by rw [panel_focusAbove, hp, Option.map_some])).2 hlast
    exact habove.iterate_focusAbove (steerable_focusAbove hs) k

/-- Whatever was done to the menus before, the focused menu has options, and the focused option
is one of them. From it `k` steps down or up lead round the options of the menu, and back when as
many are taken the other way; and from no option they lead round as if from before the first
option, and from behind the last one. -/
theorem circles_runAll (config : MenuConfig) (cmds : List MenuCommand) (id : MenuId) (m : Menu) :
    let c := MenuCommand.runAll cmds { config }
    let n := m.options.length
    c.focusedMenuId? = some id → c.menu? id = some m →
      0 < n ∧
      (∀ i, c.focusedOption? = some i → i < n ∧ ∀ k,
        (focusBelow^[k] c).FocusesAt id n (i + k) ∧ (focusAbove^[k] c).FocusesAt id n (i - k) ∧
        (focusAbove^[k] (focusBelow^[k] c)).SameFocus c ∧
        (focusBelow^[k] (focusAbove^[k] c)).SameFocus c) ∧
      (c.focusedOption? = none → ∀ k, 1 ≤ k →
        (focusBelow^[k] c).FocusesAt id n (k - 1) ∧
        (focusAbove^[k] c).FocusesAt id n (n - k)) := by
  intro c n hid hm
  have hs : c.All MenuPanel.Steerable := steerable_runAll config cmds
  obtain ⟨p, hp, hget⟩ := exists_panel_of_menu? hm
  refine ⟨List.length_pos_of_ne_nil ((hs p hp).navigable.options_ne_nil id m hget),
    fun i hi => ?_, fun hnone k hk => ?_⟩
  · have hlt : i < n := by
      refine (hs p hp).lt_of_focusedOption ?_ hget ?_
      · rw [← hid, focusedMenuId?_of_panel hp]
      · rw [← hi, focusedOption?_of_panel hp]
    have hat : c.FocusesAt id n i := focusesAt_of_lt hid hm hi hlt
    exact ⟨hlt, fun k => ⟨hat.iterate_focusBelow hs k, hat.iterate_focusAbove hs k,
      sameFocus_of_lt hs hid hm hi hlt k⟩⟩
  · obtain ⟨l, rfl⟩ : ∃ l, k = l + 1 := ⟨k - 1, by omega⟩
    obtain ⟨hdown, hup⟩ := focusesAt_of_none hs hid hm hnone l
    have hbelow : ((l + 1 : Nat) : Int) - 1 = l := by omega
    have habove : (n : Int) - (l + 1 : Nat) = n - 1 - l := by omega
    rw [hbelow, habove]
    exact ⟨hdown, hup⟩

/-- Round three options, two of them links: down from no option, and up from the last one. -/
theorem circles_runAll_of_categories :
    let build : MenuCommand := .build [("Top", ["A", "print()", "B"]), ("A", ["a", "b"]),
      ("B", ["d", "e"])] "Top" (fun _ => none) ⟨0, 0⟩
    let c := MenuCommand.runAll [build] { config := {} }
    let d := MenuCommand.runAll [build, .focusAbove] { config := {} }
    c.focusedMenuId? = some 0 ∧ (c.menu? 0).map (·.options.length) = some 3 ∧
      c.focusedOption? = none ∧ (focusBelow^[5] c).FocusesAt 0 3 4 ∧
      d.focusedMenuId? = some 0 ∧ (d.menu? 0).map (·.options.length) = some 3 ∧
      d.focusedOption? = some 2 ∧ (focusAbove^[7] d).FocusesAt 0 3 (-5) ∧
      (focusBelow^[7] (focusAbove^[7] d)).SameFocus d := by
  intro build c d
  have hc : c.focusedMenuId? = some 0 ∧ (c.menu? 0).map (·.options.length) = some 3 ∧
      c.focusedOption? = none := by decide +kernel
  have hd : d.focusedMenuId? = some 0 ∧ (d.menu? 0).map (·.options.length) = some 3 ∧
      d.focusedOption? = some 2 := by decide +kernel
  obtain ⟨hcid, hclength, hnone⟩ := hc
  obtain ⟨hdid, hdlength, hlast⟩ := hd
  obtain ⟨m, hm, hmlength⟩ := Option.map_eq_some_iff.1 hclength
  obtain ⟨k, hk, hklength⟩ := Option.map_eq_some_iff.1 hdlength
  obtain ⟨_, _, hround⟩ := circles_runAll {} [build] 0 m hcid hm
  obtain ⟨_, hback, _⟩ := circles_runAll {} [build, .focusAbove] 0 k hdid hk
  have hdown := (hround hnone 5 (by decide)).1
  obtain ⟨_, hup, _, hsame⟩ := (hback 2 hlast).2 7
  rw [hmlength] at hdown
  rw [hklength] at hup
  exact ⟨hcid, hclength, hnone, hdown, hdid, hdlength, hlast, hup, hsame⟩

end MenuController

end StructEdit
