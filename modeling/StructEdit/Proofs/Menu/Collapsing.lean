import StructEdit.Menu.Collapse
import StructEdit.Proofs.Menu.WellFormed

/-!
# StructEdit.Proofs.Menu.Collapsing

What leaving out menus that offer no choice does to a tree. The step in which a menu
takes over another one is told slot by slot (`Absorbed`); whatever it keeps, the
whole collapse keeps (`collapse_induction`). Main statements:
`Rooted.collapse` and `WellFormed.collapse`.
-/

namespace StructEdit

/-- The menu with the options and the children of another one in place of its own. -/
def Menu.takeOver (m n : Menu) : Menu :=
  { m with options := n.clearFocus.options, children := n.children, openedLink := none }

namespace MenuTree

/-! ## One step -/

/-- One tree is another one in which the menu `m` in the slot `id` has taken over the
menu `n` in the slot `c`, which is all that it links to. -/
structure Absorbed (t : MenuTree) (id c : MenuId) (m n : Menu) (u : MenuTree) : Prop where
  menu : t.get? id = some m
  options : ∃ o, m.options = [o]
  children : m.children = [c]
  child : t.get? c = some n
  root : u.root = t.root
  slots : u.slots.length = t.slots.length
  get? : ∀ i, u.get? i =
    if i = c then none
    else if i = id then some (m.takeOver n)
    else if i ∈ n.children then (t.get? i).map fun g => { g with parent := some id }
    else t.get? i

/-- The step is possible just for menus with one option and one child, and does
what `Absorbed` says to a rooted tree. -/
theorem Rooted.exists_absorbed {t u : MenuTree} (h : t.Rooted) {id : MenuId}
    (hu : t.absorb? id = some u) : ∃ c m n, t.Absorbed id c m n u := by
  unfold absorb? at hu
  split at hu
  · contradiction
  · next m hm =>
    split at hu
    · next o c ho hc =>
      obtain ⟨n, hn, rfl⟩ := Option.map_eq_some_iff.1 hu
      refine ⟨c, m, n, hm, ⟨o, ho⟩, hc, hn, rfl, by simp [update, updateAll, erase], fun i => ?_⟩
      have hic : t.IsChild id c := isChild_of_get? hm (by simp [hc])
      have hid := h.below_root id m hm
      have hne : id ≠ c := by
        rintro rfl
        exact h.not_below_parent hid hic .refl
      have hback : id ∉ n.children := fun hb =>
        h.not_below_parent hid hic (.single (isChild_of_get? hn hb))
      rw [get?_update, get?_updateAll, get?_erase]
      by_cases hi : i = id
      · subst hi
        simp [hne, hback, hm, Menu.takeOver]
      · by_cases hi' : i = c <;> simp [hi, hi']
    · contradiction

namespace Absorbed

variable {t u : MenuTree} {id c : MenuId} {m n : Menu}

theorem isChild (h : t.Absorbed id c m n u) : t.IsChild id c :=
  isChild_of_get? h.menu (by simp [h.children])

theorem eq_of_isChild (h : t.Absorbed id c m n u) {x : MenuId} (hx : t.IsChild id x) : x = c := by
  rw [IsChild, children_of_get? h.menu, h.children] at hx
  exact List.mem_singleton.1 hx

theorem mem_children_iff (h : t.Absorbed id c m n u) {x : MenuId} :
    x ∈ n.children ↔ t.IsChild c x := by
  rw [IsChild, children_of_get? h.child]

/-- The menus below the one that is gone are now below the one that took it over;
other than that, no menu has other children. -/
theorem children_eq (h : t.Absorbed id c m n u) (p : MenuId) :
    u.children p = if p = c then [] else if p = id then n.children else t.children p := by
  unfold MenuTree.children
  rw [h.get? p]
  by_cases hc : p = c
  · simp [hc]
  · rw [if_neg hc, if_neg hc]
    by_cases hid : p = id
    · rw [if_pos hid, if_pos hid]
      rfl
    · rw [if_neg hid, if_neg hid]
      by_cases hn : p ∈ n.children
      · cases t.get? p <;> simp [hn]
      · simp [hn]

theorem isChild_iff (h : t.Absorbed id c m n u) {p x : MenuId} :
    u.IsChild p x ↔ p ≠ c ∧ if p = id then t.IsChild c x else t.IsChild p x := by
  unfold IsChild
  rw [h.children_eq]
  by_cases hc : p = c
  · simp [hc]
  · by_cases hid : p = id <;> simp [hc, hid, h.mem_children_iff, IsChild]

theorem ne (h : t.Absorbed id c m n u) (ht : t.Rooted) : id ≠ c := by
  rintro rfl
  exact ht.not_below_parent (ht.below_root id m h.menu) h.isChild .refl

/-- What was below the root still is, except for the menu that was taken over. -/
theorem below_root (h : t.Absorbed id c m n u) (ht : t.Rooted) {x : MenuId}
    (hx : t.Below t.root x) : u.Below t.root (if x = c then id else x) := by
  have hroot : t.root ≠ c := fun heq => ht.ne_root_of_isChild h.isChild heq.symm
  induction hx with
  | refl => rw [if_neg hroot]; exact .refl
  | @tail p x hp hx ih =>
    -- a step into the menu that is gone stays where it is, and one out of it starts from its heir
    by_cases hxc : x = c
    · subst hxc
      obtain rfl := ht.parent_unique hx h.isChild
      rw [if_neg (h.ne ht)] at ih
      rwa [if_pos rfl]
    · rw [if_neg hxc]
      by_cases hpc : p = c
      · rw [if_pos hpc] at ih
        refine ih.tail (h.isChild_iff.2 ⟨h.ne ht, ?_⟩)
        rwa [if_pos rfl, ← hpc]
      · rw [if_neg hpc] at ih
        refine ih.tail (h.isChild_iff.2 ⟨hpc, ?_⟩)
        rw [if_neg]
        · exact hx
        · rintro rfl
          exact hxc (h.eq_of_isChild hx)

theorem forest (h : t.Absorbed id c m n u) (ht : t.Rooted) : u.Forest := by
  have hroot : t.root ≠ c := fun heq => ht.ne_root_of_isChild h.isChild heq.symm
  have hgrand : t.root ∉ n.children := fun hx =>
    ht.ne_root_of_isChild (h.mem_children_iff.1 hx) rfl
  have hid := ht.below_root id m h.menu
  have hc : t.Below t.root c := hid.tail h.isChild
  constructor
  case root_live =>
    rw [h.root, h.get?, if_neg hroot, if_neg hgrand]
    split
    · exact ⟨_, rfl⟩
    · exact ht.root_live
  case parent_root =>
    intro r hr
    rw [h.root, h.get?, if_neg hroot, if_neg hgrand] at hr
    split at hr
    · next heq =>
      rw [← Option.some.inj hr]
      exact ht.parent_root m (heq ▸ h.menu)
    · exact ht.parent_root r hr
  case nodup_children =>
    intro p
    rw [h.children_eq]
    split
    · exact .nil
    · split
      · exact children_of_get? h.child ▸ ht.nodup_children c
      · exact ht.nodup_children p
  case parent_of_child =>
    intro p x hpx
    obtain ⟨hpc, hx⟩ := h.isChild_iff.1 hpx
    rw [h.get?]
    split at hx
    · -- a menu that was below the one that is gone
      next hpid =>
      obtain ⟨g, hg, _⟩ := ht.parent_of_child hx
      have hxc : x ≠ c := by
        rintro rfl
        exact ht.not_below_parent hc hx .refl
      have hxid : x ≠ id := by
        rintro rfl
        exact ht.not_below_parent hid h.isChild (.single hx)
      rw [if_neg hxc, if_neg hxid, if_pos (h.mem_children_iff.2 hx), hg]
      exact ⟨_, rfl, by rw [hpid]⟩
    · next hpid =>
      obtain ⟨g, hg, hgp⟩ := ht.parent_of_child hx
      have hxc : x ≠ c := by
        rintro rfl
        exact hpid (ht.parent_unique hx h.isChild)
      have hxn : x ∉ n.children := fun hxn =>
        hpc (ht.parent_unique hx (h.mem_children_iff.1 hxn))
      rw [if_neg hxc, if_neg hxn]
      split
      · next hxid =>
        rw [hxid, h.menu, Option.some.injEq] at hg
        exact ⟨_, rfl, by rw [← hgp, ← hg]; rfl⟩
      · exact ⟨g, hg, hgp⟩

/-- A menu that is left is one that was there, with other options only if it took
them over, and with the same place on the screen. -/
theorem exists_menu (h : t.Absorbed id c m n u) {i : MenuId} {k : Menu} (hk : u.get? i = some k) :
    i ≠ c ∧ (i = id ∧ k = m.takeOver n ∨
      i ≠ id ∧ ∃ g, t.get? i = some g ∧ k.options = g.options ∧ k.children = g.children ∧
        k.anchor = g.anchor ∧ k.isOpen = g.isOpen ∧ k.openedLink = g.openedLink) := by
  rw [h.get?] at hk
  split at hk
  · contradiction
  · next hic =>
    refine ⟨hic, ?_⟩
    split at hk
    · next hid => exact .inl ⟨hid, (Option.some.inj hk).symm⟩
    · next hid =>
      refine .inr ⟨hid, ?_⟩
      split at hk
      · obtain ⟨g, hg, rfl⟩ := Option.map_eq_some_iff.1 hk
        exact ⟨g, hg, rfl, rfl, rfl, rfl, rfl⟩
      · exact ⟨k, hk, rfl, rfl, rfl, rfl, rfl⟩

theorem rooted (h : t.Absorbed id c m n u) (ht : t.Rooted) : u.Rooted where
  toForest := h.forest ht
  below_root i k hk := by
    obtain ⟨hic, hcases⟩ := h.exists_menu hk
    have hbelow : t.Below t.root i := by
      rcases hcases with ⟨rfl, _⟩ | ⟨_, g, hg, _⟩
      · exact ht.below_root i m h.menu
      · exact ht.below_root i g hg
    have := h.below_root ht hbelow
    rwa [if_neg hic, ← h.root] at this

theorem wellFormed (h : t.Absorbed id c m n u) (ht : t.WellFormed) : u.WellFormed where
  toRooted := h.rooted ht.toRooted
  options_ne_nil i k hk := by
    rcases (h.exists_menu hk).2 with ⟨_, rfl⟩ | ⟨_, g, hg, ho, _⟩
    · simpa [Menu.takeOver, Menu.options_clearFocus] using ht.options_ne_nil c n h.child
    · exact ho ▸ ht.options_ne_nil i g hg
  children_eq i k hk := by
    rcases (h.exists_menu hk).2 with ⟨_, rfl⟩ | ⟨_, g, hg, ho, hc, _⟩
    · have := ht.children_eq c n h.child
      simpa [Menu.takeOver, Menu.options_clearFocus, List.filterMap_map,
        Function.comp_def] using this
    · rw [ho, hc]
      exact ht.children_eq i g hg

end Absorbed

/-! ## The whole collapse -/

theorem absorbAll_eq_self {t : MenuTree} {id : MenuId} (h : t.absorb? id = none) :
    t.absorbAll id = t := by
  rw [absorbAll]
  split
  · rfl
  · next u hu =>
    rw [h] at hu
    contradiction

/-- Where no menu can take over another one, the collapse changes nothing. -/
theorem collapse_eq_self {t : MenuTree} (h : ∀ id ∈ t.preorder, t.absorb? id = none) :
    t.collapse = t := by
  unfold collapse
  generalize t.preorder = ids at h
  induction ids with
  | nil => rfl
  | cons id ids ih =>
    rw [List.forall_mem_cons] at h
    rw [List.foldl_cons, absorbAll_eq_self h.1, ih h.2]

/-- What every step keeps, taking over as often as possible keeps. -/
theorem absorbAll_induction {motive : MenuTree → Prop}
    (step : ∀ t u id, motive t → t.absorb? id = some u → motive u) {t : MenuTree} (h : motive t)
    (id : MenuId) : motive (t.absorbAll id) := by
  fun_induction absorbAll t id with
  | case1 t _ => exact h
  | case2 t u hu ih => exact ih (step t u id h hu)

/-- What every step keeps, the collapse keeps. -/
theorem collapse_induction {motive : MenuTree → Prop}
    (step : ∀ t u id, motive t → t.absorb? id = some u → motive u) {t : MenuTree} (h : motive t) :
    motive t.collapse := by
  unfold collapse
  generalize t.preorder = ids
  induction ids generalizing t with
  | nil => exact h
  | cons id ids ih => exact ih (absorbAll_induction step h id)

/-- What every step from a rooted tree keeps, the collapse of a rooted tree keeps. -/
theorem Rooted.collapse_induction {motive : MenuTree → Prop}
    (step : ∀ {t u id c m n}, t.Rooted → motive t → t.Absorbed id c m n u → motive u)
    {t : MenuTree} (ht : t.Rooted) (h : motive t) : t.collapse.Rooted ∧ motive t.collapse := by
  refine MenuTree.collapse_induction (motive := fun t => t.Rooted ∧ motive t) ?_ ⟨ht, h⟩
  rintro t u id ⟨ht, h⟩ hu
  obtain ⟨c, m, n, ha⟩ := ht.exists_absorbed hu
  exact ⟨ha.rooted ht, step ht h ha⟩

theorem Rooted.collapse {t : MenuTree} (h : t.Rooted) : t.collapse.Rooted :=
  (h.collapse_induction (motive := fun _ => True) (fun _ _ _ => trivial) trivial).1

theorem WellFormed.collapse {t : MenuTree} (h : t.WellFormed) : t.collapse.WellFormed :=
  (h.toRooted.collapse_induction (fun _ h ha => ha.wellFormed h) h).2

/-- What holds of every menu, and is not lost when a menu gets another parent or takes
over another menu, holds of every menu after the collapse. -/
theorem Rooted.every_collapse {t : MenuTree} {Q : Menu → Prop} (h : t.Rooted)
    (hparent : ∀ m p, Q m → Q { m with parent := some p })
    (htake : ∀ m n, Q m → Q n → Q (m.takeOver n)) (hQ : t.Every Q) : t.collapse.Every Q := by
  refine (h.collapse_induction (motive := fun t => t.Every Q) ?_ hQ).2
  intro t u id c m n _ hQ ha i k hk
  rw [ha.get?] at hk
  split at hk
  · contradiction
  · split at hk
    · rw [← Option.some.inj hk]
      exact htake m n (hQ id m ha.menu) (hQ c n ha.child)
    · split at hk
      · obtain ⟨g, hg, rfl⟩ := Option.map_eq_some_iff.1 hk
        exact hparent g id (hQ i g hg)
      · exact hQ i k hk

/-- Where no option is highlighted, none is after the collapse. -/
theorem Rooted.unfocused_collapse {t : MenuTree} (h : t.Rooted)
    (hf : ∀ id m, t.get? id = some m → ∀ o ∈ m.options, o.focused = false) :
    ∀ id m, t.collapse.get? id = some m → ∀ o ∈ m.options, o.focused = false := by
  refine h.every_collapse (fun _ _ hm => hm) (fun m n _ _ o ho => ?_) hf
  obtain ⟨o', _, rfl⟩ := List.mem_map.1 ho
  rfl

/-- A menu that the collapse leaves was there before, at the same place on the
screen. -/
theorem Rooted.anchor_collapse {t : MenuTree} (h : t.Rooted) {id : MenuId} {m : Menu}
    (hm : t.collapse.get? id = some m) : ∃ k, t.get? id = some k ∧ m.anchor = k.anchor := by
  refine (h.collapse_induction (motive := fun u => ∀ i g, u.get? i = some g →
    ∃ k, t.get? i = some k ∧ g.anchor = k.anchor) ?_ fun i g hg => ⟨g, hg, rfl⟩).2 id m hm
  intro s u id c m n _ hs ha i k hk
  rcases (ha.exists_menu hk).2 with ⟨rfl, rfl⟩ | ⟨_, g, hg, _, _, hanchor, _⟩
  · exact hs i m ha.menu
  · exact hanchor ▸ hs i g hg

end MenuTree

end StructEdit
