import StructEdit.Proofs.Menu.Flags

/-!
# StructEdit.Proofs.Menu.WellFormed

Well-formed trees. A tree is rooted when each of its menus is below the root, and
well formed when besides that the children of a menu are what its options link to
and no menu is without options. Both are kept by every change that keeps the bare
tree. Main statements: `Forest.rooted_restrict_preorder`, dropping what is not
below the root leaves a rooted tree, and `WellFormed.isTree`, what a well-formed
tree is in terms of walks, children and parents.
-/

namespace StructEdit

namespace MenuTree

/-! ## Rooted trees -/

/-- A forest in which every menu is below the root. -/
structure Rooted (t : MenuTree) : Prop extends t.Forest where
  below_root : ∀ id m, t.get? id = some m → t.Below t.root id

namespace Rooted

variable {t : MenuTree}

/-- The list of a rooted tree has all its menus. -/
theorem mem_preorder_iff (h : t.Rooted) {id : MenuId} :
    id ∈ t.preorder ↔ ∃ m, t.get? id = some m := by
  rw [h.toForest.mem_preorder_iff]
  exact ⟨h.live_of_below_root, fun ⟨m, hm⟩ => h.below_root id m hm⟩

/-- A menu other than the root is a child of the menu that it names as its parent,
and of no other menu. -/
theorem isChild_iff_parent (h : t.Rooted) {id : MenuId} {m : Menu} (hm : t.get? id = some m)
    {p : MenuId} : t.IsChild p id ↔ m.parent = some p := by
  constructor
  · intro hc
    obtain ⟨n, hn, hp⟩ := h.parent_of_child hc
    rw [hm, Option.some.injEq] at hn
    rwa [hn]
  · intro hp
    rcases Relation.ReflTransGen.cases_tail (h.below_root id m hm) with heq | ⟨q, _, hq⟩
    · subst heq
      rw [h.parent_root m hm] at hp
      contradiction
    · obtain ⟨n, hn, hpq⟩ := h.parent_of_child hq
      rw [hm, Option.some.injEq] at hn
      rw [← hn, hp, Option.some.injEq] at hpq
      rwa [hpq]

/-- Every menu but the root has a parent. -/
theorem exists_parent (h : t.Rooted) {id : MenuId} {m : Menu} (hm : t.get? id = some m)
    (hne : id ≠ t.root) : ∃ p, m.parent = some p := by
  rcases Relation.ReflTransGen.cases_tail (h.below_root id m hm) with heq | ⟨p, _, hp⟩
  · exact absurd heq hne
  · exact ⟨p, (h.isChild_iff_parent hm).1 hp⟩

end Rooted

/-- Whether a tree is rooted is told by its shape. -/
theorem rooted_bare {t : MenuTree} : t.bare.Rooted ↔ t.Rooted := by
  constructor
  · intro h
    refine ⟨forest_bare.1 h.toForest, fun id m hm => ?_⟩
    have := h.below_root id m.bare (by simp [hm])
    rwa [below_bare] at this
  · intro h
    refine ⟨forest_bare.2 h.toForest, fun id n hn => ?_⟩
    obtain ⟨m, hm, _⟩ := Option.map_eq_some_iff.1 (get?_bare t id ▸ hn)
    rw [below_bare]
    exact h.below_root id m hm

/-- A tree that differs from a rooted one in open and highlighted menus is rooted. -/
theorem Rooted.of_bare_eq {t u : MenuTree} (h : t.Rooted) (hb : u.bare = t.bare) : u.Rooted :=
  rooted_bare.1 (hb ▸ rooted_bare.2 h)

/-! ## Dropping what is not below the root -/

/-- Where only some menus are kept, the children are those of the kept ones. -/
theorem isChild_restrict_iff {t : MenuTree} {ids : List MenuId} {p c : MenuId} :
    (t.restrict ids).IsChild p c ↔ p ∈ ids ∧ t.IsChild p c := by
  simp only [IsChild, children, get?_restrict]
  by_cases hp : p ∈ ids <;> simp [hp]

/-- Keeping what is below the root keeps the way down to it. -/
theorem Forest.below_restrict_preorder {t : MenuTree} (h : t.Forest) {x : MenuId}
    (hx : t.Below t.root x) : (t.restrict t.preorder).Below t.root x := by
  induction hx with
  | refl => exact .refl
  | tail hp hc ih => exact ih.tail (isChild_restrict_iff.2 ⟨h.mem_preorder_iff.2 hp, hc⟩)

/-- What is left of a forest below its root is rooted. -/
theorem Forest.rooted_restrict_preorder {t : MenuTree} (h : t.Forest) :
    (t.restrict t.preorder).Rooted := by
  have hget {id} (hid : t.Below t.root id) : (t.restrict t.preorder).get? id = t.get? id := by
    rw [get?_restrict, if_pos (h.mem_preorder_iff.2 hid)]
  have hforest : (t.restrict t.preorder).Forest := by
    constructor
    case root_live =>
      rw [root_restrict, hget .refl]
      exact h.root_live
    case parent_root =>
      rw [root_restrict, hget .refl]
      exact h.parent_root
    case nodup_children =>
      intro id
      simp only [children, get?_restrict]
      split
      · exact .nil
      · next m hm =>
        split at hm
        · exact children_of_get? hm ▸ h.nodup_children id
        · contradiction
    case parent_of_child =>
      intro p c hpc
      obtain ⟨hp, hc⟩ := isChild_restrict_iff.1 hpc
      rw [hget ((h.mem_preorder_iff.1 hp).tail hc)]
      exact h.parent_of_child hc
  refine ⟨hforest, fun id m hm => ?_⟩
  rw [get?_restrict] at hm
  split at hm
  · next hid => exact h.below_restrict_preorder (h.mem_preorder_iff.1 hid)
  · contradiction

/-! ## Well-formed trees -/

/-- A rooted tree in which the children of every menu are what its options link
to, and every menu has options. -/
structure WellFormed (t : MenuTree) : Prop extends t.Rooted where
  options_ne_nil : ∀ id m, t.get? id = some m → m.options ≠ []
  children_eq : ∀ id m, t.get? id = some m → m.children = m.options.filterMap (·.child?)

/-- A tree that differs from a well-formed one in open and highlighted menus is
well formed. -/
theorem WellFormed.of_bare_eq {t u : MenuTree} (h : t.WellFormed) (hb : u.bare = t.bare) :
    u.WellFormed where
  toRooted := h.toRooted.of_bare_eq hb
  options_ne_nil := Every.of_bare_eq (fun m => by simp) h.options_ne_nil hb
  children_eq :=
    Every.of_bare_eq (fun m => by simp [List.filterMap_map, Function.comp_def]) h.children_eq hb

/-! ## What this comes to -/

/-- The menus make a tree: the root is there and has no parent; the walk from the
root ends and meets each menu just once, the root first; every menu has options;
its children are the targets of its links in the order of its options, each of
them once; a child is there and names its parent; and every menu but the root is
a child of one menu, which is its parent. -/
structure IsTree (t : MenuTree) : Prop where
  root : ∃ m, t.get? t.root = some m ∧ m.parent = none
  walk : ∀ order, t.Walks [t.root] order ↔ order = t.preorder
  head : t.preorder.head? = some t.root
  nodup : t.preorder.Nodup
  mem : ∀ id, id ∈ t.preorder ↔ ∃ m, t.get? id = some m
  options : ∀ id m, t.get? id = some m → m.options ≠ []
  links : ∀ id m, t.get? id = some m →
    m.children = m.options.filterMap (·.child?) ∧ m.children.Nodup
  child : ∀ id m, t.get? id = some m → ∀ c ∈ m.children,
    ∃ n, t.get? c = some n ∧ n.parent = some id
  parent : ∀ id m, t.get? id = some m → id ≠ t.root →
    ∃ p, m.parent = some p ∧ ∀ q, (∃ n, t.get? q = some n ∧ id ∈ n.children) ↔ q = p

/-- What makes a tree well-formed says of it what is promised of menus. -/
theorem WellFormed.isTree {t : MenuTree} (h : t.WellFormed) : t.IsTree where
  root := by
    obtain ⟨m, hm⟩ := h.root_live
    exact ⟨m, hm, h.parent_root m hm⟩
  walk order := ⟨fun hw => hw.unique h.walks_preorder, fun heq => heq ▸ h.walks_preorder⟩
  head := h.head?_preorder
  nodup := h.nodup_preorder
  mem _ := h.mem_preorder_iff
  options := h.options_ne_nil
  links id m hm := ⟨h.children_eq id m hm, children_of_get? hm ▸ h.nodup_children id⟩
  child id m hm c hc := h.parent_of_child (isChild_of_get? hm hc)
  parent id m hm hne := by
    obtain ⟨p, hp⟩ := h.exists_parent hm hne
    refine ⟨p, hp, fun q => ?_⟩
    have hq : (∃ n, t.get? q = some n ∧ id ∈ n.children) ↔ t.IsChild q id :=
      ⟨fun ⟨_, hn, hid⟩ => isChild_of_get? hn hid, exists_menu_of_isChild⟩
    rw [hq, h.isChild_iff_parent hm, hp, Option.some.injEq, eq_comm]

end MenuTree

end StructEdit
