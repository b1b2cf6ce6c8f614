import Mathlib.Data.Set.Card
import Mathlib.Logic.Relation
import StructEdit.Menu.Tree

/-!
# StructEdit.Proofs.Menu.Forest

Slots in which no menu is a child twice and the root is no child (`Forest`). The
menus at or below the root then make a tree, although the slots may hold cycles
elsewhere: nothing leads back to a menu of the tree (`Forest.not_below_self`),
facts about its menus are proved from the bottom up (`Forest.induction`), and the
bound on the depth of a walk is never met (`Forest.reach_slots`). Main statements:
`Forest.mem_preorder_iff`, `Forest.nodup_preorder` and `Forest.walks_preorder`, on
the menus that are walked through from the root.
-/

namespace StructEdit

namespace MenuTree

/-! ## Menus below menus -/

/-- One menu is a child of another. -/
def IsChild (t : MenuTree) (p c : MenuId) : Prop := c ∈ t.children p

/-- A menu is another one, or below it any number of steps. -/
def Below (t : MenuTree) : MenuId → MenuId → Prop := Relation.ReflTransGen t.IsChild

/-- A menu is below another one, at least one step. -/
def StrictlyBelow (t : MenuTree) : MenuId → MenuId → Prop := Relation.TransGen t.IsChild

theorem children_of_get? {t : MenuTree} {id : MenuId} {m : Menu} (h : t.get? id = some m) :
    t.children id = m.children := by
  simp [children, h]

theorem isChild_of_get? {t : MenuTree} {p c : MenuId} {m : Menu} (hm : t.get? p = some m)
    (hc : c ∈ m.children) : t.IsChild p c := by
  rwa [IsChild, children_of_get? hm]

theorem exists_menu_of_isChild {t : MenuTree} {p c : MenuId} (h : t.IsChild p c) :
    ∃ m, t.get? p = some m ∧ c ∈ m.children := by
  unfold IsChild children at h
  split at h
  · simp at h
  · exact ⟨_, by assumption, h⟩

theorem lt_length_of_get? {t : MenuTree} {id : MenuId} {m : Menu} (h : t.get? id = some m) :
    id < t.slots.length := by
  by_contra hl
  simp [get?, List.getElem?_eq_none (Nat.le_of_not_lt hl)] at h

/-- No menu is a child of two menus or twice of one, each child knows whose child
it is, and the root is there and no child. -/
structure Forest (t : MenuTree) : Prop where
  root_live : ∃ m, t.get? t.root = some m
  parent_root : ∀ m, t.get? t.root = some m → m.parent = none
  nodup_children : ∀ id, (t.children id).Nodup
  parent_of_child : ∀ {p c}, t.IsChild p c → ∃ m, t.get? c = some m ∧ m.parent = some p

namespace Forest

variable {t : MenuTree}

theorem parent_unique (h : t.Forest) {p q c : MenuId} (hp : t.IsChild p c) (hq : t.IsChild q c) :
    p = q := by
  obtain ⟨m, hm, hmp⟩ := h.parent_of_child hp
  obtain ⟨n, hn, hnq⟩ := h.parent_of_child hq
  rw [hm, Option.some.injEq] at hn
  subst hn
  exact Option.some.inj (hmp.symm.trans hnq)

theorem ne_root_of_isChild (h : t.Forest) {p c : MenuId} (hc : t.IsChild p c) : c ≠ t.root := by
  rintro rfl
  obtain ⟨m, hm, hp⟩ := h.parent_of_child hc
  rw [h.parent_root m hm] at hp
  contradiction

/-- The root is below no other menu. -/
theorem eq_root_of_below (h : t.Forest) {x : MenuId} (hx : t.Below x t.root) : x = t.root := by
  rcases Relation.ReflTransGen.cases_tail hx with heq | ⟨p, _, hp⟩
  · exact heq.symm
  · exact absurd rfl (h.ne_root_of_isChild hp)

theorem live_of_below (h : t.Forest) {a x : MenuId} (ha : ∃ m, t.get? a = some m)
    (hx : t.Below a x) : ∃ m, t.get? x = some m := by
  cases hx with
  | refl => exact ha
  | tail _ hc =>
    obtain ⟨m, hm, _⟩ := h.parent_of_child hc
    exact ⟨m, hm⟩

theorem live_of_below_root (h : t.Forest) {x : MenuId} (hx : t.Below t.root x) :
    ∃ m, t.get? x = some m :=
  h.live_of_below h.root_live hx

/-- No way leads from a menu of the tree back to it. The way would end with the
step from the menu's one parent, so it would also lead from the parent back to the
parent, and in the end from the root to the root. -/
theorem not_strictlyBelow_self (h : t.Forest) {a : MenuId} (ha : t.Below t.root a) :
    ¬ t.StrictlyBelow a a := by
  induction ha with
  | refl =>
    intro hr
    obtain ⟨p, _, hp⟩ := Relation.TransGen.tail'_iff.1 hr
    exact h.ne_root_of_isChild hp rfl
  | tail _ hc ih =>
    intro hr
    obtain ⟨p, hcp, hp⟩ := Relation.TransGen.tail'_iff.1 hr
    rw [h.parent_unique hp hc] at hcp
    exact ih (.head' hc hcp)

theorem not_below_parent (h : t.Forest) {p c : MenuId} (hp : t.Below t.root p)
    (hc : t.IsChild p c) : ¬ t.Below c p := fun hb =>
  h.not_strictlyBelow_self hp (.head' hc hb)

/-- Of two children of one menu neither is below the other. -/
theorem eq_of_below_of_siblings (h : t.Forest) {p b c : MenuId} (hp : t.Below t.root p)
    (hb : t.IsChild p b) (hc : t.IsChild p c) (hbc : t.Below b c) : b = c := by
  rcases Relation.ReflTransGen.cases_tail hbc with heq | ⟨q, hbq, hqc⟩
  · exact heq.symm
  · rw [h.parent_unique hqc hc] at hbq
    exact absurd hbq (h.not_below_parent hp hb)

/-- Of two menus above one menu, one is above the other. -/
theorem below_total (h : t.Forest) {a b x : MenuId} (ha : t.Below a x) (hb : t.Below b x) :
    t.Below a b ∨ t.Below b a := by
  have hu : Relator.RightUnique (Function.swap t.IsChild) := fun _ _ _ h₁ h₂ =>
    h.parent_unique h₁ h₂
  rcases Relation.ReflTransGen.total_of_right_unique hu (Relation.reflTransGen_swap.2 ha)
    (Relation.reflTransGen_swap.2 hb) with hba | hab
  · exact .inr (Relation.reflTransGen_swap.1 hba)
  · exact .inl (Relation.reflTransGen_swap.1 hab)

/-- What is above a child is above its parent, the child itself apart. -/
theorem below_child_iff (h : t.Forest) {p c x : MenuId} (hc : t.IsChild p c) :
    t.Below x c ↔ t.Below x p ∨ x = c := by
  constructor
  · intro hx
    rcases Relation.ReflTransGen.cases_tail hx with heq | ⟨q, hq, hqc⟩
    · exact .inr heq.symm
    · exact .inl (h.parent_unique hqc hc ▸ hq)
  · rintro (hx | rfl)
    · exact hx.tail hc
    · exact .refl

/-- Nothing is below two children of one menu. -/
theorem eq_of_below_both (h : t.Forest) {p b c x : MenuId} (hp : t.Below t.root p)
    (hb : t.IsChild p b) (hc : t.IsChild p c) (hbx : t.Below b x) (hcx : t.Below c x) :
    b = c := by
  rcases h.below_total hbx hcx with hbc | hcb
  · exact h.eq_of_below_of_siblings hp hb hc hbc
  · exact (h.eq_of_below_of_siblings hp hc hb hcb).symm

end Forest

/-! ## From the bottom up -/

/-- The number of menus at or below a menu. -/
noncomputable def weight (t : MenuTree) (id : MenuId) : Nat := {x | t.Below id x}.ncard

namespace Forest

variable {t : MenuTree}

theorem below_subset_slots (h : t.Forest) {a : MenuId} (ha : t.Below t.root a) :
    {x | t.Below a x} ⊆ (Finset.range t.slots.length : Set MenuId) := by
  intro x hx
  obtain ⟨m, hm⟩ := h.live_of_below_root (Relation.ReflTransGen.trans ha hx)
  simpa using lt_length_of_get? hm

theorem finite_below (h : t.Forest) {a : MenuId} (ha : t.Below t.root a) :
    {x | t.Below a x}.Finite :=
  (Finset.finite_toSet _).subset (h.below_subset_slots ha)

theorem weight_pos (h : t.Forest) {a : MenuId} (ha : t.Below t.root a) : 0 < t.weight a :=
  (Set.ncard_pos (h.finite_below ha)).2 ⟨a, .refl⟩

theorem weight_le_slots (h : t.Forest) {a : MenuId} (ha : t.Below t.root a) :
    t.weight a ≤ t.slots.length := by
  have := Set.ncard_le_ncard (h.below_subset_slots ha) (Finset.finite_toSet _)
  rwa [Set.ncard_coe_finset, Finset.card_range] at this

theorem weight_lt (h : t.Forest) {p c : MenuId} (hp : t.Below t.root p) (hc : t.IsChild p c) :
    t.weight c < t.weight p := by
  refine Set.ncard_lt_ncard ⟨fun x hx => .head hc hx, fun hs => ?_⟩ (h.finite_below hp)
  exact h.not_below_parent hp hc (hs .refl)

/-- Induction over the menus of the tree, each after its children. -/
theorem induction (h : t.Forest) {motive : (id : MenuId) → t.Below t.root id → Prop}
    (menu : ∀ id m (hid : t.Below t.root id), t.get? id = some m →
      (∀ c ∈ m.children, ∀ hc, motive c hc) → motive id hid)
    {id : MenuId} (hid : t.Below t.root id) : motive id hid := by
  induction hw : t.weight id using Nat.strong_induction_on generalizing id with
  | _ w ih =>
    obtain ⟨m, hm⟩ := h.live_of_below_root hid
    refine menu id m hid hm fun c hc hbc => ?_
    exact ih _ (hw ▸ h.weight_lt hid (isChild_of_get? hm hc)) hbc rfl

end Forest

/-! ## Walks -/

/-- Whatever is walked through is there and below the menu that the walk is from. -/
theorem below_of_mem_reach {t : MenuTree} {p : Menu → Bool} {n : Nat} {id x : MenuId}
    (h : x ∈ t.reach p n id) : t.Below id x ∧ ∃ m, t.get? x = some m ∧ p m = true := by
  induction n generalizing id with
  | zero => simp [reach] at h
  | succ n ih =>
    unfold reach at h
    split at h
    · simp at h
    · next m hm =>
      split at h
      · next hpm =>
        rcases List.mem_cons.1 h with rfl | h
        · exact ⟨.refl, m, hm, hpm⟩
        · obtain ⟨c, hc, hx⟩ := List.mem_flatMap.1 h
          exact ⟨.head (isChild_of_get? hm hc) (ih hx).1, (ih hx).2⟩
      · simp at h

namespace Forest

variable {t : MenuTree}

/-- From a menu of the tree, depths of at least its weight make no difference. -/
theorem reach_eq_of_weight_le (h : t.Forest) (p : Menu → Bool) {n k : Nat} {id : MenuId}
    (hid : t.Below t.root id) (hn : t.weight id ≤ n) (hk : t.weight id ≤ k) :
    t.reach p n id = t.reach p k id := by
  have hpos := h.weight_pos hid
  induction n generalizing k id with
  | zero => omega
  | succ n ih =>
    obtain ⟨k, rfl⟩ : ∃ k', k = k' + 1 := ⟨k - 1, by omega⟩
    obtain ⟨m, hm⟩ := h.live_of_below_root hid
    have hkids : m.children.flatMap (t.reach p n) = m.children.flatMap (t.reach p k) := by
      refine List.flatMap_congr fun c hc => ?_
      have hc := isChild_of_get? hm hc
      have hw := h.weight_lt hid hc
      have hbc := hid.tail hc
      exact ih hbc (by omega) (by omega) (h.weight_pos hbc)
    simp only [reach, hm, hkids]

/-- What is walked through from a menu of the tree, with no bound on the depth
left in sight. -/
theorem reach_slots (h : t.Forest) (p : Menu → Bool) {id : MenuId} {m : Menu}
    (hid : t.Below t.root id) (hm : t.get? id = some m) :
    t.reach p t.slots.length id =
      if p m then id :: m.children.flatMap (t.reach p t.slots.length) else [] := by
  rw [h.reach_eq_of_weight_le p hid (h.weight_le_slots hid)
    (Nat.le_succ_of_le (h.weight_le_slots hid))]
  simp only [reach, hm]

theorem mem_reach_iff (h : t.Forest) {id x : MenuId} (hid : t.Below t.root id) :
    x ∈ t.reach (fun _ => true) t.slots.length id ↔ t.Below id x := by
  refine ⟨fun hx => (below_of_mem_reach hx).1, fun hx => ?_⟩
  induction hx using Relation.ReflTransGen.head_induction_on with
  | refl =>
    obtain ⟨m, hm⟩ := h.live_of_below_root hid
    simp [h.reach_slots _ hid hm]
  | head hc _ ih =>
    obtain ⟨m, hm, hcm⟩ := exists_menu_of_isChild hc
    rw [h.reach_slots _ hid hm, if_pos rfl]
    exact List.mem_cons_of_mem _ (List.mem_flatMap.2 ⟨_, hcm, ih (hid.tail hc)⟩)

/-- The menus that are walked through from the root are those of the tree. -/
theorem mem_preorder_iff (h : t.Forest) {x : MenuId} : x ∈ t.preorder ↔ t.Below t.root x :=
  h.mem_reach_iff .refl

theorem nodup_reach (h : t.Forest) {id : MenuId} (hid : t.Below t.root id) :
    (t.reach (fun _ => true) t.slots.length id).Nodup := by
  induction hid using h.induction with
  | menu id m hid hm ih =>
    rw [h.reach_slots _ hid hm, if_pos rfl, List.nodup_cons]
    have hchild {c} (hc : c ∈ m.children) : t.IsChild id c := isChild_of_get? hm hc
    constructor
    · intro hmem
      obtain ⟨c, hc, hx⟩ := List.mem_flatMap.1 hmem
      exact h.not_below_parent hid (hchild hc) (below_of_mem_reach hx).1
    · refine List.nodup_flatMap.2 ⟨fun c hc => ih c hc (hid.tail (hchild hc)), ?_⟩
      have hnd := h.nodup_children id
      rw [children_of_get? hm] at hnd
      refine hnd.imp_of_mem fun hb hc hne => ?_
      refine List.disjoint_left.2 fun x hbx hcx => hne ?_
      exact h.eq_of_below_both hid (hchild hb) (hchild hc) (below_of_mem_reach hbx).1
        (below_of_mem_reach hcx).1

/-- No menu is walked through twice. -/
theorem nodup_preorder (h : t.Forest) : t.preorder.Nodup := h.nodup_reach .refl

/-- The walk from the root starts with the root. -/
theorem head?_preorder (h : t.Forest) : t.preorder.head? = some t.root := by
  obtain ⟨m, hm⟩ := h.root_live
  rw [preorder, h.reach_slots _ .refl hm, if_pos rfl, List.head?_cons]

end Forest

/-! ## Walks with a stack -/

/-- A walk that takes a menu off a stack, puts the children of the menu in its
place and goes on until the stack is empty; with the menus in the order in which
they are taken. There is no such order when the walk does not end. -/
inductive Walks (t : MenuTree) : List MenuId → List MenuId → Prop where
  | done : Walks t [] []
  | skip {id stack order} (dropped : t.get? id = none) (rest : Walks t stack order) :
      Walks t (id :: stack) order
  | visit {id m stack order} (live : t.get? id = some m)
      (rest : Walks t (m.children ++ stack) order) : Walks t (id :: stack) (id :: order)

/-- A walk takes the menus in one order only. -/
theorem Walks.unique {t : MenuTree} {stack a b : List MenuId} (ha : t.Walks stack a)
    (hb : t.Walks stack b) : a = b := by
  induction ha generalizing b with
  | done => cases hb; rfl
  | skip hd _ ih =>
    cases hb with
    | skip _ hb => exact ih hb
    | visit hl _ => rw [hd] at hl; contradiction
  | visit hl _ ih =>
    cases hb with
    | skip hd _ => rw [hl] at hd; contradiction
    | visit hl' hb =>
      rw [hl, Option.some.injEq] at hl'
      subst hl'
      rw [ih hb]

namespace Forest

variable {t : MenuTree}

/-- The walk with a stack ends for each menu of the tree, and takes just the menus
that are reached from it. -/
theorem walks_reach (h : t.Forest) {id : MenuId} (hid : t.Below t.root id) :
    ∀ {stack order}, t.Walks stack order →
      t.Walks (id :: stack) (t.reach (fun _ => true) t.slots.length id ++ order) := by
  induction hid using h.induction with
  | menu id m hid hm ih =>
    intro stack order hrest
    rw [h.reach_slots _ hid hm, if_pos rfl, List.cons_append]
    refine .visit hm ?_
    have hbelow c (hc : c ∈ m.children) : t.Below t.root c := hid.tail (isChild_of_get? hm hc)
    -- the children are on the stack in their order, so the walk from the last one is the last
    generalize m.children = cs at ih hbelow
    induction cs with
    | nil => exact hrest
    | cons c cs ihcs =>
      rw [List.forall_mem_cons] at ih hbelow
      rw [List.cons_append, List.flatMap_cons, List.append_assoc]
      exact ih.1 hbelow.1 (ihcs ih.2 hbelow.2)

/-- The walk with a stack from the root ends, in the order of `preorder`. -/
theorem walks_preorder (h : t.Forest) : t.Walks [t.root] t.preorder := by
  have := h.walks_reach .refl Walks.done
  rwa [List.append_nil] at this

end Forest

end MenuTree

end StructEdit
