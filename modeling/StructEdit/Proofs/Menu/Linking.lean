import StructEdit.Menu.Build
import StructEdit.Proofs.Menu.WellFormed

/-!
# StructEdit.Proofs.Menu.Linking

What the links that are made one after the other make of the menus. A link is only
made to a menu without a parent, so the menus stay a forest whatever links are
asked for (`Forest.foldl_addLink`); and when those of each menu are asked for in
the order of its options, its children stay in that order
(`Aligned.foldl_addLink`). Main statement: `option?_foldl_addLink`, which of the
links that are asked for are made.
-/

namespace StructEdit

/-! ## Menus with a link more -/

namespace Menu

/-- The menu with its parent set. -/
def withParent (m : Menu) (p : MenuId) : Menu := { m with parent := some p }

/-- The menu with one of its options made a link, and with the child that it links
to. -/
def withLink (m : Menu) (index : Nat) (child : MenuId) : Menu :=
  if index < m.options.length then
    { m with
      options := m.options.modify index fun o => { o with target := .link child }
      children := m.children ++ [child] }
  else m

@[simp]
theorem parent_withLink (m : Menu) (index : Nat) (c : MenuId) :
    (m.withLink index c).parent = m.parent := by
  unfold withLink
  split <;> rfl

@[simp]
theorem isOpen_withLink (m : Menu) (index : Nat) (c : MenuId) :
    (m.withLink index c).isOpen = m.isOpen := by
  unfold withLink
  split <;> rfl

@[simp]
theorem openedLink_withLink (m : Menu) (index : Nat) (c : MenuId) :
    (m.withLink index c).openedLink = m.openedLink := by
  unfold withLink
  split <;> rfl

/-- A link that is set makes its menu a child, unless there is no option of the index. -/
theorem children_withLink (m : Menu) (index : Nat) (c : MenuId) :
    (m.withLink index c).children =
      if index < m.options.length then m.children ++ [c] else m.children := by
  unfold withLink
  split <;> rfl

/-- A link changes the target of one option, and nothing else of any. -/
theorem options_withLink (m : Menu) (index : Nat) (c : MenuId) :
    (m.withLink index c).options =
      m.options.modify index fun o => { o with target := .link c } := by
  unfold withLink
  split
  · rfl
  · next h => rw [List.modify_eq_self (Nat.le_of_not_lt h)]

/-- An option of a menu with a link more was there before, or is the link to the child
that the menu got with it. -/
theorem mem_options_withLink {m : Menu} {index : Nat} {c : MenuId} {o : MenuOption}
    (h : o ∈ (m.withLink index c).options) :
    o ∈ m.options ∨ o.target = .link c ∧ c ∈ (m.withLink index c).children := by
  obtain ⟨i, hi⟩ := List.mem_iff_getElem?.1 h
  rw [options_withLink, List.getElem?_modify] at hi
  obtain ⟨o', ho', rfl⟩ := Option.map_eq_some_iff.1 hi
  split
  · next heq =>
    subst heq
    have hlt : index < m.options.length := (List.getElem?_eq_some_iff.1 ho').1
    exact .inr ⟨rfl, by simp [children_withLink, hlt]⟩
  · exact .inl (List.mem_of_getElem? ho')

end Menu

namespace MenuTree

variable {t : MenuTree}

/-! ## One link -/

/-- A link can be made to a menu that no other link leads to, other than the root and the menu of
the link. -/
theorem isLinkable_iff {l : Link} :
    t.isLinkable l = true ↔
      l.child ≠ l.parent ∧ l.child ≠ t.root ∧ ∃ m, t.get? l.child = some m ∧ m.parent = none := by
  cases h : t.get? l.child <;> simp [isLinkable, h, and_assoc]

@[simp]
theorem root_setLink (l : Link) : (t.setLink l).root = t.root := rfl

@[simp]
theorem root_addLink (l : Link) : (t.addLink l).root = t.root := by
  unfold addLink
  split <;> rfl

/-- Links do not move the root. -/
@[simp]
theorem root_foldl_addLink (ls : List Link) : (ls.foldl addLink t).root = t.root := by
  induction ls generalizing t with
  | nil => rfl
  | cons l ls ih => rw [List.foldl_cons, ih, root_addLink]

/-- What a link between two menus leaves in each slot. -/
theorem get?_setLink {l : Link} (hne : l.child ≠ l.parent) (i : MenuId) :
    (t.setLink l).get? i =
      if i = l.parent then (t.get? i).map (·.withLink l.index l.child)
      else if i = l.child then (t.get? i).map (·.withParent l.parent)
      else t.get? i := by
  change ((t.update l.child (·.withParent l.parent)).update l.parent
    (·.withLink l.index l.child)).get? i = _
  rw [get?_update, get?_update]
  by_cases hp : i = l.parent
  · have hc : i ≠ l.child := fun h => hne (h ▸ hp)
    rw [if_pos hp, if_pos hp, if_neg hc]
  · rw [if_neg hp, if_neg hp]

/-- A link adds nothing to the children of a menu but its own child to its own menu. -/
theorem children_setLink {l : Link} (hne : l.child ≠ l.parent) (id : MenuId) :
    (t.setLink l).children id = t.children id ∨
      id = l.parent ∧ (t.setLink l).children id = t.children id ++ [l.child] := by
  simp only [children, get?_setLink hne]
  cases t.get? id with
  | none => simp
  | some m =>
    by_cases hp : id = l.parent
    · simp only [if_pos hp, Option.map_some, Menu.children_withLink]
      split
      · exact .inr ⟨hp, rfl⟩
      · exact .inl rfl
    · simp only [if_neg hp]
      by_cases hc : id = l.child
      · simp [if_pos hc, Menu.withParent]
      · simp [if_neg hc]

/-- A link that is set adds one child at most. -/
theorem isChild_setLink {l : Link} (hne : l.child ≠ l.parent) {p c : MenuId}
    (h : (t.setLink l).IsChild p c) : t.IsChild p c ∨ p = l.parent ∧ c = l.child := by
  unfold IsChild at h ⊢
  rcases children_setLink (t := t) hne p with heq | ⟨hp, heq⟩ <;> rw [heq] at h
  · exact .inl h
  · rcases List.mem_append.1 h with h | h
    · exact .inl h
    · exact .inr ⟨hp, List.mem_singleton.1 h⟩

/-! ## The menus stay a forest -/

/-- A link to a menu without a parent keeps the menus a forest: nothing leads back up, since the
menu is a root of its part. -/
theorem Forest.setLink (h : t.Forest) {l : Link} (hl : t.isLinkable l = true) :
    (t.setLink l).Forest := by
  obtain ⟨hne, hroot, mc, hmc, hfree⟩ := isLinkable_iff.1 hl
  -- no menu has the child of the link among its children yet, as it names no parent
  have hnew {p c} (hc : t.IsChild p c) : c ≠ l.child := by
    rintro rfl
    obtain ⟨n, hn, hp⟩ := h.parent_of_child hc
    rw [hmc, Option.some.injEq] at hn
    rw [← hn, hfree] at hp
    contradiction
  constructor
  case root_live =>
    obtain ⟨m, hm⟩ := h.root_live
    rw [root_setLink, get?_setLink hne, hm]
    split
    · exact ⟨_, rfl⟩
    · exact ⟨_, if_neg fun he => hroot he.symm⟩
  case parent_root =>
    intro m hm
    rw [root_setLink, get?_setLink hne,
      if_neg (c := t.root = l.child) fun he => hroot he.symm] at hm
    split at hm
    · obtain ⟨n, hn, rfl⟩ := Option.map_eq_some_iff.1 hm
      rw [Menu.parent_withLink]
      exact h.parent_root n hn
    · exact h.parent_root m hm
  case nodup_children =>
    intro id
    have hnd := h.nodup_children id
    rcases children_setLink (t := t) hne id with heq | ⟨_, heq⟩ <;> rw [heq]
    · exact hnd
    · exact List.nodup_append.2 ⟨hnd, List.nodup_singleton _, fun c hc d hd =>
        List.mem_singleton.1 hd ▸ hnew hc⟩
  case parent_of_child =>
    intro p c hc
    rcases isChild_setLink hne hc with hc | ⟨rfl, rfl⟩
    · obtain ⟨n, hn, hp⟩ := h.parent_of_child hc
      rw [get?_setLink hne, if_neg (hnew hc), hn]
      split
      · exact ⟨_, rfl, by rwa [Menu.parent_withLink]⟩
      · exact ⟨n, rfl, hp⟩
    · rw [get?_setLink hne, if_neg hne, if_pos rfl, hmc]
      exact ⟨_, rfl, rfl⟩

/-- A link that can be made keeps the menus a forest, and any other changes nothing. -/
theorem Forest.addLink (h : t.Forest) (l : Link) : (t.addLink l).Forest := by
  unfold MenuTree.addLink
  split
  · next hl => exact h.setLink hl
  · exact h

/-- Whatever links are asked for, the menus stay a forest. -/
theorem Forest.foldl_addLink (h : t.Forest) (ls : List Link) :
    (ls.foldl MenuTree.addLink t).Forest := by
  induction ls generalizing t with
  | nil => exact h
  | cons l ls ih => exact ih (h.addLink l)

/-! ## Children in the order of the options -/

/-- Turning an entry into one that counts, after which none counts, adds it to the
end of those that count. -/
theorem filterMap_modify_of_none {f : α → α} {g : α → Option β} {b : β} {l : List α} {k : Nat}
    (hk : k < l.length) (hnone : ∀ j a, k ≤ j → l[j]? = some a → g a = none)
    (hf : ∀ a, g (f a) = some b) : (l.modify k f).filterMap g = l.filterMap g ++ [b] := by
  induction l generalizing k with
  | nil => simp at hk
  | cons a l ih =>
    cases k with
    | zero =>
      have ha : g a = none := hnone 0 a (Nat.le_refl 0) rfl
      have hl : l.filterMap g = [] := by
        rw [List.filterMap_eq_nil_iff]
        intro c hc
        obtain ⟨j, hj⟩ := List.mem_iff_getElem?.1 hc
        exact hnone (j + 1) c (Nat.zero_le _) hj
      simp [hf, ha, hl]
    | succ k =>
      have hrest := ih (Nat.lt_of_succ_lt_succ hk) fun j c hj hc =>
        hnone (j + 1) c (Nat.succ_le_succ hj) hc
      cases ha : g a <;> simp [ha, hrest]

/-- The links of each menu are asked for in the order of its options. -/
def InOrder (ls : List Link) : Prop :=
  ls.Pairwise fun k l => k.parent = l.parent → k.index < l.index

/-- The children of every menu are what its options link to, and the options from
the next one that is to become a link are none yet. -/
def Aligned (t : MenuTree) (ls : List Link) : Prop :=
  ∀ id m, t.get? id = some m → m.children = m.options.filterMap (·.child?) ∧
    ∀ l ∈ ls, l.parent = id → ∀ j o, l.index ≤ j → m.options[j]? = some o → o.child? = none

/-- Links that are set in order keep the children in the order of the options. -/
theorem Aligned.setLink {l : Link} {ls : List Link} (h : t.Aligned (l :: ls))
    (hls : InOrder (l :: ls)) (hne : l.child ≠ l.parent) : (t.setLink l).Aligned ls := by
  intro id m hm
  rw [get?_setLink hne] at hm
  split at hm
  · next hp =>
    obtain ⟨n, hn, rfl⟩ := Option.map_eq_some_iff.1 hm
    obtain ⟨hc, hpending⟩ := h id n hn
    constructor
    · rw [Menu.children_withLink, Menu.options_withLink]
      split
      · next hk =>
        rw [hc, filterMap_modify_of_none hk (hpending l List.mem_cons_self hp.symm)
          (b := l.child) fun o => rfl]
      · next hk => rw [hc, List.modify_eq_self (Nat.le_of_not_lt hk)]
    · intro k hk hkp j o hj ho
      have hlt : l.index < k.index := (List.pairwise_cons.1 hls).1 k hk (hp.symm.trans hkp.symm)
      rw [Menu.options_withLink, List.getElem?_modify_ne _ _ (by omega)] at ho
      exact hpending k (List.mem_cons_of_mem l hk) hkp j o hj ho
  · split at hm
    · obtain ⟨n, hn, rfl⟩ := Option.map_eq_some_iff.1 hm
      exact (h id n hn).imp_right fun hpending k hk => hpending k (List.mem_cons_of_mem l hk)
    · exact (h id m hm).imp_right fun hpending k hk => hpending k (List.mem_cons_of_mem l hk)

/-- Links that are added in order keep the children in the order of the options. -/
theorem Aligned.addLink {l : Link} {ls : List Link} (h : t.Aligned (l :: ls))
    (hls : InOrder (l :: ls)) : (t.addLink l).Aligned ls := by
  unfold MenuTree.addLink
  split
  · next hl => exact h.setLink hls (isLinkable_iff.1 hl).1
  · exact fun id m hm =>
      (h id m hm).imp_right fun hpending k hk => hpending k (List.mem_cons_of_mem l hk)

/-- Links that are asked for in order leave the children in the order of the
options. -/
theorem Aligned.foldl_addLink {ls : List Link} (h : t.Aligned ls) (hls : InOrder ls) :
    (ls.foldl MenuTree.addLink t).Aligned [] := by
  induction ls generalizing t with
  | nil => exact h
  | cons l ls ih => exact ih (h.addLink hls) (List.pairwise_cons.1 hls).2

/-! ## Which links are made -/

/-- An option by its menu and its place there. -/
def option? (t : MenuTree) (id : MenuId) (i : Nat) : Option MenuOption :=
  (t.get? id).bind (·.options[i]?)

theorem option?_of_get? {id : MenuId} {m : Menu} (h : t.get? id = some m) (i : Nat) :
    t.option? id i = m.options[i]? := by
  simp [option?, h]

/-- A link changes the option that it is of, and no other one. -/
theorem option?_setLink {l : Link} (hne : l.child ≠ l.parent) (id : MenuId) (i : Nat) :
    (t.setLink l).option? id i =
      if id = l.parent ∧ i = l.index then
        (t.option? id i).map fun o => { o with target := .link l.child }
      else t.option? id i := by
  simp only [option?, get?_setLink hne]
  cases t.get? id with
  | none => simp
  | some m =>
    by_cases hp : id = l.parent
    · by_cases hi : i = l.index
      · subst hi
        simp [hp, Menu.options_withLink]
      · simp [hp, hi, Menu.options_withLink, List.getElem?_modify_ne _ _ (Ne.symm hi)]
    · rw [if_neg hp, if_neg (c := id = l.parent ∧ i = l.index) fun hat => hp hat.1]
      by_cases hc : id = l.child
      · rw [if_pos hc]; rfl
      · rw [if_neg hc]

/-- A link that is not to an option leaves the option alone. -/
theorem option?_addLink_of_ne {l : Link} {id : MenuId} {i : Nat}
    (h : ¬ (id = l.parent ∧ i = l.index)) : (t.addLink l).option? id i = t.option? id i := by
  unfold addLink
  split
  · next hl => rw [option?_setLink (isLinkable_iff.1 hl).1, if_neg h]
  · rfl

/-- An option that no link is of stays as it is. -/
theorem option?_foldl_addLink_of_ne {ls : List Link} {id : MenuId} {i : Nat}
    (h : ∀ l ∈ ls, ¬ (id = l.parent ∧ i = l.index)) :
    (ls.foldl addLink t).option? id i = t.option? id i := by
  induction ls generalizing t with
  | nil => rfl
  | cons l ls ih =>
    rw [List.forall_mem_cons] at h
    rw [List.foldl_cons, ih h.2, option?_addLink_of_ne h.1]

/-- Links change nothing of an option but its target. -/
theorem exists_target_of_foldl_addLink (ls : List Link) (id : MenuId) (i : Nat) :
    (ls.foldl addLink t).option? id i = t.option? id i ∨
      ∃ c, (ls.foldl addLink t).option? id i =
        (t.option? id i).map fun o => { o with target := .link c } := by
  induction ls generalizing t with
  | nil => exact .inl rfl
  | cons l ls ih =>
    have hstep : (t.addLink l).option? id i = t.option? id i ∨
        (t.addLink l).option? id i =
          (t.option? id i).map fun o => { o with target := .link l.child } := by
      by_cases hat : id = l.parent ∧ i = l.index
      · unfold addLink
        split
        · next hl => exact .inr (by rw [option?_setLink (isLinkable_iff.1 hl).1, if_pos hat])
        · exact .inl rfl
      · exact .inl (option?_addLink_of_ne hat)
    rw [List.foldl_cons]
    rcases ih (t := t.addLink l) with hr | ⟨c, hr⟩ <;> rcases hstep with hs | hs <;> rw [hr, hs]
    · exact .inl rfl
    · exact .inr ⟨l.child, rfl⟩
    · exact .inr ⟨c, rfl⟩
    · exact .inr ⟨c, by simp [Function.comp_def]⟩

/-- What holds of every menu, and is not lost when a menu gets a parent or a link, holds
of every menu whatever links are asked for. -/
theorem Every.foldl_addLink {Q : Menu → Prop} (hparent : ∀ m p, Q m → Q (m.withParent p))
    (hlink : ∀ m i c, Q m → Q (m.withLink i c)) (h : t.Every Q) (ls : List Link) :
    (ls.foldl MenuTree.addLink t).Every Q := by
  induction ls generalizing t with
  | nil => exact h
  | cons l ls ih =>
    refine ih fun id m hm => ?_
    unfold MenuTree.addLink at hm
    split at hm
    · next hl =>
      rw [get?_setLink (isLinkable_iff.1 hl).1] at hm
      split at hm
      · obtain ⟨n, hn, rfl⟩ := Option.map_eq_some_iff.1 hm
        exact hlink n _ _ (h id n hn)
      · split at hm
        · obtain ⟨n, hn, rfl⟩ := Option.map_eq_some_iff.1 hm
          exact hparent n _ (h id n hn)
        · exact h id m hm
    · exact h id m hm

/-- A menu is there and no link leads to it. -/
def IsFree (t : MenuTree) (c : MenuId) : Prop := ∃ m, t.get? c = some m ∧ m.parent = none

/-- A link that is set takes one menu that was free. -/
theorem isFree_setLink {l : Link} (hne : l.child ≠ l.parent) {c : MenuId} :
    (t.setLink l).IsFree c ↔ t.IsFree c ∧ c ≠ l.child := by
  simp only [IsFree, get?_setLink hne]
  cases t.get? c with
  | none => simp
  | some m =>
    by_cases hp : c = l.parent
    · have hc : c ≠ l.child := fun h => hne (h ▸ hp)
      simp only [if_pos hp]
      simp [hc]
    · simp only [if_neg hp]
      by_cases hc : c = l.child
      · simp only [if_pos hc]
        simp [hc, Menu.withParent]
      · simp only [if_neg hc]
        simp [hc]

/-- Links take a menu once, and never the root or their own menu. -/
theorem isFree_addLink {l : Link} {c : MenuId} :
    (t.addLink l).IsFree c ↔ t.IsFree c ∧ (l.child = c → c = l.parent ∨ c = t.root) := by
  unfold addLink
  split
  · next hl =>
    obtain ⟨hne, hroot, _⟩ := isLinkable_iff.1 hl
    rw [isFree_setLink hne]
    grind
  · next hl =>
    rw [isLinkable_iff] at hl
    unfold IsFree
    grind

/-- A menu stays free as long as no link is asked for that can be made to it. -/
theorem isFree_foldl_addLink {ls : List Link} {c : MenuId} :
    (ls.foldl addLink t).IsFree c ↔
      t.IsFree c ∧ ∀ l ∈ ls, l.child = c → c = l.parent ∨ c = t.root := by
  induction ls generalizing t with
  | nil => simp
  | cons l ls ih =>
    rw [List.foldl_cons, ih, isFree_addLink, root_addLink, List.forall_mem_cons, and_assoc]

/-- A link that is asked for after others is made: it leads to another menu than
its own and than the root, and none of the others leads there, links of a menu to
itself apart. -/
def IsMade (t : MenuTree) (earlier : List Link) (l : Link) : Prop :=
  l.child ≠ l.parent ∧ l.child ≠ t.root ∧ t.IsFree l.child ∧
    ∀ k ∈ earlier, k.child = l.child → k.child = k.parent

/-- Behind earlier links a link can be made just when it is the first one that can. -/
theorem isLinkable_foldl_addLink {earlier : List Link} {l : Link} :
    (earlier.foldl addLink t).isLinkable l = true ↔ t.IsMade earlier l := by
  rw [isLinkable_iff, root_foldl_addLink]
  change _ ∧ _ ∧ (earlier.foldl addLink t).IsFree l.child ↔ _
  rw [isFree_foldl_addLink]
  unfold IsMade
  grind

/-- A menu that has a parent keeps it whatever links are asked for. -/
theorem parent_foldl_addLink {ls : List Link} {id p : MenuId}
    (h : ∃ m, t.get? id = some m ∧ m.parent = some p) :
    ∃ m, (ls.foldl addLink t).get? id = some m ∧ m.parent = some p := by
  induction ls generalizing t with
  | nil => exact h
  | cons l ls ih =>
    refine ih ?_
    obtain ⟨m, hm, hp⟩ := h
    unfold addLink
    split
    · next hl =>
      obtain ⟨hne, _, n, hn, hfree⟩ := isLinkable_iff.1 hl
      rw [get?_setLink hne, hm]
      split
      · exact ⟨_, rfl, (m.parent_withLink l.index l.child).trans hp⟩
      · have hid : id ≠ l.child := by
          rintro rfl
          rw [hn, Option.some.injEq] at hm
          rw [← hm, hfree] at hp
          contradiction
        exact ⟨m, if_neg hid, hp⟩
    · exact ⟨m, hm, hp⟩

/-- The parent of a menu is the one that the link made to it is from. -/
theorem parent_of_isMade {earlier : List Link} {l : Link} (h : t.IsMade earlier l)
    (later : List Link) : ∃ m, ((earlier ++ l :: later).foldl addLink t).get? l.child = some m ∧
      m.parent = some l.parent := by
  have hl : (earlier.foldl addLink t).isLinkable l = true := isLinkable_foldl_addLink.2 h
  obtain ⟨hne, _, m, hm, _⟩ := isLinkable_iff.1 hl
  rw [List.foldl_append, List.foldl_cons, addLink, if_pos hl]
  refine parent_foldl_addLink ⟨m.withParent l.parent, ?_, rfl⟩
  rw [get?_setLink hne, if_neg hne, if_pos rfl, hm, Option.map_some]

/-- An option that is asked to be a link becomes one if the link is made, and stays
what it is if not. -/
theorem option?_foldl_addLink {earlier later : List Link} {l : Link}
    (hls : InOrder (earlier ++ l :: later)) :
    (t.IsMade earlier l → ((earlier ++ l :: later).foldl addLink t).option? l.parent l.index =
        (t.option? l.parent l.index).map fun o => { o with target := .link l.child }) ∧
      (¬ t.IsMade earlier l →
        ((earlier ++ l :: later).foldl addLink t).option? l.parent l.index =
          t.option? l.parent l.index) := by
  obtain ⟨_, hlater, hearlier⟩ := List.pairwise_append.1 hls
  have hbefore : (earlier.foldl addLink t).option? l.parent l.index =
      t.option? l.parent l.index := by
    refine option?_foldl_addLink_of_ne fun k hk hat => ?_
    have := hearlier k hk l List.mem_cons_self hat.1.symm
    omega
  have hafter (u : MenuTree) : (later.foldl addLink u).option? l.parent l.index =
      u.option? l.parent l.index := by
    refine option?_foldl_addLink_of_ne fun k hk hat => ?_
    have := (List.pairwise_cons.1 hlater).1 k hk hat.1
    omega
  -- the option is asked for once only, so the links before and after leave it alone
  rw [List.foldl_append, List.foldl_cons, hafter, ← isLinkable_foldl_addLink, addLink]
  constructor
  · intro hl
    rw [if_pos hl, option?_setLink (isLinkable_iff.1 hl).1, if_pos ⟨rfl, rfl⟩, hbefore]
  · intro hl
    rw [if_neg hl, hbefore]

end MenuTree

end StructEdit
