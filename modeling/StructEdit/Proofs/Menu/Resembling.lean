import Mathlib.Data.Option.Basic
import StructEdit.Proofs.Menu.Linking

/-!
# StructEdit.Proofs.Menu.Resembling

Trees that are the same but for some menus: a menu may differ in its parent if it is one of
them, and in its links if it has one of them for a child. A link to one of them may be made
in one of two such trees and not in the other (`Resembles.addLink_left`), and all other
links are made in both or in none (`Resembles.addLink`). Main statement:
`Resembles.restrict_preorder_eq`, what is below the root is the same where none of them is.
-/

namespace StructEdit

variable {except : MenuId → Prop}

namespace Menu

/-- The menu with no parent set. -/
def orphaned (m : Menu) : Menu := { m with parent := none }

theorem orphaned_withLink (m : Menu) (index : Nat) (c : MenuId) :
    (m.withLink index c).orphaned = m.orphaned.withLink index c := by
  unfold withLink orphaned
  split <;> rfl

/-- A link that is set takes away no child. -/
theorem mem_children_withLink {m : Menu} {index : Nat} {c d : MenuId} (h : d ∈ m.children) :
    d ∈ (m.withLink index c).children := by
  rw [children_withLink]
  split
  · exact List.mem_append_left _ h
  · exact h

/-- Menus that differ in their parents only are the same if their parents are. -/
theorem eq_of_orphaned_eq {m n : Menu} (h : m.orphaned = n.orphaned) (hp : m.parent = n.parent) :
    m = n := by
  cases m; cases n
  simp_all [orphaned]

/-- Two menus of one number are the same but for the parent, if it is one of some numbers,
and for links, if one of them has a child that is. -/
structure Resembles (except : MenuId → Prop) (id : MenuId) (m n : Menu) : Prop where
  parent : ¬ except id → m.parent = n.parent
  rest : (∀ c ∈ m.children, ¬ except c) → (∀ c ∈ n.children, ¬ except c) → m.orphaned = n.orphaned

namespace Resembles

variable {id c p : MenuId} {m n : Menu} {index : Nat}

/-- Every menu resembles itself. -/
theorem refl (m : Menu) : Resembles except id m m := ⟨fun _ => rfl, fun _ _ => rfl⟩

theorem symm (h : Resembles except id m n) : Resembles except id n m :=
  ⟨fun hid => (h.parent hid).symm, fun hn hm => (h.rest hm hn).symm⟩

/-- Menus resemble each other with the same link set in both. -/
theorem withLink (h : Resembles except id m n) :
    Resembles except id (m.withLink index c) (n.withLink index c) where
  parent hid := by rw [parent_withLink, parent_withLink, h.parent hid]
  rest hm hn := by
    rw [orphaned_withLink, orphaned_withLink,
      h.rest (fun d hd => hm d (mem_children_withLink hd))
        fun d hd => hn d (mem_children_withLink hd)]

/-- A link to an excepted menu is no difference that counts. -/
theorem withLink_left (h : Resembles except id m n) (hc : except c) :
    Resembles except id (m.withLink index c) n where
  parent hid := by rw [parent_withLink, h.parent hid]
  rest hm hn := by
    by_cases hindex : index < m.options.length
    · refine absurd hc (hm c ?_)
      rw [children_withLink, if_pos hindex]
      exact List.mem_append_right _ List.mem_cons_self
    · have hsame : m.withLink index c = m := if_neg hindex
      rw [hsame] at hm ⊢
      exact h.rest hm hn

/-- Menus resemble each other with the same parent set in both. -/
theorem withParent (h : Resembles except id m n) :
    Resembles except id (m.withParent p) (n.withParent p) :=
  ⟨fun _ => rfl, h.rest⟩

/-- The parent of an excepted menu is no difference that counts. -/
theorem withParent_left (h : Resembles except id m n) (hid : except id) :
    Resembles except id (m.withParent p) n :=
  ⟨fun hnot => absurd hid hnot, h.rest⟩

end Resembles

end Menu

namespace MenuTree

variable {t u : MenuTree}

/-! ## Slots -/

/-- A slot is filled just when there is a menu of its number. -/
theorem getElem?_slots (t : MenuTree) (i : MenuId) :
    t.slots[i]? = if i < t.slots.length then some (t.get? i) else none := by
  unfold get?
  split
  · next h => rw [List.getElem?_eq_getElem h, Option.join_some]
  · next h => rw [List.getElem?_eq_none (Nat.le_of_not_lt h)]

/-- Trees with the same root, as many slots and the same menus are the same. -/
theorem eq_of_get?_eq (hroot : t.root = u.root) (hlength : t.slots.length = u.slots.length)
    (h : ∀ i, t.get? i = u.get? i) : t = u := by
  have hslots : t.slots = u.slots := List.ext_getElem? fun i => by
    rw [getElem?_slots, getElem?_slots, hlength, h]
  cases t; cases u
  simp_all

@[simp]
theorem length_slots_update (id : MenuId) (f : Menu → Menu) :
    (t.update id f).slots.length = t.slots.length := by
  simp [update]

/-- Setting a link makes no slots. -/
@[simp]
theorem length_slots_setLink (l : Link) : (t.setLink l).slots.length = t.slots.length := by
  simp [setLink]

@[simp]
theorem length_slots_restrict (ids : List MenuId) :
    (t.restrict ids).slots.length = t.slots.length := by
  simp [restrict]

/-! ## Trees that are alike -/

theorem rel_refl {r : α → α → Prop} (h : ∀ a, r a a) : ∀ o, Option.Rel r o o
  | none => .none
  | some a => .some (h a)

theorem rel_map {r : α → β → Prop} {s : γ → δ → Prop} {f : α → γ} {g : β → δ}
    (h : ∀ a b, r a b → s (f a) (g b)) :
    ∀ {o p}, Option.Rel r o p → Option.Rel s (o.map f) (p.map g)
  | _, _, .none => .none
  | _, _, .some hab => .some (h _ _ hab)

theorem rel_symm {r : α → β → Prop} {s : β → α → Prop} (h : ∀ a b, r a b → s b a) :
    ∀ {o p}, Option.Rel r o p → Option.Rel s p o
  | _, _, .none => .none
  | _, _, .some hab => .some (h _ _ hab)

theorem rel_cases {r : α → β → Prop} {o : Option α} {p : Option β} (h : Option.Rel r o p) :
    o = none ∧ p = none ∨ ∃ a b, o = some a ∧ p = some b ∧ r a b := by
  cases h with
  | none => exact .inl ⟨rfl, rfl⟩
  | some hab => exact .inr ⟨_, _, rfl, rfl, hab⟩

/-- Two trees are the same but for some menus. -/
structure Resembles (except : MenuId → Prop) (t u : MenuTree) : Prop where
  root : t.root = u.root
  length : t.slots.length = u.slots.length
  menu : ∀ id, Option.Rel (Menu.Resembles except id) (t.get? id) (u.get? id)

namespace Resembles

variable {l : Link}

theorem refl (t : MenuTree) : Resembles except t t where
  root := rfl
  length := rfl
  menu _ := rel_refl .refl _

theorem symm (h : Resembles except t u) : Resembles except u t where
  root := h.root.symm
  length := h.length.symm
  menu id := rel_symm (fun _ _ hm => hm.symm) (h.menu id)

theorem parent_isNone_eq (h : Resembles except t u) {id : MenuId} (hid : ¬ except id) :
    (t.get? id).any (·.parent.isNone) = (u.get? id).any (·.parent.isNone) := by
  rcases rel_cases (h.menu id) with ⟨ht, hu⟩ | ⟨m, n, ht, hu, hmn⟩
  · rw [ht, hu]
  · rw [ht, hu, Option.any_some, Option.any_some, hmn.parent hid]

/-- A link to a menu that is not excepted can be made in both trees or in none. -/
theorem isLinkable_eq (h : Resembles except t u) (hc : ¬ except l.child) :
    t.isLinkable l = u.isLinkable l := by
  simp only [isLinkable, h.root, h.parent_isNone_eq hc]

/-- Trees resemble each other with the same link set in both. -/
theorem setLink (h : Resembles except t u) (hne : l.child ≠ l.parent) :
    Resembles except (t.setLink l) (u.setLink l) where
  root := h.root
  length := by simp [h.length]
  menu id := by
    rw [get?_setLink hne, get?_setLink hne]
    split
    · exact rel_map (fun _ _ hm => hm.withLink) (h.menu id)
    · split
      · exact rel_map (fun _ _ hm => hm.withParent) (h.menu id)
      · exact h.menu id

/-- A link to a menu that does not count may be set in one of the trees only. -/
theorem setLink_left (h : Resembles except t u) (hne : l.child ≠ l.parent)
    (hc : except l.child) : Resembles except (t.setLink l) u where
  root := h.root
  length := by simp [h.length]
  menu id := by
    rw [get?_setLink hne, ← Option.map_id' (x := u.get? id)]
    split
    · exact rel_map (fun _ _ hm => hm.withLink_left hc) (h.menu id)
    · split
      · next hid => exact rel_map (fun _ _ hm => hm.withParent_left (hid ▸ hc)) (h.menu id)
      · rw [Option.map_id']
        exact h.menu id

/-- A link that is asked for in one tree only makes no difference if it leads to an excepted
menu or cannot be made. -/
theorem addLink_left (h : Resembles except t u) (hl : t.isLinkable l = true → except l.child) :
    Resembles except (t.addLink l) u := by
  unfold MenuTree.addLink
  split
  · next hlink => exact h.setLink_left (isLinkable_iff.1 hlink).1 (hl hlink)
  · exact h

/-- Whatever link is asked for in both trees, they stay alike. -/
theorem addLink (h : Resembles except t u) (l : Link) :
    Resembles except (t.addLink l) (u.addLink l) := by
  by_cases hc : except l.child
  · exact ((h.addLink_left fun _ => hc).symm.addLink_left fun _ => hc).symm
  · unfold MenuTree.addLink
    rw [h.isLinkable_eq hc]
    split
    · next hlink => exact h.setLink (isLinkable_iff.1 hlink).1
    · exact h

/-- Trees resemble each other after the same links, for each is made in both or in neither. -/
theorem foldl_addLink (h : Resembles except t u) (ls : List Link) :
    Resembles except (ls.foldl MenuTree.addLink t) (ls.foldl MenuTree.addLink u) := by
  induction ls generalizing t u with
  | nil => exact h
  | cons l ls ih => exact ih (h.addLink l)

/-- Links that are asked for in one tree only make no difference if each that can be made
leads to an excepted menu. -/
theorem foldl_addLink_left (h : Resembles except t u) {ls : List Link}
    (hls : ∀ earlier l later, ls = earlier ++ l :: later →
      (earlier.foldl MenuTree.addLink t).isLinkable l = true → except l.child) :
    Resembles except (ls.foldl MenuTree.addLink t) u := by
  induction ls generalizing t with
  | nil => exact h
  | cons l ls ih =>
    refine ih (h.addLink_left (hls [] l ls rfl)) fun earlier k later heq hlink => ?_
    exact hls (l :: earlier) k later (by rw [heq, List.cons_append]) hlink

/-! ## What is below the root -/

/-- A menu that is below the root in both trees is the same in both, if none of the excepted
menus is below the root. -/
theorem get?_eq (h : Resembles except t u) (ht : ∀ c, except c → ¬ t.Below t.root c)
    (hu : ∀ c, except c → ¬ u.Below u.root c) {id : MenuId} (hid : t.Below t.root id)
    (hid' : u.Below u.root id) : t.get? id = u.get? id := by
  rcases rel_cases (h.menu id) with ⟨hm, hn⟩ | ⟨m, n, hm, hn, hmn⟩
  · rw [hm, hn]
  · have hleft c (hc : c ∈ m.children) : ¬ except c := fun he =>
      ht c he (hid.tail (isChild_of_get? hm hc))
    have hright c (hc : c ∈ n.children) : ¬ except c := fun he =>
      hu c he (hid'.tail (isChild_of_get? hn hc))
    have heq : m = n :=
      Menu.eq_of_orphaned_eq (hmn.rest hleft hright) (hmn.parent fun he => ht id he hid)
    rw [hm, hn, heq]

/-- Where no menu that does not count lies below the root, the same menus do in both trees. -/
theorem below_of_below (h : Resembles except t u) (ht : ∀ c, except c → ¬ t.Below t.root c)
    (hu : ∀ c, except c → ¬ u.Below u.root c) {id : MenuId} (hid : t.Below t.root id) :
    u.Below u.root id := by
  induction hid with
  | refl => exact h.root ▸ .refl
  | tail hp hc ih =>
    refine ih.tail ?_
    rwa [IsChild, children, ← h.get?_eq ht hu hp ih]

/-- What is below the root is the same in both trees, if none of the excepted menus is below
it in either. -/
theorem restrict_preorder_eq (h : Resembles except t u) (hforest : t.Forest) (hforest' : u.Forest)
    (ht : ∀ c, except c → ¬ t.Below t.root c) (hu : ∀ c, except c → ¬ u.Below u.root c) :
    t.restrict t.preorder = u.restrict u.preorder := by
  refine eq_of_get?_eq h.root (by simp [h.length]) fun id => ?_
  have hmem : id ∈ t.preorder ↔ id ∈ u.preorder := by
    rw [hforest.mem_preorder_iff, hforest'.mem_preorder_iff]
    exact ⟨h.below_of_below ht hu, h.symm.below_of_below hu ht⟩
  rw [get?_restrict, get?_restrict]
  by_cases hid : id ∈ t.preorder
  · rw [if_pos hid, if_pos (hmem.1 hid)]
    exact h.get?_eq ht hu (hforest.mem_preorder_iff.1 hid)
      (hforest'.mem_preorder_iff.1 (hmem.1 hid))
  · rw [if_neg hid, if_neg (mt hmem.2 hid)]

end Resembles

end MenuTree

end StructEdit
