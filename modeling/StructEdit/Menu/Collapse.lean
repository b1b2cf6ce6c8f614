import StructEdit.Menu.Tree

/-!
# StructEdit.Menu.Collapse

Leaving out menus that offer no choice. A menu whose only option is a link takes
over the options of the menu it links to, and that menu is dropped; this is done
until no such menu is left. Main statement: `absorb?_absorbAll`, a menu that was
worked on offers a choice.
-/

namespace StructEdit

namespace MenuTree

/-- The tree in which a menu with a link for its only option has taken over what
the menu behind the link offers; nothing if the menu is not of this kind. -/
def absorb? (t : MenuTree) (id : MenuId) : Option MenuTree :=
  match t.get? id with
  | none => none
  | some m =>
    match m.options, m.children with
    | [_], [c] =>
      (t.get? c).map fun child =>
        (((t.erase c).updateAll child.children fun g => { g with parent := some id }).update id
          fun m =>
            { m with
              options := child.clearFocus.options
              children := child.children
              openedLink := none })
    | _, _ => none

theorem size_lt_of_absorb? {t u : MenuTree} {id : MenuId} (h : t.absorb? id = some u) :
    u.size < t.size := by
  unfold absorb? at h
  split at h
  · simp at h
  · split at h
    · obtain ⟨child, hc, rfl⟩ := Option.map_eq_some_iff.1 h
      rw [size_update, size_updateAll]
      exact size_erase_lt hc
    · simp at h

theorem root_of_absorb? {t u : MenuTree} {id : MenuId} (h : t.absorb? id = some u) :
    u.root = t.root := by
  unfold absorb? at h
  split at h
  · simp at h
  · split at h
    · obtain ⟨child, _, rfl⟩ := Option.map_eq_some_iff.1 h
      rfl
    · simp at h

/-- The tree in which a menu has taken over menus as long as its only option is a
link. -/
def absorbAll (t : MenuTree) (id : MenuId) : MenuTree :=
  match _h : t.absorb? id with
  | none => t
  | some u => absorbAll u id
termination_by t.size
decreasing_by exact size_lt_of_absorb? _h

/-- What a menu has taken over leaves it nothing more to take over. -/
theorem absorb?_absorbAll (t : MenuTree) (id : MenuId) : (t.absorbAll id).absorb? id = none := by
  fun_induction absorbAll t id with
  | case1 t h => exact h
  | case2 t u h ih => exact ih

@[simp]
theorem root_absorbAll (t : MenuTree) (id : MenuId) : (t.absorbAll id).root = t.root := by
  fun_induction absorbAll t id with
  | case1 t h => rfl
  | case2 t u h ih => rw [ih, root_of_absorb? h]

/-- The tree without menus whose only option is a link. The menus are worked on
from the root downward; one that was taken over on the way is gone by then. -/
def collapse (t : MenuTree) : MenuTree := t.preorder.foldl absorbAll t

@[simp]
theorem root_collapse (t : MenuTree) : t.collapse.root = t.root := by
  unfold collapse
  generalize t.preorder = ids
  induction ids generalizing t with
  | nil => rfl
  | cons id ids ih => rw [List.foldl_cons, ih, root_absorbAll]

end MenuTree

end StructEdit
