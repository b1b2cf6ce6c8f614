import StructEdit.Menu

/-!
# StructEdit.Menu.Tree

Trees of menus. The menus stand in numbered slots, which keep their numbers when
menus are dropped. Every operation is told by what it leaves in each slot
(`get?_update`, `get?_updateAll`, `get?_erase`).
-/

namespace StructEdit

/-- Menus in numbered slots, and the number of the topmost one. A slot is empty
when its menu was dropped. -/
structure MenuTree where
  slots : List (Option Menu)
  root : MenuId
deriving DecidableEq

namespace MenuTree

/-- The menu of a number. -/
def get? (t : MenuTree) (id : MenuId) : Option Menu := t.slots[id]?.join

/-- The number of menus. -/
def size (t : MenuTree) : Nat := t.slots.countP Option.isSome

/-- Whether no menu is left. -/
def isEmpty (t : MenuTree) : Bool := t.size == 0

/-- The numbers of the menus below the given one, one step down. -/
def children (t : MenuTree) (id : MenuId) : List MenuId :=
  match t.get? id with
  | none => []
  | some m => m.children

/-- Whether the menu of a number is there and open. -/
def isOpen (t : MenuTree) (id : MenuId) : Bool := (t.get? id).any (·.isOpen)

/-! ## Changing menus -/

/-- The tree with one menu changed. -/
def update (t : MenuTree) (id : MenuId) (f : Menu → Menu) : MenuTree :=
  { t with slots := t.slots.modify id (Option.map f) }

/-- The tree with the menus of some numbers changed. -/
def updateAll (t : MenuTree) (ids : List MenuId) (f : Menu → Menu) : MenuTree :=
  { t with slots := t.slots.mapIdx fun id slot => if id ∈ ids then slot.map f else slot }

/-- The tree without one of its menus. -/
def erase (t : MenuTree) (id : MenuId) : MenuTree := { t with slots := t.slots.set id none }

/-- The tree with only the menus of some numbers. -/
def restrict (t : MenuTree) (ids : List MenuId) : MenuTree :=
  { t with slots := t.slots.mapIdx fun id slot => if id ∈ ids then slot else none }

@[simp]
theorem root_update (t : MenuTree) (id : MenuId) (f : Menu → Menu) :
    (t.update id f).root = t.root := rfl

@[simp]
theorem root_updateAll (t : MenuTree) (ids : List MenuId) (f : Menu → Menu) :
    (t.updateAll ids f).root = t.root := rfl

@[simp]
theorem root_erase (t : MenuTree) (id : MenuId) : (t.erase id).root = t.root := rfl

@[simp]
theorem root_restrict (t : MenuTree) (ids : List MenuId) : (t.restrict ids).root = t.root := rfl

theorem get?_update (t : MenuTree) (id i : MenuId) (f : Menu → Menu) :
    (t.update id f).get? i = if i = id then (t.get? i).map f else t.get? i := by
  by_cases h : i = id
  · subst h
    cases hs : t.slots[i]? <;> simp [get?, update, hs]
  · simp [get?, update, h, Ne.symm h]

theorem get?_updateAll (t : MenuTree) (ids : List MenuId) (i : MenuId) (f : Menu → Menu) :
    (t.updateAll ids f).get? i = if i ∈ ids then (t.get? i).map f else t.get? i := by
  by_cases h : i ∈ ids <;>
    cases hs : t.slots[i]? <;> simp [get?, updateAll, hs, h]

theorem get?_erase (t : MenuTree) (id i : MenuId) :
    (t.erase id).get? i = if i = id then none else t.get? i := by
  by_cases h : i = id
  · subst h
    by_cases hl : i < t.slots.length <;> simp [get?, erase, hl]
  · simp [get?, erase, h, Ne.symm h]

theorem get?_restrict (t : MenuTree) (ids : List MenuId) (i : MenuId) :
    (t.restrict ids).get? i = if i ∈ ids then t.get? i else none := by
  by_cases h : i ∈ ids <;>
    cases hs : t.slots[i]? <;> simp [get?, restrict, hs, h]

theorem size_update (t : MenuTree) (id : MenuId) (f : Menu → Menu) :
    (t.update id f).size = t.size := by
  simp only [size, update]
  generalize t.slots = slots
  induction slots generalizing id with
  | nil => simp
  | cons s ss ih => cases id <;> simp [List.countP_cons, ih]

theorem size_updateAll (t : MenuTree) (ids : List MenuId) (f : Menu → Menu) :
    (t.updateAll ids f).size = t.size := by
  simp only [size, updateAll]
  generalize t.slots = slots
  suffices h : ∀ (g : Nat → Option Menu → Option Menu), (∀ i s, (g i s).isSome = s.isSome) →
      (slots.mapIdx g).countP Option.isSome = slots.countP Option.isSome by
    apply h
    intro i s
    split <;> simp
  induction slots with
  | nil => simp
  | cons s ss ih =>
    intro g hg
    rw [List.mapIdx_cons, List.countP_cons, List.countP_cons, hg, ih _ fun i s => hg (i + 1) s]

theorem size_erase_lt {t : MenuTree} {i : MenuId} {m : Menu} (h : t.get? i = some m) :
    (t.erase i).size < t.size := by
  simp only [get?, size, erase] at h ⊢
  revert h
  generalize t.slots = slots
  induction slots generalizing i with
  | nil => simp
  | cons s ss ih =>
    cases i with
    | zero => intro h; simp_all
    | succ i =>
      intro h
      have := ih (i := i) (by simpa using h)
      simp only [List.set_cons_succ, List.countP_cons]
      omega

/-! ## Walking through the menus -/

/-- The numbers of the menus that are reached from one of them, itself first, by
going down as long as the menus satisfy `p`; each menu before those below it, and
those in the order of its children. The depth of the walk is bounded. -/
def reach (t : MenuTree) (p : Menu → Bool) : Nat → MenuId → List MenuId
  | 0, _ => []
  | depth + 1, id =>
    match t.get? id with
    | none => []
    | some m => if p m then id :: m.children.flatMap (reach t p depth) else []

/-- The numbers of the menus from the root downward, each before those below it.
No walk down a tree passes more menus than there are slots. -/
def preorder (t : MenuTree) : List MenuId := t.reach (fun _ => true) t.slots.length t.root

/-- The menus below a menu that are reached through open menus only. -/
def openBelow (t : MenuTree) (id : MenuId) : List MenuId :=
  (t.children id).flatMap (t.reach (·.isOpen) t.slots.length)

/-! ## Opening and closing -/

/-- Opens a menu. -/
def openMenu (t : MenuTree) (id : MenuId) : MenuTree := t.update id Menu.opened

/-- Closes the open menus below a menu. -/
def closeChildren (t : MenuTree) (id : MenuId) : MenuTree :=
  t.updateAll (t.openBelow id) Menu.closed

/-- Closes a menu and the open menus below it. -/
def closeMenu (t : MenuTree) (id : MenuId) : MenuTree :=
  t.updateAll (id :: t.openBelow id) Menu.closed

end MenuTree

end StructEdit
