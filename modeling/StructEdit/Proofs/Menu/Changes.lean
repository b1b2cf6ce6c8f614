import StructEdit.Proofs.Menu.Building
import StructEdit.Proofs.Menu.Collapsing

/-!
# StructEdit.Proofs.Menu.Changes

The changes that are made to a tree of menus after it is built, as values, so that
sequences of them can be spoken about. Main statement: `isTree_runAll_of_build?`,
what is built out of entries without repeated keys is a tree and stays one.
-/

namespace StructEdit

/-- The menu with just the options of some indexes highlighted. -/
def Menu.refocus (m : Menu) (highlighted : Nat → Bool) : Menu :=
  { m with options := m.options.mapIdx fun i o => { o with focused := highlighted i } }

@[simp]
theorem Menu.bare_refocus (m : Menu) (highlighted : Nat → Bool) :
    (m.refocus highlighted).bare = m.bare := by
  refine Menu.bare_eq_of_options (List.ext_getElem? fun i => ?_) rfl rfl rfl
  cases h : m.options[i]? <;> simp [refocus, h, MenuOption.unfocused]

namespace MenuTree

/-- A change to a tree of menus. -/
inductive Change where
  | collapse
  | openMenu (id : MenuId)
  | closeMenu (id : MenuId)
  | closeChildren (id : MenuId)
  /-- Highlights just the given options of a menu. -/
  | refocus (id : MenuId) (highlighted : Nat → Bool)
  /-- Remembers a link as the one that was followed last. -/
  | remember (id : MenuId) (link : Option Nat)

namespace Change

/-- Makes a change. -/
def run (c : Change) (t : MenuTree) : MenuTree :=
  match c with
  | collapse => t.collapse
  | openMenu id => t.openMenu id
  | closeMenu id => t.closeMenu id
  | closeChildren id => t.closeChildren id
  | refocus id highlighted => t.update id fun m => m.refocus highlighted
  | remember id link => t.update id fun m => { m with openedLink := link }

/-- Makes changes one after the other. -/
def runAll (cs : List Change) (t : MenuTree) : MenuTree := cs.foldl (fun t c => c.run t) t

/-- Every change but the collapse keeps the bare tree. -/
theorem bare_run {c : Change} (hc : c ≠ collapse) (t : MenuTree) : (c.run t).bare = t.bare := by
  cases c with
  | collapse => contradiction
  | openMenu id => exact bare_openMenu t id
  | closeMenu id => exact bare_closeMenu t id
  | closeChildren id => exact bare_closeChildren t id
  | refocus id highlighted => exact bare_update t id fun m => m.bare_refocus highlighted
  | remember id link => exact bare_update t id fun m => m.bare_openedLink link

theorem wellFormed_run (c : Change) {t : MenuTree} (h : t.WellFormed) : (c.run t).WellFormed := by
  by_cases hc : c = collapse
  · subst hc
    exact h.collapse
  · exact h.of_bare_eq (bare_run hc t)

theorem wellFormed_runAll (cs : List Change) {t : MenuTree} (h : t.WellFormed) :
    (runAll cs t).WellFormed := by
  unfold runAll
  induction cs generalizing t with
  | nil => exact h
  | cons c cs ih => exact ih (wellFormed_run c h)

/-- What is built out of entries without repeated keys is a tree, and stays one
whatever changes are made to it. -/
theorem isTree_runAll_of_build? {entries : List (String × List String)} {rootKey : String}
    {actions : String → Option Selection} {docs : String → Option String} {anchor : Anchor}
    {t : MenuTree} (hk : (entries.map (·.1)).Nodup)
    (h : build? entries rootKey actions docs anchor = some t) (cs : List Change) :
    (runAll cs t).IsTree :=
  (wellFormed_runAll cs (wellFormed_of_build? hk h)).isTree

/-- Categories that name each other, themselves and the root make a tree as well. -/
theorem isTree_runAll_of_cyclic :
    let entries := [("Top", ["Loops", "if", "Loops"]), ("Loops", ["Top", "Loops", "Blocks"]),
      ("Blocks", ["Loops", "for"]), ("Apart", ["Blocks"])]
    (entries.map (·.1)).Nodup ∧
      ∃ t, build? entries "Top" (fun _ => none) (fun _ => none) ⟨0, 0⟩ = some t ∧
        (runAll [openMenu 0, refocus 0 (· == 1), collapse, closeMenu 0] t).IsTree := by
  intro entries
  have hk : (entries.map (·.1)).Nodup := by decide
  obtain ⟨t, ht⟩ := Option.isSome_iff_exists.1 (show
    (build? entries "Top" (fun _ => none) (fun _ => none) ⟨0, 0⟩).isSome = true by decide)
  exact ⟨hk, t, ht, isTree_runAll_of_build? hk ht _⟩

end Change

end MenuTree

end StructEdit
