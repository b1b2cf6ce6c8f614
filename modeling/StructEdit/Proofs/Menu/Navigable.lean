import StructEdit.Proofs.Menu.Building
import StructEdit.Proofs.Menu.Collapsing

/-!
# StructEdit.Proofs.Menu.Navigable

Trees that can be walked through by following links. Every menu has an option to
start from, and every link leads to a child of its menu; the converse, that every
child has a link, is not needed, and where keys are repeated it does not hold.
Main statements: `navigable_of_build?`, what is built can be walked through,
repeated keys or not, and `Navigable.collapse`.
-/

namespace StructEdit

/-! ## Links of a menu -/

namespace Menu

/-- Every link of the menu leads to one of its children. -/
def LinksToChildren (m : Menu) : Prop :=
  ∀ o ∈ m.options, ∀ c, o.child? = some c → c ∈ m.children

/-- Where links lead is told by the bare menu. -/
theorem linksToChildren_bare (m : Menu) : m.bare.LinksToChildren ↔ m.LinksToChildren := by
  simp [LinksToChildren]

/-- A menu that takes over another one has its links and its children. -/
theorem linksToChildren_takeOver (m : Menu) {n : Menu} (h : n.LinksToChildren) :
    (m.takeOver n).LinksToChildren := by
  simpa [LinksToChildren, takeOver, options_clearFocus] using h

/-- A link that is set leads to a child that is set with it. -/
theorem LinksToChildren.withLink {m : Menu} (h : m.LinksToChildren) (index : Nat) (c : MenuId) :
    (m.withLink index c).LinksToChildren := by
  intro o ho d hd
  rcases mem_options_withLink ho with ho | ⟨htarget, hc⟩
  · rw [children_withLink]
    split
    · exact List.mem_append_left _ (h o ho d hd)
    · exact h o ho d hd
  · rw [MenuOption.child?_eq_some_iff, htarget, Target.link.injEq] at hd
    exact hd ▸ hc

end Menu

namespace MenuTree

/-! ## Navigable trees -/

/-- A rooted tree in which every menu has options and every link leads to a child of
its menu. -/
structure Navigable (t : MenuTree) : Prop extends t.Rooted where
  options_ne_nil : t.Every (·.options ≠ [])
  links : t.Every Menu.LinksToChildren

namespace Navigable

variable {t u : MenuTree}

/-- Every link leads to a menu directly below. -/
theorem isChild (h : t.Navigable) {id c : MenuId} {m : Menu} {o : MenuOption} {i : Nat}
    (hm : t.get? id = some m) (ho : m.options[i]? = some o) (hc : o.child? = some c) :
    t.IsChild id c :=
  isChild_of_get? hm (h.links id m hm o (List.mem_of_getElem? ho) c hc)

/-- A tree that differs from a navigable one in open and highlighted menus is
navigable. -/
theorem of_bare_eq (h : t.Navigable) (hb : u.bare = t.bare) : u.Navigable where
  toRooted := h.toRooted.of_bare_eq hb
  options_ne_nil := h.options_ne_nil.of_bare_eq (fun m => by simp) hb
  links := h.links.of_bare_eq Menu.linksToChildren_bare hb

/-- A tree that can be steered through still can be after the collapse. -/
theorem collapse (h : t.Navigable) : t.collapse.Navigable where
  toRooted := h.toRooted.collapse
  options_ne_nil := h.every_collapse (fun _ _ ho => ho)
    (fun m n _ ho => by simpa [Menu.takeOver, Menu.options_clearFocus] using ho) h.options_ne_nil
  links := h.every_collapse (fun _ _ hl => hl) (fun m _ _ hl => m.linksToChildren_takeOver hl)
    h.links

/-- Going down by links comes to a leaf. -/
theorem exists_leaf (h : t.Navigable) :
    ∃ id m, t.get? id = some m ∧ ∃ o ∈ m.options, o.child? = none := by
  refine h.toForest.induction (motive := fun _ _ => ∃ id m, t.get? id = some m ∧
    ∃ o ∈ m.options, o.child? = none) (fun id m hid hm ih => ?_) .refl
  obtain ⟨o, ho⟩ := List.exists_mem_of_ne_nil _ (h.options_ne_nil id m hm)
  cases hc : o.child? with
  | none => exact ⟨id, m, hm, o, ho, hc⟩
  | some c =>
    have hmem : c ∈ m.children := h.links id m hm o ho c hc
    exact ih c hmem (hid.tail (isChild_of_get? hm hmem))

end Navigable

/-- Every tree that is built can be walked through, repeated keys or not. -/
theorem navigable_of_build? {entries : List (String × List String)} {rootKey : String}
    {actions : String → Option Selection} {docs : String → Option String} {anchor : Anchor}
    {t : MenuTree} (h : build? entries rootKey actions docs anchor = some t) : t.Navigable where
  toRooted := rooted_of_build? h
  options_ne_nil := options_ne_nil_of_build? h
  links := by
    refine every_of_build? (fun _ _ hl => hl) (fun _ i c hl => hl.withLink i c) ?_ h
    intro texts _ o ho c hc
    obtain ⟨text, _, rfl⟩ := List.mem_map.1 ho
    contradiction

end MenuTree

end StructEdit
