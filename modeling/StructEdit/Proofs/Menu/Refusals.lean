import Mathlib.Algebra.Order.BigOperators.Group.List
import StructEdit.Proofs.Menu.Listing
import StructEdit.Proofs.Menu.Navigable

/-!
# StructEdit.Proofs.Menu.Refusals

Options that name a category and are no link to it. No link is made to the root, and no
second one to any other menu, so such an option stays a leaf to which nothing is bound.
Main statements: `leaf_of_build?`, what the leaves of a tree that is built are, and
`refused_of_build?`, a category is named by a leaf only if it is named more often than
links to it can be made.
-/

namespace StructEdit

namespace MenuTree

/-! ## Links that are refused -/

section Linking

variable {t : MenuTree}

/-- A child is one that the menu had, or was linked to it from an option of another menu. -/
theorem isChild_foldl_addLink {ls : List Link} {p c : MenuId}
    (h : (ls.foldl addLink t).IsChild p c) :
    t.IsChild p c ∨ ∃ l ∈ ls, l.parent = p ∧ l.child = c ∧ c ≠ p := by
  induction ls generalizing t with
  | nil => exact .inl h
  | cons l ls ih =>
    rcases ih h with hchild | ⟨k, hk, hlink⟩
    · unfold addLink at hchild
      split at hchild
      · next hl =>
        have hne := (isLinkable_iff.1 hl).1
        rcases isChild_setLink hne hchild with hchild | ⟨rfl, rfl⟩
        · exact .inl hchild
        · exact .inr ⟨l, List.mem_cons_self, rfl, rfl, hne⟩
      · exact .inl hchild
    · exact .inr ⟨k, List.mem_cons_of_mem l hk, hlink⟩

/-- An option that is no link after all was not made one. -/
theorem not_isMade_of_leaf {earlier later : List Link} {l : Link} {o : MenuOption}
    (ho : ((earlier ++ l :: later).foldl addLink t).option? l.parent l.index = some o)
    (hleaf : o.child? = none) : ¬ t.IsMade earlier l := by
  intro hmade
  rw [← isLinkable_foldl_addLink] at hmade
  rw [List.foldl_append, List.foldl_cons, addLink, if_pos hmade] at ho
  have hset := option?_setLink (t := earlier.foldl addLink t) (isLinkable_iff.1 hmade).1
    l.parent l.index
  rw [if_pos ⟨rfl, rfl⟩] at hset
  -- the link is there then, and a later one can only put another link in its place
  rcases exists_target_of_foldl_addLink later l.parent l.index with heq | ⟨c, heq⟩
  · rw [heq, hset] at ho
    obtain ⟨_, _, rfl⟩ := Option.map_eq_some_iff.1 ho
    contradiction
  · rw [heq] at ho
    obtain ⟨_, _, rfl⟩ := Option.map_eq_some_iff.1 ho
    contradiction

end Linking

/-! ## Names that are asked for twice -/

section Entries

variable {entries : Entries} {actions : String → Option Selection}

/-- There are no more links that lead to a menu than options that name it. -/
theorem countP_wantedLinks_le {name : String} {c : MenuId} (hc : keyId? entries name = some c) :
    (wantedLinks entries actions).countP (·.child == c) ≤ (entries.flatMap (·.2)).count name := by
  rw [wantedLinks, List.countP_flatMap, List.count_flatMap]
  refine List.sum_le_sum fun e _ => ?_
  simp only [Function.comp_apply]
  cases keyId? entries e.1 with
  | none => simp
  | some p =>
    have hcount : e.2.count name = e.2.zipIdx.countP fun o => o.1 == name := by
      rw [List.count, ← Function.comp_def (· == name) Prod.fst, ← List.countP_map,
        List.zipIdx_map_fst]
    rw [hcount, List.countP_filterMap]
    refine List.countP_mono_left fun o _ hlink => beq_iff_eq.2 ?_
    split at hlink
    · contradiction
    · cases hd : keyId? entries o.1 with
      | none => simp [hd] at hlink
      | some d =>
        obtain rfl : d = c := by simpa [hd] using hlink
        exact keyId?_injective hd hc

/-- Where every entry has options, each key has a menu. -/
theorem exists_keyId?_of_mem (hne : ∀ e ∈ entries, e.2 ≠ []) {name : String}
    (h : name ∈ entries.map (·.1)) : ∃ id, keyId? entries name = some id := by
  obtain ⟨e, he, rfl⟩ := List.mem_map.1 h
  exact exists_keyId? he (hne e he)

/-! ## The leaves of a tree that is built -/

variable {rootKey : String} {docs : String → Option String} {anchor : Anchor} {t : MenuTree}
  {id : MenuId} {m : Menu} {o : MenuOption} {selection : Selection}

/-- A leaf of a tree that is built is an option of an entry, with what is bound to it. -/
theorem leaf_of_build? (h : build? entries rootKey actions docs anchor = some t)
    (hm : t.get? id = some m) (ho : o ∈ m.options) (htarget : o.target = .select selection) :
    selection = (actions o.text).getD .noop ∧ ∃ e ∈ entries, o.text ∈ e.2 := by
  obtain ⟨root, _, _, hget⟩ := option?_of_build? h
  obtain ⟨i, hi⟩ := List.mem_iff_getElem?.1 ho
  rw [← option?_of_get? (hget id m hm)] at hi
  rcases exists_target_of_foldl_addLink (t := unlinked entries actions docs anchor root)
    (wantedLinks entries actions) id i with heq | ⟨c, heq⟩
  · rw [linked, heq, option?_unlinked] at hi
    obtain ⟨e, he, ho⟩ := Option.bind_eq_some_iff.1 hi
    obtain ⟨text, htext, rfl⟩ := Option.map_eq_some_iff.1 ho
    rw [Target.select.injEq] at htarget
    have hmem := (mem_menuEntries (List.mem_of_getElem? he)).1
    exact ⟨htarget.symm, e, hmem, List.mem_of_getElem? htext⟩
  · rw [linked, heq] at hi
    obtain ⟨_, _, rfl⟩ := Option.map_eq_some_iff.1 hi
    contradiction

/-- A menu below the root is asked for by an option of another menu. -/
theorem exists_wantedLink (h : build? entries rootKey actions docs anchor = some t)
    (hm : t.get? id = some m) (hne : id ≠ t.root) :
    ∃ l ∈ wantedLinks entries actions, l.child = id ∧ l.parent ≠ id := by
  have hrooted := rooted_of_build? h
  obtain ⟨root, _, rfl⟩ := build?_eq_some_iff.1 h
  obtain ⟨p, hp⟩ := hrooted.exists_parent hm hne
  have hchild := (isChild_restrict_iff.1 ((hrooted.isChild_iff_parent hm).2 hp)).2
  rcases isChild_foldl_addLink hchild with hplain | ⟨l, hl, rfl, rfl, hother⟩
  · simp [IsChild, children_unlinked] at hplain
  · exact ⟨l, hl, rfl, hother.symm⟩

/-- A link that is not made leads to its own menu or to the root, or one that is asked for
before it leads to the same menu. -/
theorem exists_of_not_isMade {root : MenuId} {earlier : List Link} {l : Link} {name : String}
    (hc : keyId? entries name = some l.child)
    (h : ¬ (unlinked entries actions docs anchor root).IsMade earlier l) :
    l.child = l.parent ∨ l.child = root ∨ ∃ k ∈ earlier, k.child = l.child := by
  by_contra hcon
  push Not at hcon
  obtain ⟨hself, hroot, hfirst⟩ := hcon
  obtain ⟨e, he, _⟩ := keyId?_eq_some_iff.1 hc
  refine h ⟨hself, hroot, ⟨_, by rw [get?_unlinked, he]; rfl, rfl⟩, fun k hk heq => ?_⟩
  exact absurd heq (hfirst k hk)

/-- How many links to the menu of a name can be made: none to the root, and one to any
other menu. -/
def linksTo (rootKey name : String) : Nat := if name = rootKey then 0 else 1

/-- The name of a category to which nothing is bound is a leaf only if it is named more
often than links to it can be made. -/
theorem refused_of_build? (h : build? entries rootKey actions docs anchor = some t)
    (hm : t.get? id = some m) (ho : o ∈ m.options) (htarget : o.target = .select selection)
    (hfree : actions o.text = none) {c : MenuId} (hc : keyId? entries o.text = some c) :
    linksTo rootKey o.text < (entries.flatMap (·.2)).count o.text := by
  obtain ⟨root, hroot, htroot, hget⟩ := option?_of_build? h
  obtain ⟨i, hi⟩ := List.mem_iff_getElem?.1 ho
  rw [← option?_of_get? (hget id m hm)] at hi
  obtain ⟨e, text, he, htext, rfl, _⟩ := option?_linked_eq_some hi
  have hmem := (mem_menuEntries (List.mem_of_getElem? he)).1
  unfold linksTo
  split
  · exact List.count_pos_iff.2 (List.mem_flatMap.2 ⟨e, hmem, List.mem_of_getElem? htext⟩)
  next hne =>
  let l : Link := ⟨id, i, c⟩
  have hwanted : l ∈ wantedLinks entries actions := mem_wantedLinks_iff.2
    ⟨e, hmem, keyId?_eq_some_iff.2 ⟨e, he, rfl⟩, o.text, htext, hfree, hc⟩
  obtain ⟨earlier, later, hsplit⟩ := List.append_of_mem hwanted
  have hnot : ¬ (unlinked entries actions docs anchor root).IsMade earlier l := by
    rw [linked, hsplit] at hi
    exact not_isMade_of_leaf hi (by simp [MenuOption.child?, htarget])
  have hcroot : c ≠ root := fun heq => hne (keyId?_injective (heq ▸ hc) hroot)
  -- the menu is below the root, so if this link to it is not made, another one is asked for
  have hother : ∃ k ∈ earlier ++ later, k.child = c := by
    rcases exists_of_not_isMade hc hnot with hself | hr | ⟨k, hk, hkc⟩
    · obtain rfl : c = id := hself
      obtain ⟨k, hk, hkc, hkp⟩ := exists_wantedLink h hm (htroot ▸ hcroot)
      rw [hsplit, List.mem_append, List.mem_cons] at hk
      refine ⟨k, ?_, hkc⟩
      rcases hk with hk | rfl | hk
      · exact List.mem_append_left _ hk
      · contradiction
      · exact List.mem_append_right _ hk
    · exact absurd hr hcroot
    · exact ⟨k, List.mem_append_left _ hk, hkc⟩
  obtain ⟨k, hk, hkc⟩ := hother
  have hpos : 0 < (earlier ++ later).countP (·.child == c) :=
    List.countP_pos_iff.2 ⟨k, hk, by simp [hkc]⟩
  have hle : (wantedLinks entries actions).countP (fun l => l.child == c) ≤
      (entries.flatMap (·.2)).count o.text := countP_wantedLinks_le hc
  rw [hsplit, List.countP_append, List.countP_cons_of_pos (by simp [l])] at hle
  rw [List.countP_append] at hpos
  omega

end Entries

end MenuTree

end StructEdit
