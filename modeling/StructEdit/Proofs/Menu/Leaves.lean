import StructEdit.Proofs.Menu.Building
import StructEdit.Proofs.Menu.Collapsing

/-!
# StructEdit.Proofs.Menu.Leaves

What a tree of menus has to offer: the leaves that are come upon when every link is
replaced by the options of the menu that it leads to. Main statements:
`WellFormed.exists_offers`, a well-formed tree offers something definite, and
`offers_collapse_of_build?`, the collapse leaves out menus but nothing that is on
offer.
-/

namespace StructEdit

/-- An option that is no link, whether it is highlighted or not. -/
structure Leaf where
  text : String
  doc : Option String
  selection : Selection
deriving DecidableEq

namespace MenuTree

variable {t u : MenuTree}

/-! ## Replacing links by what they lead to -/

/-- The leaves that options yield in a tree, from the first to the last: a link
yields what the options of its menu yield. There are none when following the links
does not end. -/
inductive Yields (t : MenuTree) : List MenuOption → List Leaf → Prop where
  | nil : Yields t [] []
  | leaf {o os selection ls} (target : o.target = .select selection) (rest : Yields t os ls) :
      Yields t (o :: os) (⟨o.text, o.doc, selection⟩ :: ls)
  | link {o os c m ks ls} (target : o.target = .link c) (menu : t.get? c = some m)
      (below : Yields t m.options ks) (rest : Yields t os ls) : Yields t (o :: os) (ks ++ ls)

/-- The leaves that the options of the root yield. -/
def Offers (t : MenuTree) (ls : List Leaf) : Prop :=
  ∃ m, t.get? t.root = some m ∧ t.Yields m.options ls

namespace Yields

theorem unique {os : List MenuOption} {ks ls : List Leaf} (hk : t.Yields os ks)
    (hl : t.Yields os ls) : ks = ls := by
  induction hk generalizing ls with
  | nil => cases hl; rfl
  | leaf target _ ih =>
    cases hl with
    | leaf target' hl =>
      rw [target, Target.select.injEq] at target'
      rw [ih hl, target']
    | link target' => rw [target] at target'; contradiction
  | link target menu _ _ ihbelow ih =>
    cases hl with
    | leaf target' => rw [target] at target'; contradiction
    | link target' menu' hbelow hl =>
      rw [target, Target.link.injEq] at target'
      subst target'
      rw [menu, Option.some.injEq] at menu'
      subst menu'
      rw [ihbelow hbelow, ih hl]

theorem append {os ps : List MenuOption} {ks ls : List Leaf} (hk : t.Yields os ks)
    (hl : t.Yields ps ls) : t.Yields (os ++ ps) (ks ++ ls) := by
  induction hk with
  | nil => exact hl
  | leaf target _ ih => exact .leaf target ih
  | link target menu below _ _ ih =>
    rw [List.cons_append, List.append_assoc]
    exact .link target menu below ih

/-- What options yield is not changed by highlighting, neither of them nor in the
tree. -/
theorem of_unfocused (hu : ∀ id m, t.get? id = some m →
      ∃ k, u.get? id = some k ∧ k.options.map (·.unfocused) = m.options.map (·.unfocused))
    {os ps : List MenuOption} {ls : List Leaf} (h : t.Yields os ls)
    (hps : ps.map (·.unfocused) = os.map (·.unfocused)) : u.Yields ps ls := by
  induction h generalizing ps with
  | nil =>
    rw [List.map_nil, List.map_eq_nil_iff] at hps
    exact hps ▸ .nil
  | @leaf o os selection ls target _ ih =>
    obtain ⟨p, ps, rfl, hp, hps⟩ := List.map_eq_cons_iff.1 hps
    simp only [MenuOption.unfocused, MenuOption.mk.injEq, and_true] at hp
    rw [← hp.1, ← hp.2.1]
    exact .leaf (hp.2.2.trans target) (ih hps)
  | @link o os c m ks ls target menu _ _ ihbelow ih =>
    obtain ⟨p, ps, rfl, hp, hps⟩ := List.map_eq_cons_iff.1 hps
    simp only [MenuOption.unfocused, MenuOption.mk.injEq, and_true] at hp
    obtain ⟨k, hk, hopts⟩ := hu c m menu
    exact .link (hp.2.2.trans target) hk (ihbelow hopts) (ih hps)

/-- Options yield the same, highlighted or not. -/
theorem unfocused {os : List MenuOption} {ls : List Leaf} (h : t.Yields os ls) :
    t.Yields (os.map (·.unfocused)) ls :=
  h.of_unfocused (fun _ m hm => ⟨m, hm, rfl⟩) (by simp [Function.comp_def])

end Yields

/-- Trees that differ in open and highlighted menus offer the same. -/
theorem Offers.of_bare_eq {ls : List Leaf} (h : t.Offers ls) (hb : u.bare = t.bare) :
    u.Offers ls := by
  have hu : ∀ id m, t.get? id = some m →
      ∃ k, u.get? id = some k ∧ k.options.map (·.unfocused) = m.options.map (·.unfocused) := by
    intro id m hm
    have hbare : u.bare.get? id = some m.bare := by rw [hb, get?_bare, hm, Option.map_some]
    rw [get?_bare] at hbare
    obtain ⟨k, hk, hkm⟩ := Option.map_eq_some_iff.1 hbare
    exact ⟨k, hk, congrArg Menu.options hkm⟩
  obtain ⟨m, hm, hy⟩ := h
  obtain ⟨k, hk, ho⟩ := hu t.root m hm
  have hroot : u.root = t.root := by rw [← root_bare u, hb, root_bare]
  exact ⟨k, hroot ▸ hk, hy.of_unfocused hu ho⟩

theorem WellFormed.isChild_of_link (h : t.WellFormed) {id c : MenuId} {m : Menu}
    (hm : t.get? id = some m) {o : MenuOption} (ho : o ∈ m.options) (hc : o.child? = some c) :
    t.IsChild id c := by
  refine isChild_of_get? hm ?_
  rw [h.children_eq id m hm]
  exact List.mem_filterMap.2 ⟨o, ho, hc⟩

theorem WellFormed.exists_menu_of_link (h : t.WellFormed) {id c : MenuId} {m : Menu}
    (hm : t.get? id = some m) {o : MenuOption} (ho : o ∈ m.options) (hc : o.child? = some c) :
    ∃ n, t.get? c = some n := by
  obtain ⟨n, hn, _⟩ := h.parent_of_child (h.isChild_of_link hm ho hc)
  exact ⟨n, hn⟩

/-- The options of a menu in a well-formed tree yield something: its links lead
further down only. -/
theorem WellFormed.exists_yields (h : t.WellFormed) {id : MenuId} {m : Menu}
    (hm : t.get? id = some m) : ∃ ls, t.Yields m.options ls := by
  have hid := h.below_root id m hm
  induction hid using h.toForest.induction generalizing m with
  | menu id k hid hk ih =>
    rw [hm, Option.some.injEq] at hk
    subst hk
    have hlinks o (ho : o ∈ m.options) : ∀ c, o.child? = some c →
        ∃ n, t.get? c = some n ∧ ∃ ls, t.Yields n.options ls := by
      intro c hc
      have hchild := h.isChild_of_link hm ho hc
      obtain ⟨n, hn⟩ := h.exists_menu_of_link hm ho hc
      exact ⟨n, hn, ih c (by rwa [IsChild, children_of_get? hm] at hchild) (hid.tail hchild) hn⟩
    -- what a link leads to yields something by induction on the menus below; the options are left
    generalize m.options = os at hlinks
    induction os with
    | nil => exact ⟨[], .nil⟩
    | cons o os ihos =>
      rw [List.forall_mem_cons] at hlinks
      obtain ⟨ls, hls⟩ := ihos hlinks.2
      cases ho : o.target with
      | select selection => exact ⟨_, .leaf ho hls⟩
      | link c =>
        obtain ⟨n, hn, ks, hks⟩ := hlinks.1 c (MenuOption.child?_eq_some_iff.2 ho)
        exact ⟨_, .link ho hn hks hls⟩

theorem WellFormed.exists_offers (h : t.WellFormed) : ∃ ls, t.Offers ls := by
  obtain ⟨m, hm⟩ := h.root_live
  obtain ⟨ls, hls⟩ := h.exists_yields hm
  exact ⟨ls, m, hm, hls⟩

theorem Offers.unique {ks ls : List Leaf} (hk : t.Offers ks) (hl : t.Offers ls) : ks = ls := by
  obtain ⟨m, hm, hk⟩ := hk
  obtain ⟨n, hn, hl⟩ := hl
  rw [hm, Option.some.injEq] at hn
  subst hn
  exact hk.unique hl

/-! ## What is on offer after the collapse -/

/-- An option, or what takes its place when the menu `c` is taken over by the menu
that links to it. -/
def replaceLink (c : MenuId) (n : Menu) (o : MenuOption) : List MenuOption :=
  if o.child? = some c then n.clearFocus.options else [o]

theorem flatMap_replaceLink_of_ne {c : MenuId} {n : Menu} {os : List MenuOption}
    (h : ∀ o ∈ os, o.child? ≠ some c) : os.flatMap (replaceLink c n) = os := by
  calc os.flatMap (replaceLink c n) = os.flatMap fun o => [o] :=
        List.flatMap_congr fun o ho => if_neg (h o ho)
    _ = os := List.flatMap_singleton' os

namespace Absorbed

variable {id c : MenuId} {m n : Menu}

/-- Each menu that is left has its options, with the link to the menu that is gone
replaced. -/
theorem options_replaced (h : t.Absorbed id c m n u) (ht : t.WellFormed) {i : MenuId} {g : Menu}
    (hi : i ≠ c) (hg : t.get? i = some g) :
    ∃ k, u.get? i = some k ∧ k.options = g.options.flatMap (replaceLink c n) := by
  by_cases hid : i = id
  · subst hid
    rw [h.menu, Option.some.injEq] at hg
    subst hg
    obtain ⟨o, ho⟩ := h.options
    have hlink : o.child? = some c := by
      have := ht.children_eq i m h.menu
      rw [h.children, ho] at this
      cases hoc : o.child? <;> simp_all
    refine ⟨m.takeOver n, ?_, ?_⟩
    · rw [h.get?, if_neg hi, if_pos rfl]
    · simp [ho, replaceLink, hlink, Menu.takeOver]
  · have hno : ∀ o ∈ g.options, o.child? ≠ some c := fun o ho hoc =>
      hid (ht.parent_unique (ht.isChild_of_link hg ho hoc) h.isChild)
    rw [flatMap_replaceLink_of_ne hno, h.get?, if_neg hi, if_neg hid, hg]
    split
    · exact ⟨_, rfl, rfl⟩
    · exact ⟨g, rfl, rfl⟩

/-- Options yield what they did before a menu was taken over, once a link to that
menu is replaced by its options. -/
theorem yields (h : t.Absorbed id c m n u) (ht : t.WellFormed) {os : List MenuOption}
    {ls : List Leaf} (hy : t.Yields os ls) : u.Yields (os.flatMap (replaceLink c n)) ls := by
  induction hy with
  | nil => exact .nil
  | @leaf o os selection ls target _ ih =>
    have hne : o.child? ≠ some c := by simp [MenuOption.child?, target]
    rw [List.flatMap_cons, replaceLink, if_neg hne]
    exact .leaf target ih
  | @link o os i g ks ls target menu _ _ ihbelow ih =>
    rw [List.flatMap_cons, replaceLink]
    by_cases hi : i = c
    · subst hi
      rw [h.child, Option.some.injEq] at menu
      subst menu
      -- no option of the menu that is gone is a link to that menu itself
      have hno : ∀ o ∈ n.options, o.child? ≠ some i := fun p hp hpc =>
        ht.not_below_parent (ht.below_root i n h.child) (ht.isChild_of_link h.child hp hpc) .refl
      rw [flatMap_replaceLink_of_ne hno] at ihbelow
      rw [if_pos (MenuOption.child?_eq_some_iff.2 target)]
      exact ihbelow.unfocused.append ih
    · have hne : o.child? ≠ some c := by simpa [MenuOption.child?, target] using hi
      obtain ⟨k, hk, ho⟩ := h.options_replaced ht hi menu
      rw [if_neg hne]
      exact .link target hk (ho ▸ ihbelow) ih

/-- The options of a menu that is left yield what the options of the menu of its number did. -/
theorem exists_yields (h : t.Absorbed id c m n u) (ht : t.WellFormed) {i : MenuId} {g : Menu}
    (hg : u.get? i = some g) :
    ∃ k, t.get? i = some k ∧ ∀ ls, t.Yields k.options ls → u.Yields g.options ls := by
  obtain ⟨hi, hcases⟩ := h.exists_menu hg
  obtain ⟨k, hk⟩ : ∃ k, t.get? i = some k := by
    rcases hcases with ⟨rfl, _⟩ | ⟨_, k, hk, _⟩
    · exact ⟨m, h.menu⟩
    · exact ⟨k, hk⟩
  obtain ⟨g', hg', hoptions⟩ := h.options_replaced ht hi hk
  obtain rfl : g = g' := Option.some.inj (hg.symm.trans hg')
  exact ⟨k, hk, fun ls hy => hoptions ▸ h.yields ht hy⟩

end Absorbed

/-- The options of a menu that the collapse leaves yield what the options of the menu of its
number did. The induction follows the menus that are taken over, one at a time. -/
theorem WellFormed.exists_yields_collapse (h : t.WellFormed) {id : MenuId} {m : Menu}
    (hm : t.collapse.get? id = some m) :
    ∃ k, t.get? id = some k ∧ ∀ ls, t.Yields k.options ls → t.collapse.Yields m.options ls := by
  refine (h.toRooted.collapse_induction (motive := fun u => u.WellFormed ∧
    ∀ i g, u.get? i = some g → ∃ k, t.get? i = some k ∧
      ∀ ls, t.Yields k.options ls → u.Yields g.options ls) ?_
    ⟨h, fun i g hg => ⟨g, hg, fun _ hy => hy⟩⟩).2.2 id m hm
  rintro u v _ _ _ _ - ⟨hu, hkept⟩ ha
  refine ⟨ha.wellFormed hu, fun i g hg => ?_⟩
  obtain ⟨k, hk, hstep⟩ := ha.exists_yields hu hg
  obtain ⟨k₀, hk₀, hbefore⟩ := hkept i k hk
  exact ⟨k₀, hk₀, fun ls hy => hstep ls (hbefore ls hy)⟩

/-- The collapse of a well-formed tree offers what the tree offers. -/
theorem WellFormed.offers_collapse (h : t.WellFormed) {ls : List Leaf} (ho : t.Offers ls) :
    t.collapse.Offers ls := by
  obtain ⟨m, hm⟩ := h.collapse.root_live
  obtain ⟨k, hk, hyields⟩ := h.exists_yields_collapse hm
  obtain ⟨g, hg, hy⟩ := ho
  rw [root_collapse, hg, Option.some.injEq] at hk
  exact ⟨m, hm, hyields ls (hk ▸ hy)⟩

/-- Each option that the collapse leaves was an option before, of that menu or of another, with
the same target. -/
theorem Rooted.options_collapse (h : t.Rooted) {id : MenuId} {m : Menu}
    (hm : t.collapse.get? id = some m) : ∀ o ∈ m.options, ∃ i k, t.get? i = some k ∧
      ∃ p ∈ k.options, o.unfocused = p.unfocused := by
  have hbefore : t.Every fun m => ∀ o ∈ m.options, ∃ i k, t.get? i = some k ∧
      ∃ p ∈ k.options, o.unfocused = p.unfocused := fun i k hk o ho => ⟨i, k, hk, o, ho, rfl⟩
  refine h.every_collapse (fun _ _ hm => hm) (fun m n _ hn o ho => ?_) hbefore id m hm
  obtain ⟨o', ho', rfl⟩ := List.mem_map.1 ho
  exact hn o' ho'

/-- A menu of one tree is still the same in another one. Links in it may have been replaced by
the options that they led to. -/
structure Retains (t u : MenuTree) (k m : Menu) : Prop where
  anchor : m.anchor = k.anchor
  /-- Either menu yields these leaves and no others. -/
  leaves : ∃ leaves, ∀ ls, (t.Yields k.options ls ↔ ls = leaves) ∧
    (u.Yields m.options ls ↔ ls = leaves)
  /-- No option is new or leads to another menu than before. -/
  options : ∀ o ∈ m.options, ∃ i g, t.get? i = some g ∧ ∃ p ∈ g.options, o.unfocused = p.unfocused

theorem WellFormed.exists_retains_collapse (h : t.WellFormed) {id : MenuId} {m : Menu}
    (hm : t.collapse.get? id = some m) : ∃ k, t.get? id = some k ∧ t.Retains t.collapse k m := by
  obtain ⟨k, hk, hyields⟩ := h.exists_yields_collapse hm
  obtain ⟨k', hk', hanchor⟩ := h.anchor_collapse hm
  obtain rfl : k = k' := Option.some.inj (hk.symm.trans hk')
  obtain ⟨leaves, hy⟩ := h.exists_yields hk
  refine ⟨k, hk, hanchor, ⟨leaves, fun ls => ⟨⟨fun hl => hl.unique hy, ?_⟩, ⟨fun hl => ?_, ?_⟩⟩⟩,
    h.options_collapse hm⟩
  · exact fun heq => heq ▸ hy
  · exact hl.unique (hyields leaves hy)
  · exact fun heq => heq ▸ hyields leaves hy

/-- A tree that is built offers one sequence of leaves, and the same one after the
collapse; the root stays the root, and each menu that is left is the menu of its number: where
it was, with options from before that yield the leaves that it had. -/
theorem offers_collapse_of_build? {entries : List (String × List String)} {rootKey : String}
    {actions : String → Option Selection} {docs : String → Option String} {anchor : Anchor}
    (hk : (entries.map (·.1)).Nodup)
    (h : build? entries rootKey actions docs anchor = some t) :
    (∃ leaves, ∀ ls, (t.Offers ls ↔ ls = leaves) ∧ (t.collapse.Offers ls ↔ ls = leaves)) ∧
      t.collapse.root = t.root ∧
      ∀ id m, t.collapse.get? id = some m → ∃ k, t.get? id = some k ∧
        t.Retains t.collapse k m := by
  have hw := wellFormed_of_build? hk h
  obtain ⟨leaves, ho⟩ := hw.exists_offers
  refine ⟨⟨leaves, fun ls => ⟨?_, ?_⟩⟩, root_collapse t, fun id m => hw.exists_retains_collapse⟩
  · exact ⟨fun hl => hl.unique ho, fun heq => heq ▸ ho⟩
  · exact ⟨fun hl => hl.unique (hw.offers_collapse ho), fun heq => heq ▸ hw.offers_collapse ho⟩

/-- A category with one category in it is taken over by the menu above, and its leaves
stay between those beside it: the menu that it led to is gone, and the other one is still the
menu of its number. -/
theorem offers_collapse_of_nested :
    let entries := [("Top", ["if", "Operators", "print()"]), ("Operators", ["Boolean"]),
      ("Boolean", ["and", "or"])]
    (entries.map (·.1)).Nodup ∧
      ∃ t, build? entries "Top" (fun _ => none) (fun _ => none) ⟨0, 0⟩ = some t ∧
        t.collapse.root = t.root ∧ (∃ leaves, t.Offers leaves ∧ t.collapse.Offers leaves) ∧
        t.collapse.get? 2 = none ∧ ∃ k m, t.get? 1 = some k ∧ t.collapse.get? 1 = some m ∧
          t.Retains t.collapse k m := by
  intro entries
  have hk : (entries.map (·.1)).Nodup := by decide
  obtain ⟨t, ht, hgone, hleft⟩ : ∃ t,
      build? entries "Top" (fun _ => none) (fun _ => none) ⟨0, 0⟩ = some t ∧
        t.collapse.get? 2 = none ∧ (t.collapse.get? 1).isSome = true := by
    decide +kernel
  obtain ⟨⟨leaves, hleaves⟩, hroot, hkept⟩ := offers_collapse_of_build? hk ht
  obtain ⟨m, hm⟩ := Option.isSome_iff_exists.1 hleft
  obtain ⟨k, hk₁, hretains⟩ := hkept 1 m hm
  exact ⟨hk, t, ht, hroot, ⟨leaves, (hleaves leaves).1.2 rfl, (hleaves leaves).2.2 rfl⟩, hgone,
    k, m, hk₁, hm, hretains⟩

end MenuTree

end StructEdit
