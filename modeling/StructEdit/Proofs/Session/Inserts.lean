import StructEdit.Config.Check
import StructEdit.Proofs.Menu.Available
import StructEdit.Proofs.Menu.Refusals
import StructEdit.Proofs.Session.Matches

/-!
# StructEdit.Proofs.Session.Inserts

The menu of everything that can be inserted. A leaf of it inserts the construct that it
shows, or it is dead: it names a category that is left, but a link to the category was
refused. Main statement: `Session.shown_leaves`.
-/

namespace StructEdit

/-! ## The leaves of menus that are built -/

/-- Each leaf of the menu has a property of its text and of what is bound to it. -/
def Menu.EachLeaf (P : String → Selection → Prop) (m : Menu) : Prop :=
  ∀ o ∈ m.options, ∀ selection, o.target = .select selection → P o.text selection

/-- The leaves of a menu are told by its bare form. -/
theorem Menu.eachLeaf_bare {P : String → Selection → Prop} (m : Menu) :
    m.bare.EachLeaf P ↔ m.EachLeaf P := by
  simp [EachLeaf, MenuOption.unfocused]

/-- A menu that takes over another one has the leaves of the other one. -/
theorem Menu.eachLeaf_takeOver {P : String → Selection → Prop} (m : Menu) {n : Menu}
    (h : n.EachLeaf P) : (m.takeOver n).EachLeaf P :=
  n.eachLeaf_bare.2 h

namespace MenuController

variable {c : MenuController} {entries : Entries} {rootKey : String}
  {actions : String → Option Selection} {anchor : Anchor} {t : MenuTree}

/-- A build answers whether there are menus. -/
theorem isSome_tree?_build : (c.build entries rootKey actions anchor).2.tree?.isSome =
    (c.build entries rootKey actions anchor).1 := by
  rw [build_fst, ← isSome_panel, panel_build, Option.isSome_map]

/-- Menus are built just when the root key has one. -/
theorem build_eq_true_iff : (c.build entries rootKey actions anchor).1 = true ↔
    ∃ id, MenuTree.keyId? entries rootKey = some id := by
  rw [build_fst]
  cases hb : MenuTree.build? entries rootKey actions c.config.docs.find? anchor with
  | none =>
    have hnone : MenuTree.keyId? entries rootKey = none := Option.map_eq_none_iff.1 hb
    simp [hnone]
  | some t =>
    obtain ⟨id, hid, _⟩ := MenuTree.build?_eq_some_iff.1 hb
    simp [hid]

/-- The menus that there are after a build come from the tree that was built. -/
theorem exists_of_tree?_build (h : (c.build entries rootKey actions anchor).2.tree? = some t) :
    ∃ u, MenuTree.build? entries rootKey actions c.config.docs.find? anchor = some u ∧
      t.bare = u.collapse.bare := by
  obtain ⟨p, hp, rfl⟩ := exists_panel_of_tree? h
  rw [panel_build] at hp
  obtain ⟨u, hu, rfl⟩ := Option.map_eq_some_iff.1 hp
  exact ⟨u, hu, MenuTree.bare_openMenu _ _⟩

/-- A tree that comes up can be steered through. -/
theorem navigable_of_tree?_build
    (h : (c.build entries rootKey actions anchor).2.tree? = some t) : t.Navigable := by
  obtain ⟨u, hu, hbare⟩ := exists_of_tree?_build h
  exact (MenuTree.navigable_of_build? hu).collapse.of_bare_eq hbare

/-- What holds of the leaves when a tree is built holds of them when it comes up, for the collapse
adds none. -/
theorem eachLeaf_of_tree?_build {P : String → Selection → Prop}
    (hP : ∀ u, MenuTree.build? entries rootKey actions c.config.docs.find? anchor = some u →
      u.Every (Menu.EachLeaf P))
    (h : (c.build entries rootKey actions anchor).2.tree? = some t) :
    t.Every (Menu.EachLeaf P) := by
  obtain ⟨u, hu, hbare⟩ := exists_of_tree?_build h
  have hcollapse : u.collapse.Every (Menu.EachLeaf P) :=
    (MenuTree.rooted_of_build? hu).every_collapse (fun _ _ hm => hm)
      (fun m _ _ hn => m.eachLeaf_takeOver hn) (hP u hu)
  exact hcollapse.of_bare_eq Menu.eachLeaf_bare hbare

end MenuController

/-! ## The categories that are left -/

/-- Every option that is left is suggested or names a category that is left. -/
theorem MenuConfig.named_available (config : MenuConfig) (suggestions : List String) :
    ∀ e ∈ config.available suggestions, ∀ o ∈ e.2,
      o ∈ suggestions ∨ o ∈ (config.available suggestions).map (·.1) := by
  refine Entries.named_prune fun e he o ho => ?_
  obtain ⟨d, _, rfl⟩ := List.mem_map.1 he
  have hkeep := (List.mem_filter.1 ho).2
  rw [Bool.or_eq_true, List.contains_iff_mem, List.contains_iff_mem] at hkeep
  rcases hkeep with hname | hsuggested
  · refine .inr ?_
    simpa [offered, entries, Function.comp_def] using hname
  · exact .inl hsuggested

namespace Session

variable {σ : Type}

/-- What can be inserted at the cursor. -/
def insertable (s : Session σ) : List Insertion :=
  (s.queries.insertions s.context).filter (·.isInsertable)

/-- The categories that are left when only what can be inserted is on offer. -/
def categoriesLeft (s : Session σ) : Entries :=
  s.menu.config.available (s.insertable.map (·.construct))

/-- What is bound to a leaf that shows a text: the request of the last record of that
construct, or nothing, where the text is no construct but a category that the categories
left name more often than links to it can be made. -/
inductive Bound (s : Session σ) (text : String) : Selection → Prop where
  | inserts {last : Insertion} (record : IsLastOf text s.insertable last) :
      s.Bound text (.insert last.request)
  | dead (construct : ∀ r ∈ s.insertable, r.construct ≠ text)
      (category : text ∈ s.categoriesLeft.map (·.1))
      (refused : MenuTree.linksTo s.menu.config.root text <
        (s.categoriesLeft.flatMap (·.2)).count text) :
      s.Bound text .noop

/-- No category that is left is empty. -/
theorem categoriesLeft_ne_nil (s : Session σ) : ∀ e ∈ s.categoriesLeft, e.2 ≠ [] :=
  fun _ he => Entries.options_ne_nil_of_mem_prune he

/-- No action is bound to a text that no record has for its construct. -/
theorem insertActions_eq_none_iff {records : List Insertion} {text : String} :
    insertActions records text = none ↔ ∀ r ∈ records, r.construct ≠ text := by
  simp [insertActions]

/-- The leaves of the tree that is built. -/
theorem bound_of_build? (s : Session σ) {docs : String → Option String} {anchor : Anchor}
    {t : MenuTree} (h : MenuTree.build? s.categoriesLeft s.menu.config.root
      (insertActions s.insertable) docs anchor = some t) :
    t.Every (Menu.EachLeaf s.Bound) := by
  intro id m hm o ho selection htarget
  obtain ⟨rfl, e, he, htext⟩ := MenuTree.leaf_of_build? h hm ho htarget
  cases hs : insertActions s.insertable o.text with
  | some selection =>
    obtain ⟨last, hlast, rfl⟩ := insertActions_eq_some_iff.1 hs
    exact .inserts hlast
  | none =>
    have hconstruct := insertActions_eq_none_iff.1 hs
    -- an option that was left without an insertion of its name names a category that was left
    have hcategory : o.text ∈ s.categoriesLeft.map (·.1) := by
      refine (s.menu.config.named_available _ e he o.text htext).resolve_left fun hmem => ?_
      obtain ⟨r, hr, heq⟩ := List.mem_map.1 hmem
      exact hconstruct r hr heq
    obtain ⟨c, hc⟩ := MenuTree.exists_keyId?_of_mem s.categoriesLeft_ne_nil hcategory
    exact .dead hconstruct hcategory <|
      MenuTree.refused_of_build? h hm ho htarget hs hc

/-- No category that is left, unless it is a construct too, is named more often than links
to it can be made. -/
def LinksAll (s : Session σ) : Prop :=
  ∀ name ∈ s.categoriesLeft.map (·.1), (∀ r ∈ s.insertable, r.construct ≠ name) →
    (s.categoriesLeft.flatMap (·.2)).count name ≤ MenuTree.linksTo s.menu.config.root name

/-- Where categories are listed once each, every option that names one is a link. -/
theorem linksAll_of_tidy {s : Session σ}
    (h : Entries.Tidy s.menu.config.entries s.menu.config.root) : s.LinksAll := by
  intro name hname _
  have htidy : s.categoriesLeft.Tidy s.menu.config.root := MenuConfig.tidy_available h _
  unfold MenuTree.linksTo
  split
  · next hroot =>
    rw [hroot, List.count_eq_zero.2 htidy.root]
  · exact htidy.once name hname

/-- Where every option that names a category is a link, each leaf inserts. -/
theorem Bound.exists_isLastOf {s : Session σ} {text : String} {selection : Selection}
    (h : s.Bound text selection) (hlinks : s.LinksAll) :
    ∃ last, IsLastOf text s.insertable last ∧ selection = .insert last.request := by
  cases h with
  | inserts hlast => exact ⟨_, hlast, rfl⟩
  | dead construct category refused =>
    exact absurd (hlinks text category construct) (Nat.not_le.2 refused)

/-! ## The menu of everything that can be inserted -/

/-- The menus that are shown are built of the categories that are left. -/
theorem showInserts_eq (s : Session σ) :
    let built := s.menu.build s.categoriesLeft s.menu.config.root (insertActions s.insertable)
      (.ofPosition s.context.position)
    s.showInserts = (built.1, { s with menuSource := .toolbox, menu := built.2 }) := rfl

/-- The menu of everything comes up just when its root is left. -/
theorem showInserts_eq_true_iff (s : Session σ) :
    s.showInserts.1 = true ↔ s.menu.config.root ∈ s.categoriesLeft.map (·.1) := by
  rw [showInserts_eq, MenuController.build_eq_true_iff]
  exact ⟨fun ⟨_, hid⟩ => MenuTree.mem_keys_of_keyId? hid,
    MenuTree.exists_keyId?_of_mem s.categoriesLeft_ne_nil⟩

/-- What is bound to the leaves that come up is what is bound to their texts. -/
theorem bound_showInserts (s : Session σ) {t : MenuTree}
    (h : s.showInserts.2.menu.tree? = some t) : t.Every (Menu.EachLeaf s.Bound) := by
  rw [showInserts_eq] at h
  exact MenuController.eachLeaf_of_tree?_build (fun _ hu => s.bound_of_build? hu) h

/-- The menu of everything that can be inserted is there just when the root category is
left. It has a leaf then, and each of its leaves inserts the construct that it shows or is
dead; none is dead if no category is named more often than links to it can be made. -/
theorem shown_leaves (s : Session σ) :
    (s.showInserts.1 = true ↔ s.menu.config.root ∈ s.categoriesLeft.map (·.1)) ∧
    s.showInserts.2.menu.tree?.isSome = s.showInserts.1 ∧
    ∀ t, s.showInserts.2.menu.tree? = some t →
      (∃ id m, t.get? id = some m ∧ ∃ o ∈ m.options, o.child? = none) ∧
      (∀ id m, t.get? id = some m → ∀ o ∈ m.options, ∀ selection,
        o.target = .select selection → s.Bound o.text selection) ∧
      (s.LinksAll → ∀ id m, t.get? id = some m → ∀ o ∈ m.options, ∀ selection,
        o.target = .select selection →
          ∃ last, IsLastOf o.text s.insertable last ∧ selection = .insert last.request) := by
  refine ⟨s.showInserts_eq_true_iff, MenuController.isSome_tree?_build, fun t ht => ⟨?_, ?_, ?_⟩⟩
  · exact (MenuController.navigable_of_tree?_build ht).exists_leaf
  · exact s.bound_showInserts ht
  · intro hlinks id m hm o ho selection htarget
    exact (s.bound_showInserts ht id m hm o ho selection htarget).exists_isLastOf hlinks

/-- A root category that names itself is shown where nothing can be inserted, with nothing
bound to its name. -/
theorem self_named_root_shown :
    let config : Config := { menu := { categories := [⟨"Top", ["Top"]⟩] } }
    let s := Session.ofConfig config (.scripted true) {}
    config.fault? = none ∧ s.insertable = [] ∧ s.showInserts.1 = true ∧
      ∃ t id m o, s.showInserts.2.menu.tree? = some t ∧ t.get? id = some m ∧ o ∈ m.options ∧
        o.target = .select .noop := by
  intro config s
  have hinsertable : s.insertable = [] := rfl
  have hleft : s.categoriesLeft = [("Top", ["Top"])] := by
    rw [categoriesLeft, hinsertable, MenuConfig.available, Entries.prune, dif_pos (by decide)]
    rfl
  have hshown : s.showInserts.1 = true := by
    rw [showInserts_eq_true_iff, hleft]
    exact List.mem_singleton_self _
  have hsome : s.showInserts.2.menu.tree?.isSome = true := by
    rw [← hshown]
    exact MenuController.isSome_tree?_build
  obtain ⟨t, ht⟩ := Option.isSome_iff_exists.1 hsome
  obtain ⟨id, m, hm, o, ho, hleaf⟩ := (MenuController.navigable_of_tree?_build ht).exists_leaf
  refine ⟨by decide +kernel, hinsertable, hshown, t, id, m, o, ht, hm, ho, ?_⟩
  cases htarget : o.target with
  | link c => simp [MenuOption.child?, htarget] at hleaf
  | select selection =>
    cases s.bound_showInserts ht id m hm o ho selection htarget with
    | inserts hlast => simpa [hinsertable] using hlast.mem
    | dead => rfl

end Session

end StructEdit
