import StructEdit.Proofs.Menu.Leaves
import StructEdit.Proofs.Menu.Listing
import StructEdit.Proofs.Menu.Panels

/-!
# StructEdit.Proofs.Menu.Available

The menus of tidy entries, those in which every key is an option at most once. Every
link that is asked for in a menu below the root is made then (`Tidy.menu_of_build?`),
so the tree offers what the entries list (`Tidy.offers_of_build?`). Main statement:
`offers_buildAvailable`, the menus of the configured categories with some
suggestions only offer what the categories list, without what is not suggested.
-/

namespace StructEdit

namespace MenuTree

/-! ## Options and leaves -/

/-- Where no key is repeated, there is no menu of a key just when it has no options. -/
theorem keyId?_eq_none_iff {entries : Entries} (hk : (entries.map (·.1)).Nodup) {key : String} :
    keyId? entries key = none ↔ entries.options key = [] := by
  by_cases hkey : key ∈ entries.map (·.1)
  · obtain ⟨⟨_, texts⟩, he, rfl⟩ := List.mem_map.1 hkey
    rw [Entries.options_of_mem hk he]
    constructor
    · intro hnone
      by_contra hne
      obtain ⟨id, hid⟩ := exists_keyId? he hne
      rw [hnone] at hid
      contradiction
    · rintro rfl
      refine Option.eq_none_iff_forall_ne_some.2 fun id hid => ?_
      have := List.mem_of_getElem? (getElem?_menuEntries_of_keyId? hk he hid)
      exact (mem_menuEntries this).2 rfl
  · rw [Entries.options_of_not_mem hkey]
    exact iff_of_true (Option.eq_none_iff_forall_ne_some.2 fun id hid =>
      hkey (mem_keys_of_keyId? hid)) rfl

/-- The option that a text becomes where every link that is asked for is made. -/
def linkedOption (entries : Entries) (actions : String → Option Selection)
    (docs : String → Option String) (text : String) : MenuOption where
  text
  doc := docs text
  target :=
    match actions text with
    | some selection => .select selection
    | none =>
      match keyId? entries text with
      | some child => .link child
      | none => .select .noop

theorem child?_linkedOption {entries : Entries} {actions : String → Option Selection}
    {docs : String → Option String} {text : String} {c : MenuId} :
    (linkedOption entries actions docs text).child? = some c ↔
      actions text = none ∧ keyId? entries text = some c := by
  rw [MenuOption.child?_eq_some_iff]
  unfold linkedOption
  cases actions text with
  | some selection => simp
  | none => cases keyId? entries text <;> simp

/-- The leaf that a text becomes. -/
def leafOf (actions : String → Option Selection) (docs : String → Option String)
    (text : String) : Leaf :=
  ⟨text, docs text, (actions text).getD .noop⟩

end MenuTree

namespace Entries

open MenuTree

namespace Tidy

variable {entries : Entries} {rootKey : String} {actions : String → Option Selection}
  {docs : String → Option String} {anchor : Anchor}

/-! ## Every link is made -/

/-- The link that an option asks for is made, if the entry of the option does not
name itself: no other option asks for a link to the same menu. -/
theorem isMade (h : entries.Tidy rootKey) {root : MenuId}
    (hroot : keyId? entries rootKey = some root) {e : String × List String} (he : e ∈ entries)
    (hself : e.1 ∉ e.2) {l : Link} (hid : keyId? entries e.1 = some l.parent) {text : String}
    (hi : e.2[l.index]? = some text) (hc : keyId? entries text = some l.child)
    {earlier later : List Link} (hl : wantedLinks entries actions = earlier ++ l :: later) :
    (unlinked entries actions docs anchor root).IsMade earlier l := by
  have hmem : text ∈ e.2 := List.mem_of_getElem? hi
  refine ⟨?_, ?_, ?_, ?_⟩
  · intro heq
    rw [heq] at hc
    exact hself (keyId?_injective hid hc ▸ hmem)
  · intro heq
    rw [heq] at hc
    exact h.root (List.mem_flatMap.2 ⟨e, he, keyId?_injective hroot hc ▸ hmem⟩)
  · obtain ⟨d, hd, _⟩ := keyId?_eq_some_iff.1 hc
    exact ⟨_, by rw [get?_unlinked, hd]; rfl, rfl⟩
  · intro k hk heq
    have hwanted : k ∈ wantedLinks entries actions := hl ▸ List.mem_append_left _ hk
    obtain ⟨d, hd, hdp, text', hi', _, hc'⟩ := mem_wantedLinks_iff.1 hwanted
    rw [heq] at hc'
    obtain rfl := keyId?_injective hc hc'
    -- the two links are to one menu, so they are asked for by one option
    obtain rfl := h.eq_of_mem (mem_keys_of_keyId? hc) hd he (List.mem_of_getElem? hi') hmem
    have hindex := h.index_unique (mem_keys_of_keyId? hc) hd hi' hi
    have hparent : k.parent = l.parent := Option.some.inj (hdp.symm.trans hid)
    have hls : InOrder (earlier ++ l :: later) := hl ▸ inOrder_wantedLinks h.nodup_keys
    have hlt := (List.pairwise_append.1 hls).2.2 k hk l List.mem_cons_self hparent
    omega

theorem option?_linked (h : entries.Tidy rootKey) {root : MenuId}
    (hroot : keyId? entries rootKey = some root) {e : String × List String} (he : e ∈ entries)
    (hself : e.1 ∉ e.2) {id : MenuId} (hid : keyId? entries e.1 = some id) {i : Nat}
    {text : String} (hi : e.2[i]? = some text) :
    (linked entries actions docs anchor root).option? id i =
      some (linkedOption entries actions docs text) := by
  unfold linkedOption
  cases ha : actions text with
  | some selection =>
    rw [option?_linked_of_unasked h.nodup_keys he hid hi (by simp [ha]), ha, Option.getD_some]
  | none =>
    cases hc : keyId? entries text with
    | none =>
      rw [option?_linked_of_unasked h.nodup_keys he hid hi (by simp [hc]), ha, Option.getD_none]
    | some c =>
      have hl : (⟨id, i, c⟩ : Link) ∈ wantedLinks entries actions :=
        mem_wantedLinks_iff.2 ⟨e, he, hid, text, hi, ha, hc⟩
      obtain ⟨earlier, later, heq⟩ := List.append_of_mem hl
      exact (option?_linked_of_asked h.nodup_keys he hid hi heq).1
        (h.isMade hroot he hself hid hi hc heq)

variable {t : MenuTree}

/-- The menus of a tree that is built are the entries that the root leads to, with
every link made. -/
theorem menu_of_build? (h : entries.Tidy rootKey)
    (hb : build? entries rootKey actions docs anchor = some t) {id : MenuId} {m : Menu}
    (hm : t.get? id = some m) :
    ∃ e ∈ entries, keyId? entries e.1 = some id ∧ e.1 ∉ e.2 ∧
      m.options = e.2.map (linkedOption entries actions docs) := by
  obtain ⟨root, hroot, htroot, hget⟩ := option?_of_build? hb
  have hw := wellFormed_of_build? h.nodup_keys hb
  have hoptions {id m} (hm : t.get? id = some m) {e} (he : e ∈ entries) (hself : e.1 ∉ e.2)
      (hid : keyId? entries e.1 = some id) :
      m.options = e.2.map (linkedOption entries actions docs) := by
    refine List.ext_getElem? fun i => ?_
    rw [← option?_of_get? (hget id m hm), List.getElem?_map]
    cases hi : e.2[i]? with
    | some text => exact h.option?_linked hroot he hself hid hi
    | none =>
      refine Option.eq_none_iff_forall_ne_some.2 fun o ho => ?_
      obtain ⟨d, text, hd, hdi, _⟩ := option?_linked_eq_some ho
      rw [getElem?_menuEntries_of_keyId? h.nodup_keys he hid, Option.some.injEq] at hd
      rw [← hd, hi] at hdi
      contradiction
  suffices hkey : ∃ e ∈ entries, keyId? entries e.1 = some id ∧ e.1 ∉ e.2 by
    obtain ⟨e, he, hid, hself⟩ := hkey
    exact ⟨e, he, hid, hself, hoptions hm he hself hid⟩
  -- the way down from the root: what an entry names that does not name itself does not
  -- name itself either
  induction hw.below_root id m hm generalizing m with
  | refl =>
    obtain ⟨e, he, rfl⟩ := keyId?_eq_some_iff.1 hroot
    have hmem := (mem_menuEntries (List.mem_of_getElem? he)).1
    exact ⟨e, hmem, htroot ▸ hroot, fun hself => h.root (List.mem_flatMap.2 ⟨e, hmem, hself⟩)⟩
  | tail hbelow hc ih =>
    obtain ⟨n, hn, hmem⟩ := exists_menu_of_isChild hc
    obtain ⟨d, hd, hid, hself⟩ := ih hn
    rw [hw.children_eq _ n hn, hoptions hn hd hself hid] at hmem
    obtain ⟨o, ho, hoc⟩ := List.mem_filterMap.1 hmem
    obtain ⟨text, htext, rfl⟩ := List.mem_map.1 ho
    obtain ⟨_, hc⟩ := child?_linkedOption.1 hoc
    obtain ⟨e, he, rfl⟩ := List.mem_map.1 (mem_keys_of_keyId? hc)
    exact ⟨e, he, hc, h.not_mem_of_mem hd he hself htext⟩

/-! ## What the entries list is offered -/

/-- In the tree that is built with no action bound every name is a link, so what the
entry of a menu lists is found by going down the tree. -/
theorem exists_lists_of_below (h : entries.Tidy rootKey)
    (hb : build? entries rootKey (fun _ => none) docs anchor = some t) {id : MenuId}
    (hbelow : t.Below t.root id) {key : String} (hid : keyId? entries key = some id) :
    ∃ ls, entries.Lists (entries.options key) ls := by
  have hw := wellFormed_of_build? h.nodup_keys hb
  induction hbelow using hw.toForest.induction generalizing key with
  | menu id m hbelow hm ih =>
    obtain ⟨e, he, heid, _, hoptions⟩ := h.menu_of_build? hb hm
    obtain rfl := keyId?_injective heid hid
    rw [options_of_mem h.nodup_keys he]
    refine Lists.exists_of_forall fun text htext texts htexts => ?_
    rw [← options_of_mem h.nodup_keys htexts]
    cases hc : keyId? entries text with
    | none =>
      rw [(keyId?_eq_none_iff h.nodup_keys).1 hc]
      exact ⟨[], .nil⟩
    | some c =>
      have hchild : t.IsChild id c := hw.isChild_of_link hm
        (hoptions ▸ List.mem_map_of_mem htext) (child?_linkedOption.2 ⟨rfl, hc⟩)
      exact ih c (by rwa [IsChild, children_of_get? hm] at hchild) (hbelow.tail hchild) hc

/-- The root of tidy entries lists something: no entry is come upon twice on the way
down. -/
theorem exists_lists (h : entries.Tidy rootKey) :
    ∃ ls, entries.Lists (entries.options rootKey) ls := by
  cases hroot : keyId? entries rootKey with
  | none =>
    rw [(keyId?_eq_none_iff h.nodup_keys).1 hroot]
    exact ⟨[], .nil⟩
  | some root =>
    obtain ⟨t, hb⟩ : ∃ t, build? entries rootKey (fun _ => none) (fun _ => none) ⟨0, 0⟩ = some t :=
      ⟨_, build?_eq_some_iff.2 ⟨root, hroot, rfl⟩⟩
    obtain ⟨root', hroot', htroot, _⟩ := option?_of_build? hb
    exact h.exists_lists_of_below hb .refl (htroot ▸ hroot')

/-- What texts list is what their options yield in the tree, where every entry has
options and no action is bound to a key. -/
theorem yields_of_build? (h : entries.Tidy rootKey) (hne : ∀ e ∈ entries, e.2 ≠ [])
    (hfree : ∀ k ∈ entries.map (·.1), actions k = none)
    (hb : build? entries rootKey actions docs anchor = some t) {os ls : List String}
    (hl : entries.Lists os ls)
    (hlive : ∀ o ∈ os, ∀ c, keyId? entries o = some c → ∃ n, t.get? c = some n) :
    t.Yields (os.map (linkedOption entries actions docs)) (ls.map (leafOf actions docs)) := by
  have hw := wellFormed_of_build? h.nodup_keys hb
  induction hl with
  | nil => exact .nil
  | @leaf o os ls free _ ih =>
    rw [List.forall_mem_cons] at hlive
    have hnone : keyId? entries o = none :=
      Option.eq_none_iff_forall_ne_some.2 fun c hc => free (mem_keys_of_keyId? hc)
    refine .leaf ?_ (ih hlive.2)
    unfold linkedOption
    cases actions o <;> simp [hnone]
  | @category o os texts ks ls entry _ _ ihbelow ih =>
    rw [List.forall_mem_cons] at hlive
    obtain ⟨c, hc⟩ := exists_keyId? entry (hne _ entry)
    obtain ⟨n, hn⟩ := hlive.1 c hc
    obtain ⟨e, he, hec, _, hoptions⟩ := h.menu_of_build? hb hn
    obtain rfl := List.inj_on_of_nodup_map h.nodup_keys entry he (keyId?_injective hc hec)
    rw [List.map_cons, List.map_append]
    refine .link (MenuOption.child?_eq_some_iff.1 (child?_linkedOption.2
      ⟨hfree o (List.mem_map_of_mem entry), hc⟩)) hn ?_ (ih hlive.2)
    rw [hoptions]
    exact ihbelow fun text htext d hd => hw.exists_menu_of_link hn
      (hoptions ▸ List.mem_map_of_mem htext)
      (child?_linkedOption.2 ⟨hfree text (mem_keys_of_keyId? hd), hd⟩)

/-- The tree of tidy entries offers what the root lists, where every entry has options
and no action is bound to a key. -/
theorem offers_of_build? (h : entries.Tidy rootKey) (hne : ∀ e ∈ entries, e.2 ≠ [])
    (hfree : ∀ k ∈ entries.map (·.1), actions k = none)
    (hb : build? entries rootKey actions docs anchor = some t) {ls : List String}
    (hl : entries.Lists (entries.options rootKey) ls) :
    t.Offers (ls.map (leafOf actions docs)) := by
  have hw := wellFormed_of_build? h.nodup_keys hb
  obtain ⟨m, hm⟩ := hw.root_live
  obtain ⟨root, hroot, htroot, _⟩ := option?_of_build? hb
  obtain ⟨e, he, hid, _, hoptions⟩ := h.menu_of_build? hb hm
  rw [htroot] at hid
  obtain rfl := keyId?_injective hid hroot
  rw [options_of_mem h.nodup_keys he] at hl
  refine ⟨m, hm, hoptions ▸ h.yields_of_build? hne hfree hb hl fun text htext c hc => ?_⟩
  exact hw.exists_menu_of_link hm (hoptions ▸ List.mem_map_of_mem htext)
    (child?_linkedOption.2 ⟨hfree text (mem_keys_of_keyId? hc), hc⟩)

end Tidy

end Entries

/-! ## The configured categories -/

namespace MenuConfig

variable {config : MenuConfig}

theorem keys_entries (config : MenuConfig) :
    config.entries.map (·.1) = config.categories.map (·.name) := by
  simp [entries, Function.comp_def]

theorem keys_available_subset (suggestions : List String) {k : String}
    (h : k ∈ (config.available suggestions).map (·.1)) : k ∈ config.entries.map (·.1) := by
  have := (Entries.keys_prune_sublist _).mem h
  simpa [offered] using this

theorem tidy_available (h : Entries.Tidy config.entries config.root) (suggestions : List String) :
    (config.available suggestions).Tidy config.root :=
  (h.filter _).prune

/-- The categories list the suggestions among what they list when all is on offer. -/
theorem lists_available (h : Entries.Tidy config.entries config.root) (suggestions : List String)
    {texts : List String}
    (hl : Entries.Lists config.entries (Entries.options config.entries config.root) texts) :
    (config.available suggestions).Lists ((config.available suggestions).options config.root)
      (texts.filter (· ∈ suggestions)) := by
  let keep := fun o => (config.categories.map (·.name)).contains o || suggestions.contains o
  have hkeep : ∀ k ∈ config.entries.map (·.1), keep k = true := by
    intro k hk
    rw [keys_entries] at hk
    simp only [keep, List.contains_iff_mem.2 hk, Bool.true_or]
  have hfilter : texts.filter (· ∈ suggestions) = texts.filter keep := by
    refine List.filter_congr fun text htext => ?_
    have hfree : (config.categories.map (·.name)).contains text = false := by
      rw [Bool.eq_false_iff, ← keys_entries]
      exact fun hmem => hl.not_mem_keys text htext (List.contains_iff_mem.1 hmem)
    simp only [keep]
    rw [hfree, Bool.false_or, List.contains_eq_mem]
  rw [hfilter]
  refine Entries.lists_prune (h.filter keep).nodup_keys ?_
  have hoffered := hl.filter hkeep
  rwa [← Entries.options_map_filter] at hoffered

end MenuConfig

namespace MenuController

/-- Tidy entries, each with options and no action bound to its key, give no menus when
the root lists nothing, and otherwise menus that offer what it lists. -/
theorem offers_build (c : MenuController) {entries : Entries} {rootKey : String}
    {actions : String → Option Selection} (anchor : Anchor) (h : entries.Tidy rootKey)
    (hne : ∀ e ∈ entries, e.2 ≠ []) (hfree : ∀ k ∈ entries.map (·.1), actions k = none)
    {ls : List String} (hl : entries.Lists (entries.options rootKey) ls) :
    (ls = [] → (c.build entries rootKey actions anchor).1 = false ∧
        (c.build entries rootKey actions anchor).2.tree? = none) ∧
      (ls ≠ [] → (c.build entries rootKey actions anchor).1 = true ∧
        ∃ t, (c.build entries rootKey actions anchor).2.tree? = some t ∧
          t.Offers (ls.map (MenuTree.leafOf actions c.config.docs.find?))) := by
  have hempty := (hl.eq_nil_iff hne).trans (MenuTree.keyId?_eq_none_iff h.nodup_keys).symm
  rw [build_fst, ← panel_eq_none_iff]
  have hpanel := c.panel_build entries rootKey actions anchor
  cases hb : MenuTree.build? entries rootKey actions c.config.docs.find? anchor with
  | none =>
    have hroot : ls = [] := hempty.2 (Option.map_eq_none_iff.1 hb)
    rw [hb, Option.map_none] at hpanel
    exact ⟨fun _ => ⟨rfl, hpanel⟩, fun hls => absurd hroot hls⟩
  | some t =>
    have hroot : ls ≠ [] := by
      obtain ⟨root, hid, _⟩ := MenuTree.build?_eq_some_iff.1 hb
      rw [Ne, hempty, hid]
      simp
    rw [hb, Option.map_some] at hpanel
    refine ⟨fun hls => absurd hls hroot, fun _ => ⟨rfl, _, tree?_of_panel hpanel, ?_⟩⟩
    have hoffers := (MenuTree.wellFormed_of_build? h.nodup_keys hb).offers_collapse
      (h.offers_of_build? hne hfree hb hl)
    exact hoffers.of_bare_eq (MenuTree.bare_openMenu t.collapse t.collapse.root)

/-- The menus of the configured categories with some suggestions only: there are any
just when the categories list a suggestion, and what they offer is what the categories
list without what is not suggested, each leaf with the action bound to it. -/
theorem offers_buildAvailable (c : MenuController) {suggestions : List String}
    {actions : String → Option Selection} (anchor : Anchor)
    (h : Entries.Tidy c.config.entries c.config.root)
    (hs : ∀ s ∈ suggestions, s ∉ c.config.entries.map (·.1))
    (ha : ∀ text, (actions text).isSome = true ↔ text ∈ suggestions) :
    ∃ texts, (∀ ts, Entries.Lists c.config.entries
        (Entries.options c.config.entries c.config.root) ts ↔ ts = texts) ∧
      let r := c.buildAvailable suggestions actions anchor
      let available := texts.filter (· ∈ suggestions)
      (r.1 = true ↔ available ≠ []) ∧ (r.2.tree? = none ↔ available = []) ∧
        ∀ t, r.2.tree? = some t → ∃ leaves, (∀ ls, t.Offers ls ↔ ls = leaves) ∧
          leaves.map (·.text) = available ∧ ∀ l ∈ leaves,
            actions l.text = some l.selection ∧ l.doc = c.config.docs.find? l.text := by
  obtain ⟨texts, hl⟩ := h.exists_lists
  refine ⟨texts, fun ts => ⟨fun hts => hts.unique h.nodup_keys hl, fun heq => heq ▸ hl⟩, ?_⟩
  intro r available
  have hfree : ∀ k ∈ (c.config.available suggestions).map (·.1), actions k = none := by
    intro k hk
    rw [← Option.not_isSome_iff_eq_none, ha]
    exact fun hmem => hs k hmem (MenuConfig.keys_available_subset suggestions hk)
  obtain ⟨hnone, hsome⟩ := c.offers_build anchor (MenuConfig.tidy_available h suggestions)
    (fun e he => Entries.options_ne_nil_of_mem_prune he) hfree
    (MenuConfig.lists_available h suggestions hl)
  by_cases havailable : available = []
  · obtain ⟨hflag, htree⟩ : r.1 = false ∧ r.2.tree? = none := hnone havailable
    simp [hflag, htree, havailable]
  · obtain ⟨hflag, t, ht, hoffers⟩ : r.1 = true ∧ ∃ t, r.2.tree? = some t ∧
        t.Offers (available.map (MenuTree.leafOf actions c.config.docs.find?)) := hsome havailable
    refine ⟨iff_of_true hflag havailable, iff_of_false (by simp [ht]) havailable, fun u hu => ?_⟩
    obtain rfl := Option.some.inj (ht.symm.trans hu)
    refine ⟨_, fun ls => ⟨fun hls => hls.unique hoffers, fun heq => heq ▸ hoffers⟩, ?_, ?_⟩
    · simp [MenuTree.leafOf, Function.comp_def]
    · intro l hmem
      obtain ⟨text, htext, rfl⟩ := List.mem_map.1 hmem
      have hbound := (ha text).2 (by simpa using (List.mem_filter.1 htext).2)
      obtain ⟨selection, hselection⟩ := Option.isSome_iff_exists.1 hbound
      exact ⟨by simp [MenuTree.leafOf, hselection], rfl⟩

/-- A category of which nothing is suggested is not on offer, and neither is the name
of it. -/
theorem offers_buildAvailable_operators :
    let config : MenuConfig := { categories := [⟨"Top", ["Operators", "print()"]⟩,
      ⟨"Operators", ["Boolean", "+"]⟩, ⟨"Boolean", ["and", "or"]⟩] }
    let suggestions := ["print()", "+"]
    let actions := fun text => if text ∈ suggestions then some Selection.noop else none
    Entries.Tidy config.entries config.root ∧
      (∀ s ∈ suggestions, s ∉ config.entries.map (·.1)) ∧
      (∀ text, (actions text).isSome = true ↔ text ∈ suggestions) ∧
      ∃ t leaves,
        (({ config } : MenuController).buildAvailable suggestions actions ⟨0, 0⟩).2.tree? = some t ∧
        t.Offers leaves ∧ leaves.map (·.text) = ["+", "print()"] := by
  intro config suggestions actions
  have h : Entries.Tidy config.entries config.root := ⟨by decide, by decide, by decide⟩
  have hs : ∀ s ∈ suggestions, s ∉ config.entries.map (·.1) := by decide
  have ha : ∀ text, (actions text).isSome = true ↔ text ∈ suggestions := by simp [actions]
  have hoperators : ("Operators", ["Boolean", "+"]) ∈ config.entries := by decide
  have hboolean : ("Boolean", ["and", "or"]) ∈ config.entries := by decide
  have hl : Entries.Lists config.entries (Entries.options config.entries config.root)
      ((["and", "or"] ++ ["+"]) ++ ["print()"]) :=
    .category hoperators
      (.category hboolean (.leaf (by decide) (.leaf (by decide) .nil)) (.leaf (by decide) .nil))
      (.leaf (by decide) .nil)
  obtain ⟨texts, htexts, _, hnone, hsome⟩ := offers_buildAvailable { config } ⟨0, 0⟩ h hs ha
  obtain rfl := (htexts _).1 hl
  have hlisted : ((["and", "or"] ++ ["+"]) ++ ["print()"]).filter (· ∈ suggestions) =
      ["+", "print()"] := by decide
  rw [hlisted] at hnone hsome
  obtain ⟨t, ht⟩ := Option.ne_none_iff_exists'.1 fun h => List.cons_ne_nil _ _ (hnone.1 h)
  obtain ⟨leaves, hleaves, htext, _⟩ := hsome t ht
  exact ⟨h, hs, ha, t, leaves, ht, (hleaves leaves).2 rfl, htext⟩

end MenuController

end StructEdit
