import StructEdit.Proofs.Menu.Linking

/-!
# StructEdit.Proofs.Menu.Building

The trees that are built out of named lists of options. Menus are numbered in the
order of the entries they are made of (`keyId?_eq_some_iff`), and an option asks for
a link just when no action is bound to it and it names an entry with options
(`mem_wantedLinks_iff`). Main statements: `rooted_of_build?`, every tree that is
built is rooted, `wellFormed_of_build?`, it is well formed if no key is repeated,
and `option?_of_build?`, what its options are.
-/

namespace StructEdit

namespace MenuTree

/-! ## The numbers of the menus -/

theorem mem_of_mem_firstOfEachKey {es : List (String × α)} {e : String × α}
    (h : e ∈ firstOfEachKey es) : e ∈ es := by
  induction es with
  | nil => exact h
  | cons d es ih =>
    rcases List.mem_cons.1 h with rfl | h
    · exact List.mem_cons_self
    · exact List.mem_cons_of_mem d (ih (List.mem_filter.1 h).1)

theorem nodup_keys_firstOfEachKey (es : List (String × α)) :
    ((firstOfEachKey es).map (·.1)).Nodup := by
  induction es with
  | nil => exact .nil
  | cons e es ih =>
    simp only [firstOfEachKey, List.map_cons, List.nodup_cons]
    refine ⟨fun h => ?_, ih.sublist (List.filter_sublist.map _)⟩
    obtain ⟨d, hd, heq⟩ := List.mem_map.1 h
    simp [heq] at hd

/-- Each key is the key of the first entry that has it. -/
theorem mem_keys_firstOfEachKey {es : List (String × α)} {key : String}
    (h : key ∈ es.map (·.1)) : key ∈ (firstOfEachKey es).map (·.1) := by
  induction es with
  | nil => exact h
  | cons e es ih =>
    rw [firstOfEachKey, List.map_cons, List.mem_cons]
    rw [List.map_cons, List.mem_cons] at h
    by_cases heq : key = e.1
    · exact .inl heq
    · obtain ⟨d, hd, rfl⟩ := List.mem_map.1 (ih (h.resolve_left heq))
      exact .inr (List.mem_map_of_mem (List.mem_filter.2 ⟨hd, by simpa using heq⟩))

variable {entries : List (String × List String)}

theorem mem_menuEntries {e : String × List String} (h : e ∈ menuEntries entries) :
    e ∈ entries ∧ e.2 ≠ [] := by
  simpa using List.mem_filter.1 (mem_of_mem_firstOfEachKey h)

/-- The number of a key is the place of its entry among those that menus are made
of. -/
theorem keyId?_eq_some_iff {key : String} {id : MenuId} :
    keyId? entries key = some id ↔ ∃ e, (menuEntries entries)[id]? = some e ∧ e.1 = key := by
  have hnd : ((menuEntries entries).map (·.1)).Nodup := nodup_keys_firstOfEachKey _
  unfold keyId?
  rw [List.idxOf?_eq_some_iff]
  constructor
  · rintro ⟨hid, rfl, _⟩
    rw [List.length_map] at hid
    exact ⟨(menuEntries entries)[id], List.getElem?_eq_getElem hid, by simp⟩
  · rintro ⟨e, he, rfl⟩
    obtain ⟨hid, rfl⟩ := List.getElem?_eq_some_iff.1 he
    refine ⟨by simpa using hid, by simp, fun j hj heq => ?_⟩
    have hid' : id < ((menuEntries entries).map (·.1)).length := by rwa [List.length_map]
    have : j = id := hnd.getElem_inj_iff.1 (heq.trans (List.getElem_map (h := hid') _).symm)
    omega

theorem keyId?_injective {k l : String} {id : MenuId} (hk : keyId? entries k = some id)
    (hl : keyId? entries l = some id) : k = l := by
  obtain ⟨e, he, rfl⟩ := keyId?_eq_some_iff.1 hk
  obtain ⟨d, hd, rfl⟩ := keyId?_eq_some_iff.1 hl
  rw [he, Option.some.injEq] at hd
  rw [hd]

theorem keyId?_inj {k l : String} {i j : MenuId} (hk : keyId? entries k = some i)
    (hl : keyId? entries l = some j) : i = j ↔ k = l :=
  ⟨fun h => keyId?_injective hk (h ▸ hl), fun h => Option.some.inj (hk.symm.trans (h ▸ hl))⟩

theorem mem_keys_of_keyId? {key : String} {id : MenuId} (h : keyId? entries key = some id) :
    key ∈ entries.map (·.1) := by
  obtain ⟨e, he, rfl⟩ := keyId?_eq_some_iff.1 h
  exact List.mem_map_of_mem (mem_menuEntries (List.mem_of_getElem? he)).1

/-- Where no key is repeated, an entry with options has the menu of its key. -/
theorem getElem?_menuEntries_of_keyId? (hk : (entries.map (·.1)).Nodup)
    {e : String × List String} (he : e ∈ entries) {id : MenuId}
    (hid : keyId? entries e.1 = some id) : (menuEntries entries)[id]? = some e := by
  obtain ⟨d, hd, hde⟩ := keyId?_eq_some_iff.1 hid
  have hmem := (mem_menuEntries (List.mem_of_getElem? hd)).1
  rw [hd, List.inj_on_of_nodup_map hk hmem he hde]

/-- An entry with options has a menu of its key. -/
theorem exists_keyId? {e : String × List String} (he : e ∈ entries) (ho : e.2 ≠ []) :
    ∃ id, keyId? entries e.1 = some id := by
  have hfilter : e ∈ entries.filter fun d => !d.2.isEmpty :=
    List.mem_filter.2 ⟨he, by simpa using ho⟩
  have hkey : e.1 ∈ (menuEntries entries).map (·.1) :=
    mem_keys_firstOfEachKey (List.mem_map_of_mem hfilter)
  obtain ⟨d, hd, hde⟩ := List.mem_map.1 hkey
  obtain ⟨id, hid⟩ := List.mem_iff_getElem?.1 hd
  exact ⟨id, keyId?_eq_some_iff.2 ⟨d, hid, hde⟩⟩

/-! ## The links that are asked for -/

variable {actions : String → Option Selection}

/-- The links that the options of one entry ask for, in the order of the options. -/
def linksOf (entries : List (String × List String)) (actions : String → Option Selection)
    (e : String × List String) : List Link :=
  match keyId? entries e.1 with
  | none => []
  | some parent =>
    e.2.zipIdx.filterMap fun o =>
      match actions o.1 with
      | some _ => none
      | none => (keyId? entries o.1).map fun child => { parent, index := o.2, child }

theorem wantedLinks_eq_flatMap :
    wantedLinks entries actions = entries.flatMap (linksOf entries actions) := rfl

theorem mem_linksOf_iff {e : String × List String} {l : Link} :
    l ∈ linksOf entries actions e ↔ keyId? entries e.1 = some l.parent ∧
      ∃ text, e.2[l.index]? = some text ∧ actions text = none ∧
        keyId? entries text = some l.child := by
  unfold linksOf
  cases keyId? entries e.1 with
  | none => simp
  | some p =>
    simp only [List.mem_filterMap, List.mem_zipIdx_iff_getElem?, Option.some.injEq]
    constructor
    · rintro ⟨⟨text, i⟩, hi, hl⟩
      split at hl
      · contradiction
      · next hfree =>
        obtain ⟨c, hc, rfl⟩ := Option.map_eq_some_iff.1 hl
        exact ⟨rfl, text, hi, hfree, hc⟩
    · rintro ⟨rfl, text, hi, hfree, hc⟩
      exact ⟨(text, l.index), hi, by simp [hfree, hc]⟩

theorem mem_wantedLinks_iff {l : Link} :
    l ∈ wantedLinks entries actions ↔ ∃ e ∈ entries, keyId? entries e.1 = some l.parent ∧
      ∃ text, e.2[l.index]? = some text ∧ actions text = none ∧
        keyId? entries text = some l.child := by
  simp only [wantedLinks_eq_flatMap, List.mem_flatMap, mem_linksOf_iff]

/-- Where no key is repeated, the links of each menu are asked for in the order of
its options. -/
theorem inOrder_wantedLinks (hk : (entries.map (·.1)).Nodup) :
    InOrder (wantedLinks entries actions) := by
  unfold InOrder wantedLinks
  rw [List.pairwise_flatMap]
  constructor
  · intro e _
    cases keyId? entries e.1 with
    | none => exact .nil
    | some p =>
      have hidx : (e.2.zipIdx).Pairwise fun a b => a.2 < b.2 := by
        have := List.pairwise_lt_range' (s := 0) (n := e.2.length)
        rw [← List.zipIdx_map_snd, List.pairwise_map] at this
        exact this
      refine List.pairwise_filterMap.2 (hidx.imp fun hab k hk l hl _ => ?_)
      split at hk <;> split at hl <;> simp only [reduceCtorEq, Option.map_eq_some_iff] at hk hl
      obtain ⟨_, _, rfl⟩ := hk
      obtain ⟨_, _, rfl⟩ := hl
      exact hab
  · rw [List.Nodup, List.pairwise_map] at hk
    refine hk.imp fun hne k hk l hl hp => ?_
    split at hk
    · simp at hk
    · next hek =>
      split at hl
      · simp at hl
      · next hel =>
        -- links of different entries are of different menus
        simp only [List.mem_filterMap] at hk hl
        obtain ⟨_, _, hk⟩ := hk
        obtain ⟨_, _, hl⟩ := hl
        split at hk <;> split at hl <;> simp only [reduceCtorEq, Option.map_eq_some_iff] at hk hl
        obtain ⟨_, _, rfl⟩ := hk
        obtain ⟨_, _, rfl⟩ := hl
        simp only at hp
        subst hp
        exact absurd (keyId?_injective hek hel) hne

/-! ## The menus before they are linked -/

variable {docs : String → Option String} {anchor : Anchor}

/-- The menus of the entries, none of them linked yet. -/
def unlinked (entries : List (String × List String)) (actions : String → Option Selection)
    (docs : String → Option String) (anchor : Anchor) (root : MenuId) : MenuTree where
  slots := (menuEntries entries).map fun e => some (plainMenu actions docs anchor e.2)
  root

/-- The menus of the entries with the links between them, those that the root does
not lead to included. -/
def linked (entries : List (String × List String)) (actions : String → Option Selection)
    (docs : String → Option String) (anchor : Anchor) (root : MenuId) : MenuTree :=
  (wantedLinks entries actions).foldl addLink (unlinked entries actions docs anchor root)

theorem build?_eq_some_iff {rootKey : String} {t : MenuTree} :
    build? entries rootKey actions docs anchor = some t ↔
      ∃ root, keyId? entries rootKey = some root ∧
        (linked entries actions docs anchor root).restrict
          (linked entries actions docs anchor root).preorder = t := by
  unfold build?
  rw [Option.map_eq_some_iff]
  rfl

@[simp]
theorem get?_unlinked (root id : MenuId) :
    (unlinked entries actions docs anchor root).get? id =
      ((menuEntries entries)[id]?).map fun e => plainMenu actions docs anchor e.2 := by
  cases h : (menuEntries entries)[id]? <;> simp [get?, unlinked, h]

theorem option?_unlinked (root id : MenuId) (i : Nat) :
    (unlinked entries actions docs anchor root).option? id i =
      ((menuEntries entries)[id]?).bind fun e => (e.2[i]?).map fun text =>
        { text, doc := docs text, target := .select ((actions text).getD .noop) } := by
  cases h : (menuEntries entries)[id]? <;> simp [option?, h, plainMenu]

theorem children_unlinked (root id : MenuId) :
    (unlinked entries actions docs anchor root).children id = [] := by
  cases h : (menuEntries entries)[id]? <;> simp [children, h, plainMenu]

theorem forest_unlinked {root : MenuId} (hroot : root < (menuEntries entries).length) :
    (unlinked entries actions docs anchor root).Forest where
  root_live := ⟨_, by
    rw [get?_unlinked]
    exact Option.map_eq_some_iff.2 ⟨_, List.getElem?_eq_getElem hroot, rfl⟩⟩
  parent_root m hm := by
    rw [get?_unlinked] at hm
    obtain ⟨e, _, rfl⟩ := Option.map_eq_some_iff.1 hm
    rfl
  nodup_children id := by simp [children_unlinked]
  parent_of_child hc := by simp [IsChild, children_unlinked] at hc

theorem aligned_unlinked (root : MenuId) (ls : List Link) :
    (unlinked entries actions docs anchor root).Aligned ls := by
  intro id m hm
  rw [get?_unlinked] at hm
  obtain ⟨e, _, rfl⟩ := Option.map_eq_some_iff.1 hm
  have hnone : ∀ o ∈ (plainMenu actions docs anchor e.2).options, o.child? = none := by
    intro o ho
    obtain ⟨text, _, rfl⟩ := List.mem_map.1 ho
    rfl
  refine ⟨?_, fun l _ _ j o _ ho => hnone o (List.mem_of_getElem? ho)⟩
  rw [List.filterMap_eq_nil_iff.2 hnone]
  rfl

theorem forest_linked {rootKey : String} {root : MenuId}
    (h : keyId? entries rootKey = some root) :
    (linked entries actions docs anchor root).Forest := by
  obtain ⟨e, he, _⟩ := keyId?_eq_some_iff.1 h
  exact (forest_unlinked (List.getElem?_eq_some_iff.1 he).1).foldl_addLink _

/-- An option before anything is linked, where no key is repeated. -/
theorem option?_unlinked_of_keyId? (hk : (entries.map (·.1)).Nodup) {e : String × List String}
    (he : e ∈ entries) {root id : MenuId} (hid : keyId? entries e.1 = some id) {i : Nat}
    {text : String} (hi : e.2[i]? = some text) :
    (unlinked entries actions docs anchor root).option? id i =
      some { text, doc := docs text, target := .select ((actions text).getD .noop) } := by
  rw [option?_unlinked, getElem?_menuEntries_of_keyId? hk he hid, Option.bind_some, hi,
    Option.map_some]

/-- An option that asks for no link stays what it is. -/
theorem option?_linked_of_unasked (hk : (entries.map (·.1)).Nodup) {e : String × List String}
    (he : e ∈ entries) {root id : MenuId} (hid : keyId? entries e.1 = some id) {i : Nat}
    {text : String} (hi : e.2[i]? = some text)
    (hunasked : ∀ c, actions text = none → keyId? entries text ≠ some c) :
    (linked entries actions docs anchor root).option? id i =
      some { text, doc := docs text, target := .select ((actions text).getD .noop) } := by
  rw [linked, option?_foldl_addLink_of_ne, option?_unlinked_of_keyId? hk he hid hi]
  -- a link that is to this option is one that its text asks for
  intro l hl hat
  obtain ⟨d, hd, hdp, text', hi', hfree, hc⟩ := mem_wantedLinks_iff.1 hl
  rw [← hat.1] at hdp
  have hde := List.inj_on_of_nodup_map hk hd he (keyId?_injective hdp hid)
  rw [hde, ← hat.2, hi, Option.some.injEq] at hi'
  exact hunasked l.child (hi' ▸ hfree) (hi' ▸ hc)

/-- An option that asks for a link becomes one if the link is made, and stays what it is if
not. -/
theorem option?_linked_of_asked (hk : (entries.map (·.1)).Nodup) {e : String × List String}
    (he : e ∈ entries) {root id c : MenuId} (hid : keyId? entries e.1 = some id) {i : Nat}
    {text : String} (hi : e.2[i]? = some text) {earlier later : List Link}
    (hls : wantedLinks entries actions = earlier ++ ⟨id, i, c⟩ :: later) :
    ((unlinked entries actions docs anchor root).IsMade earlier ⟨id, i, c⟩ →
        (linked entries actions docs anchor root).option? id i =
          some { text, doc := docs text, target := .link c }) ∧
      (¬ (unlinked entries actions docs anchor root).IsMade earlier ⟨id, i, c⟩ →
        (linked entries actions docs anchor root).option? id i =
          some { text, doc := docs text, target := .select ((actions text).getD .noop) }) := by
  have hinOrder : InOrder (earlier ++ ⟨id, i, c⟩ :: later) := hls ▸ inOrder_wantedLinks hk
  have hplain : (unlinked entries actions docs anchor root).option? id i =
      some { text, doc := docs text, target := .select ((actions text).getD .noop) } :=
    option?_unlinked_of_keyId? hk he hid hi
  rw [linked, hls]
  constructor
  · intro hmade
    rw [(option?_foldl_addLink hinOrder).1 hmade, hplain, Option.map_some]
  · intro hmade
    rw [(option?_foldl_addLink hinOrder).2 hmade, hplain]

/-- What holds of every menu without links, and is not lost when a menu gets a parent or
a link, holds of every menu after the linking. -/
theorem every_linked {Q : Menu → Prop} (hparent : ∀ m p, Q m → Q (m.withParent p))
    (hlink : ∀ m i c, Q m → Q (m.withLink i c))
    (hplain : ∀ texts, texts ≠ [] → Q (plainMenu actions docs anchor texts)) (root : MenuId) :
    (linked entries actions docs anchor root).Every Q := by
  refine Every.foldl_addLink hparent hlink (fun id m hm => ?_) _
  rw [get?_unlinked] at hm
  obtain ⟨e, he, rfl⟩ := Option.map_eq_some_iff.1 hm
  exact hplain e.2 (mem_menuEntries (List.mem_of_getElem? he)).2

/-! ## The menus that are built -/

/-- Every tree that is built is rooted, repeated keys or not. -/
theorem rooted_of_build? {rootKey : String} {t : MenuTree}
    (h : build? entries rootKey actions docs anchor = some t) : t.Rooted := by
  obtain ⟨root, hroot, rfl⟩ := build?_eq_some_iff.1 h
  exact (forest_linked hroot).rooted_restrict_preorder

/-- The options of a menu that is built are those that the linking left. -/
theorem option?_of_build? {rootKey : String} {t : MenuTree}
    (h : build? entries rootKey actions docs anchor = some t) :
    ∃ root, keyId? entries rootKey = some root ∧ t.root = root ∧ ∀ id m, t.get? id = some m →
      (linked entries actions docs anchor root).get? id = some m := by
  obtain ⟨root, hroot, rfl⟩ := build?_eq_some_iff.1 h
  refine ⟨root, hroot, ?_, fun id m hm => ?_⟩
  · exact root_foldl_addLink _
  · rw [get?_restrict] at hm
    split at hm
    · exact hm
    · contradiction

/-- Linking leaves each menu the options it had, with other targets at most. -/
theorem option?_linked_eq_some {root id : MenuId} {i : Nat} {o : MenuOption}
    (h : (linked entries actions docs anchor root).option? id i = some o) :
    ∃ e text, (menuEntries entries)[id]? = some e ∧ e.2[i]? = some text ∧ o.text = text ∧
      o.doc = docs text ∧ o.focused = false := by
  have hplain {o} (ho : (unlinked entries actions docs anchor root).option? id i = some o) :
      ∃ e text, (menuEntries entries)[id]? = some e ∧ e.2[i]? = some text ∧ o.text = text ∧
        o.doc = docs text ∧ o.focused = false := by
    rw [option?_unlinked] at ho
    obtain ⟨e, he, ho⟩ := Option.bind_eq_some_iff.1 ho
    obtain ⟨text, ht, rfl⟩ := Option.map_eq_some_iff.1 ho
    exact ⟨e, text, he, ht, rfl, rfl, rfl⟩
  rcases exists_target_of_foldl_addLink (t := unlinked entries actions docs anchor root)
    (wantedLinks entries actions) id i with heq | ⟨c, heq⟩
  · exact hplain (heq ▸ h)
  · rw [linked, heq] at h
    obtain ⟨o', ho', rfl⟩ := Option.map_eq_some_iff.1 h
    obtain ⟨e, text, he, hi, ht, hd, hf⟩ := hplain ho'
    exact ⟨e, text, he, hi, ht, hd, hf⟩

/-- What holds of every menu without links, and is not lost when a menu gets a parent or
a link, holds of every menu of a tree that is built. -/
theorem every_of_build? {Q : Menu → Prop} (hparent : ∀ m p, Q m → Q (m.withParent p))
    (hlink : ∀ m i c, Q m → Q (m.withLink i c))
    (hplain : ∀ texts, texts ≠ [] → Q (plainMenu actions docs anchor texts)) {rootKey : String}
    {t : MenuTree} (h : build? entries rootKey actions docs anchor = some t) : t.Every Q := by
  obtain ⟨root, _, _, hget⟩ := option?_of_build? h
  exact fun id m hm => every_linked hparent hlink hplain root id m (hget id m hm)

/-- No menu that is built is without options. -/
theorem options_ne_nil_of_build? {rootKey : String} {t : MenuTree}
    (h : build? entries rootKey actions docs anchor = some t) : t.Every (·.options ≠ []) :=
  every_of_build? (fun _ _ ho => ho)
    (fun m i c ho => by simpa [Menu.options_withLink] using ho)
    (fun _ ht => by simpa [plainMenu] using ht) h

/-- No option of a menu that is built is highlighted. -/
theorem unfocused_of_build? {rootKey : String} {t : MenuTree}
    (h : build? entries rootKey actions docs anchor = some t) {id : MenuId} {m : Menu}
    (hm : t.get? id = some m) {o : MenuOption} (ho : o ∈ m.options) : o.focused = false := by
  obtain ⟨root, _, _, hget⟩ := option?_of_build? h
  obtain ⟨i, hi⟩ := List.mem_iff_getElem?.1 ho
  rw [← option?_of_get? (hget id m hm)] at hi
  obtain ⟨_, _, _, _, _, _, hf⟩ := option?_linked_eq_some hi
  exact hf

/-- A tree that is built is well formed if no key is repeated. -/
theorem wellFormed_of_build? (hk : (entries.map (·.1)).Nodup) {rootKey : String} {t : MenuTree}
    (h : build? entries rootKey actions docs anchor = some t) : t.WellFormed := by
  refine ⟨rooted_of_build? h, options_ne_nil_of_build? h, fun id m hm => ?_⟩
  obtain ⟨root, _, _, hget⟩ := option?_of_build? h
  exact ((aligned_unlinked root _).foldl_addLink (inOrder_wantedLinks hk) id m (hget id m hm)).1

end MenuTree

end StructEdit
