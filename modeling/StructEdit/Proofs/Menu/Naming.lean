import Mathlib.Order.WellFoundedSet
import StructEdit.Proofs.Menu.Available
import StructEdit.Proofs.Menu.Refusals

/-!
# StructEdit.Proofs.Menu.Naming

Which of the keys that the root leads to have a menu. Keys name one another by their
options (`Names`), and of the keys that name a key the first one gets the link to its
menu, whether the root leads to it or not (`isChild_linked_iff`). Main statement:
`hasMenu_of_build?`, a key has a menu just when each key on a way from the root is the
first to name the next one; all keys that the root leads to have menus if they are first
named by one another and not in a circle.
-/

namespace StructEdit

namespace Entries

variable {es : Entries} {actions : String → Option Selection} {rootKey : String} {k l : String}

/-- A key has another one for an option. No action is bound to the other key, it is not
the root, and it has options. -/
structure Names (es : Entries) (actions : String → Option Selection) (rootKey k l : String) :
    Prop where
  ne : k ≠ l
  ne_root : l ≠ rootKey
  free : actions l = none
  options_ne_nil : es.options l ≠ []
  mem : l ∈ es.options k

/-- The root leads to a key, from each key on the way to one that it names. -/
def Reached (es : Entries) (actions : String → Option Selection) (rootKey key : String) : Prop :=
  Relation.ReflTransGen (es.Names actions rootKey) rootKey key

/-- The first other key that has a key for an option. -/
def firstNamer? (es : Entries) (key : String) : Option String :=
  (es.find? fun e => e.1 != key && e.2.contains key).map (·.1)

/-- A key is the first one to name another one. -/
structure FirstNames (es : Entries) (actions : String → Option Selection)
    (rootKey k l : String) : Prop extends es.Names actions rootKey k l where
  first : es.firstNamer? l = some k

/-- The root leads to a key, from each key on the way to one that it is the first to name. -/
def FirstReached (es : Entries) (actions : String → Option Selection) (rootKey key : String) :
    Prop :=
  Relation.ReflTransGen (es.FirstNames actions rootKey) rootKey key

/-- Options are those of an entry. -/
theorem mem_of_mem_options (h : l ∈ es.options k) : (k, es.options k) ∈ es := by
  unfold options at h ⊢
  cases hk : es.lookup k with
  | none => simp [hk] at h
  | some texts =>
    obtain ⟨before, after, rfl, _⟩ := List.lookup_eq_some_iff.1 hk
    simp

theorem firstNamer?_eq_some_iff : es.firstNamer? l = some k ↔
    ∃ before e after, es = before ++ e :: after ∧ e.1 = k ∧ k ≠ l ∧ l ∈ e.2 ∧
      ∀ d ∈ before, l ∈ d.2 → d.1 = l := by
  simp only [firstNamer?, Option.map_eq_some_iff, List.find?_eq_some_iff_append]
  grind

/-- The first key to name a key names it. -/
theorem Names.of_firstNamer? (hk : (es.map (·.1)).Nodup) {f : String}
    (h : es.Names actions rootKey k l) (hf : es.firstNamer? l = some f) :
    es.FirstNames actions rootKey f l := by
  obtain ⟨before, e, after, rfl, rfl, hne, hmem, _⟩ := firstNamer?_eq_some_iff.1 hf
  have he : (e.1, e.2) ∈ before ++ e :: after := by simp
  exact ⟨⟨hne, h.ne_root, h.free, h.options_ne_nil, options_of_mem hk he ▸ hmem⟩, hf⟩

/-- A key that is named is named by a first one. -/
theorem Names.exists_firstNamer? (h : es.Names actions rootKey k l) :
    ∃ f, es.firstNamer? l = some f := by
  rw [← Option.isSome_iff_exists, firstNamer?, Option.isSome_map, List.find?_isSome]
  exact ⟨_, mem_of_mem_options h.mem, by simpa using ⟨h.ne, h.mem⟩⟩

/-- A key that the root leads to is led to by first namings as well, if the keys that it
leads to are first named by one another and not in a circle. -/
theorem Reached.of_acyclic (hk : (es.map (·.1)).Nodup)
    (hfirst : ∀ k l f, es.Reached actions rootKey k → es.Names actions rootKey k l →
      es.firstNamer? l = some f → es.Reached actions rootKey f)
    (hacyclic : ∀ k, es.Reached actions rootKey k →
      ¬ Relation.TransGen (es.Names actions rootKey) k k)
    {key : String} (h : es.Reached actions rootKey key) :
    es.FirstReached actions rootKey key := by
  -- leading to a key is a strict order on the keys that the root leads to, and there are
  -- finitely many of them
  let r : String → String → Prop := fun k l =>
    es.Reached actions rootKey k ∧ Relation.TransGen (es.Names actions rootKey) k l
  have : IsStrictOrder String r :=
    { irrefl k hr := hacyclic k hr.1 hr.2
      trans _ _ _ hkl hlm := ⟨hkl.1, hkl.2.trans hlm.2⟩ }
  have hstep l (hl : es.Reached actions rootKey l)
      (ih : ∀ f ∈ es.map (·.1), r f l → es.FirstReached actions rootKey f) :
      es.FirstReached actions rootKey l := by
    rcases Relation.ReflTransGen.cases_tail hl with heq | ⟨k, hk', hnames⟩
    · exact heq ▸ .refl
    · obtain ⟨f, hf⟩ := hnames.exists_firstNamer?
      have hnamed := hnames.of_firstNamer? hk hf
      have hkey : f ∈ es.map (·.1) := List.mem_map_of_mem (mem_of_mem_options hnamed.mem)
      exact (ih f hkey ⟨hfirst k l f hk' hnames hf, .single hnamed.toNames⟩).tail hnamed
  have hfinite : {k | k ∈ es.map (·.1)}.Finite := List.finite_toSet _
  refine hstep key h fun f hf hr => ?_
  refine (hfinite.wellFoundedOn (r := r)).induction
    (P := fun f => es.Reached actions rootKey f → es.FirstReached actions rootKey f) hf ?_ hr.1
  exact fun l _ ih hl => hstep l hl fun f hf hr => ih f hf hr hr.1

end Entries

namespace MenuTree

section Linking

variable {entries : Entries} {actions : String → Option Selection}
  {docs : String → Option String} {anchor : Anchor} {rootKey k l : String} {root p c : MenuId}

/-! ## The first link to a menu -/

/-- A key names another one just when a link is asked for from the menu of the one to that
of the other, which is another menu and not the root. -/
theorem names_iff (hk : (entries.map (·.1)).Nodup) (hroot : keyId? entries rootKey = some root)
    (hp : keyId? entries k = some p) (hc : keyId? entries l = some c) :
    entries.Names actions rootKey k l ↔ p ≠ c ∧ c ≠ root ∧
      ∃ w ∈ wantedLinks entries actions, w.parent = p ∧ w.child = c := by
  rw [Ne, keyId?_inj hp hc, Ne, keyId?_inj hc hroot]
  constructor
  · intro h
    obtain ⟨i, hi⟩ := List.mem_iff_getElem?.1 h.mem
    have hmem := Entries.mem_of_mem_options h.mem
    exact ⟨h.ne, h.ne_root, ⟨p, i, c⟩,
      mem_wantedLinks_iff.2 ⟨_, hmem, hp, l, hi, h.free, hc⟩, rfl, rfl⟩
  · rintro ⟨hne, hne_root, w, hw, rfl, rfl⟩
    obtain ⟨e, he, hep, text, htext, hfree, hchild⟩ := mem_wantedLinks_iff.1 hw
    obtain rfl := keyId?_injective hep hp
    obtain rfl := keyId?_injective hchild hc
    refine ⟨hne, hne_root, hfree, ?_, ?_⟩
    · rw [Ne, ← keyId?_eq_none_iff hk, hc]
      simp
    · exact Entries.options_of_mem hk he ▸ List.mem_of_getElem? htext

/-- The first link that is asked for to a menu from another one. -/
def firstLink? (entries : Entries) (actions : String → Option Selection) (c : MenuId) :
    Option Link :=
  (wantedLinks entries actions).find? fun w => w.child == c && w.parent != c

/-- The first link to a menu is asked for by the first key that names the key of the menu. -/
theorem exists_firstNamer?_of_firstLink? {w : Link} (hc : keyId? entries l = some c)
    (hw : firstLink? entries actions c = some w) :
    ∃ k, entries.firstNamer? l = some k ∧ keyId? entries k = some w.parent := by
  rw [firstLink?, wantedLinks_eq_flatMap, List.find?_flatMap, List.findSome?_eq_some_iff] at hw
  obtain ⟨before, e, after, hes, hw, hbefore⟩ := hw
  have hlink := List.find?_some hw
  obtain ⟨hp, text, htext, hfree, hchild⟩ := mem_linksOf_iff.1 (List.mem_of_find?_eq_some hw)
  simp only [Bool.and_eq_true, beq_iff_eq, bne_iff_ne] at hlink
  obtain ⟨rfl, hne⟩ := hlink
  obtain rfl := keyId?_injective hc hchild
  refine ⟨e.1, Entries.firstNamer?_eq_some_iff.2 ⟨before, e, after, hes, rfl, ?_,
    List.mem_of_getElem? htext, fun d hd hmem => ?_⟩, hp⟩
  · rwa [Ne, keyId?_inj hp hc] at hne
  · -- another entry before it would ask for a link as well
    by_contra hdl
    obtain ⟨i, hi⟩ := List.mem_iff_getElem?.1 hmem
    obtain ⟨q, hq⟩ := exists_keyId? (hes ▸ List.mem_append_left _ hd) (List.ne_nil_of_mem hmem)
    have hasked : ⟨q, i, w.child⟩ ∈ linksOf entries actions d :=
      mem_linksOf_iff.2 ⟨hq, l, hi, hfree, hc⟩
    have hself := List.find?_eq_none.1 (hbefore d hd) _ hasked
    rw [← keyId?_inj hq hc] at hdl
    simp [hdl] at hself

/-- A link that is made leads to a child. -/
theorem isChild_of_isMade (hk : (entries.map (·.1)).Nodup) {earlier later : List Link} {w : Link}
    (hls : wantedLinks entries actions = earlier ++ w :: later)
    (hmade : (unlinked entries actions docs anchor root).IsMade earlier w) :
    (linked entries actions docs anchor root).IsChild w.parent w.child := by
  have hw : w ∈ wantedLinks entries actions := by simp [hls]
  obtain ⟨e, he, hp, text, htext, _⟩ := mem_wantedLinks_iff.1 hw
  have hlinked := (option?_linked_of_asked hk he hp htext hls).1 hmade
  obtain ⟨m, hm, ho⟩ := Option.bind_eq_some_iff.1 hlinked
  refine isChild_of_get? hm ?_
  rw [((aligned_unlinked root _).foldl_addLink (inOrder_wantedLinks hk) _ m hm).1]
  exact List.mem_filterMap.2 ⟨_, List.mem_of_getElem? ho, rfl⟩

variable (docs anchor) in
/-- The first link to a menu other than the root is made. -/
theorem isMade_of_firstLink? {w : Link} (hroot : c ≠ root)
    (hw : firstLink? entries actions c = some w) :
    w.child = c ∧ ∃ earlier later, wantedLinks entries actions = earlier ++ w :: later ∧
      (unlinked entries actions docs anchor root).IsMade earlier w := by
  obtain ⟨hlink, earlier, later, hls, hearlier⟩ := List.find?_eq_some_iff_append.1 hw
  simp only [Bool.and_eq_true, beq_iff_eq, bne_iff_ne] at hlink
  obtain ⟨rfl, hne⟩ := hlink
  refine ⟨rfl, earlier, later, hls, hne.symm, hroot, ?_, fun k hk heq => ?_⟩
  · obtain ⟨_, _, _, _, _, _, hc⟩ := mem_wantedLinks_iff.1 (List.mem_of_find?_eq_some hw)
    obtain ⟨d, hd, _⟩ := keyId?_eq_some_iff.1 hc
    exact ⟨_, by rw [get?_unlinked, hd]; rfl, rfl⟩
  · have hself := hearlier k hk
    simp only [heq, beq_self_eq_true, Bool.true_and, Bool.not_eq_true',
      bne_eq_false_iff_eq] at hself
    exact heq.trans hself.symm

theorem isChild_of_firstLink? (hk : (entries.map (·.1)).Nodup) {w : Link} (hroot : c ≠ root)
    (hw : firstLink? entries actions c = some w) :
    (linked entries actions docs anchor root).IsChild w.parent c := by
  obtain ⟨rfl, _, _, hls, hmade⟩ := isMade_of_firstLink? docs anchor hroot hw
  exact isChild_of_isMade hk hls hmade

/-- The menu of a key that is named is a child of the menu of the first key that names it. -/
theorem exists_isChild_of_names (hk : (entries.map (·.1)).Nodup)
    (hroot : keyId? entries rootKey = some root) (hc : keyId? entries l = some c)
    (h : entries.Names actions rootKey k l) : ∃ f q, entries.firstNamer? l = some f ∧
      keyId? entries f = some q ∧ (linked entries actions docs anchor root).IsChild q c := by
  obtain ⟨p, hp⟩ := exists_keyId? (Entries.mem_of_mem_options h.mem) (List.ne_nil_of_mem h.mem)
  obtain ⟨hne, hcroot, v, hv, rfl, rfl⟩ := (names_iff hk hroot hp hc).1 h
  have hfirst : (firstLink? entries actions v.child).isSome :=
    List.find?_isSome.2 ⟨v, hv, by simp [hne]⟩
  obtain ⟨w, hw⟩ := Option.isSome_iff_exists.1 hfirst
  obtain ⟨f, hf, hq⟩ := exists_firstNamer?_of_firstLink? hc hw
  exact ⟨f, w.parent, hf, hq, isChild_of_firstLink? hk hcroot hw⟩

/-- A menu is a child of another one just when the key of the other is the first to name its
key. -/
theorem isChild_linked_iff (hk : (entries.map (·.1)).Nodup)
    (hroot : keyId? entries rootKey = some root) (hp : keyId? entries k = some p)
    (hc : keyId? entries l = some c) :
    (linked entries actions docs anchor root).IsChild p c ↔
      entries.FirstNames actions rootKey k l := by
  have hforest : (linked entries actions docs anchor root).Forest := forest_linked hroot
  constructor
  · intro hchild
    have hcroot : c ≠ root := by
      have := hforest.ne_root_of_isChild hchild
      rwa [linked, root_foldl_addLink] at this
    have hnames : entries.Names actions rootKey k l := by
      obtain hplain | ⟨w, hw, hwp, hwc, hne⟩ := isChild_foldl_addLink hchild
      · simp [IsChild, children_unlinked] at hplain
      · exact (names_iff hk hroot hp hc).2 ⟨hne.symm, hcroot, w, hw, hwp, hwc⟩
    obtain ⟨f, q, hf, hq, hqc⟩ := exists_isChild_of_names hk hroot hc hnames
    obtain rfl := hforest.parent_unique hchild hqc
    obtain rfl := keyId?_injective hp hq
    exact ⟨hnames, hf⟩
  · intro h
    obtain ⟨f, q, hf, hq, hqc⟩ := exists_isChild_of_names hk hroot hc h.toNames
    obtain rfl := Option.some.inj (h.first.symm.trans hf)
    obtain rfl := Option.some.inj (hp.symm.trans hq)
    exact hqc

/-- The menus that are linked to below the root are those of the keys that it leads to by
first namings. -/
theorem below_linked_iff (hk : (entries.map (·.1)).Nodup)
    (hroot : keyId? entries rootKey = some root) (hc : keyId? entries l = some c) :
    (linked entries actions docs anchor root).Below root c ↔
      entries.FirstReached actions rootKey l := by
  constructor
  · intro h
    induction h generalizing l with
    | refl => exact keyId?_injective hroot hc ▸ .refl
    | tail _ hchild ih =>
      obtain hplain | ⟨w, hw, rfl, _⟩ := isChild_foldl_addLink hchild
      · simp [IsChild, children_unlinked] at hplain
      obtain ⟨e, _, hp, _⟩ := mem_wantedLinks_iff.1 hw
      exact (ih hp).tail ((isChild_linked_iff hk hroot hp hc).1 hchild)
  · intro h
    induction h generalizing c with
    | refl => exact Option.some.inj (hroot.symm.trans hc) ▸ .refl
    | tail _ hnames ih =>
      obtain ⟨p, hp⟩ := exists_keyId? (Entries.mem_of_mem_options hnames.mem)
        (List.ne_nil_of_mem hnames.mem)
      exact (ih hp).tail ((isChild_linked_iff hk hroot hp hc).2 hnames)

end Linking

/-! ## Keys with a menu -/

/-- The menu of a key is in a tree. -/
def HasMenu (t : MenuTree) (entries : Entries) (key : String) : Prop :=
  ∃ id m, keyId? entries key = some id ∧ t.get? id = some m

variable {entries : Entries} {actions : String → Option Selection}
  {docs : String → Option String} {anchor : Anchor} {rootKey key : String} {t : MenuTree}

theorem hasMenu_iff (hk : (entries.map (·.1)).Nodup)
    (h : build? entries rootKey actions docs anchor = some t) :
    t.HasMenu entries key ↔ entries.FirstReached actions rootKey key := by
  obtain ⟨root, hroot, rfl⟩ := build?_eq_some_iff.1 h
  have hforest : (linked entries actions docs anchor root).Forest := forest_linked hroot
  have htop : (linked entries actions docs anchor root).root = root := root_foldl_addLink _
  constructor
  · rintro ⟨id, m, hid, hm⟩
    rw [get?_restrict] at hm
    split at hm
    · next hmem =>
      rw [hforest.mem_preorder_iff, htop] at hmem
      exact (below_linked_iff hk hroot hid).1 hmem
    · contradiction
  · intro hkey
    have hid : ∃ id, keyId? entries key = some id := by
      cases hkey with
      | refl => exact ⟨root, hroot⟩
      | tail _ hnames =>
        rw [← Option.ne_none_iff_exists', Ne, keyId?_eq_none_iff hk]
        exact hnames.options_ne_nil
    obtain ⟨id, hid⟩ := hid
    have hbelow : (linked entries actions docs anchor root).Below
        (linked entries actions docs anchor root).root id := by
      rw [htop]
      exact (below_linked_iff hk hroot hid).2 hkey
    obtain ⟨m, hm⟩ := hforest.live_of_below_root hbelow
    exact ⟨id, m, hid, by rw [get?_restrict, if_pos (hforest.mem_preorder_iff.2 hbelow), hm]⟩

/-- The keys with a menu are those that the root leads to through keys each of which is the
first to name the next one. These are all that it leads to, if the keys that it leads to
are first named by one another and not in a circle. -/
theorem hasMenu_of_build? (hk : (entries.map (·.1)).Nodup)
    (h : build? entries rootKey actions docs anchor = some t) :
    (∀ key, t.HasMenu entries key ↔ entries.FirstReached actions rootKey key) ∧
      ((∀ k l f, entries.Reached actions rootKey k → entries.Names actions rootKey k l →
          entries.firstNamer? l = some f → entries.Reached actions rootKey f) →
        (∀ k, entries.Reached actions rootKey k →
          ¬ Relation.TransGen (entries.Names actions rootKey) k k) →
        ∀ key, entries.Reached actions rootKey key → t.HasMenu entries key) :=
  ⟨fun _ => hasMenu_iff hk h, fun hfirst hacyclic _ hreached =>
    (hasMenu_iff hk h).2 (hreached.of_acyclic hk hfirst hacyclic)⟩

/-- A category that two others name has a menu. -/
theorem hasMenu_of_shared :
    let entries : Entries := [("Top", ["A", "B"]), ("A", ["Shared", "a"]), ("B", ["Shared", "b"]),
      ("Shared", ["s"])]
    (entries.map (·.1)).Nodup ∧ ∃ t,
      build? entries "Top" (fun _ => none) (fun _ => none) ⟨0, 0⟩ = some t ∧
      ∀ key ∈ ["Top", "A", "B", "Shared"], t.HasMenu entries key := by
  intro entries
  have hk : (entries.map (·.1)).Nodup := by decide
  obtain ⟨t, ht⟩ := Option.isSome_iff_exists.1
    (show (build? entries "Top" (fun _ => none) (fun _ => none) ⟨0, 0⟩).isSome = true by decide)
  let names := entries.Names (fun _ => none) "Top"
  have hA : names "Top" "A" := ⟨by decide, by decide, rfl, by decide, by decide⟩
  have hB : names "Top" "B" := ⟨by decide, by decide, rfl, by decide, by decide⟩
  have hshared : names "A" "Shared" := ⟨by decide, by decide, rfl, by decide, by decide⟩
  have hreached : ∀ key ∈ ["Top", "A", "B", "Shared"],
      entries.Reached (fun _ => none) "Top" key := by
    simp only [List.forall_mem_cons]
    exact ⟨.refl, .single hA, .single hB, .tail (.single hA) hshared, by simp⟩
  -- every entry is listed before those that it names
  let place := (entries.map (·.1)).idxOf
  have hplace : ∀ e ∈ entries, ∀ l ∈ e.2, entries.options l ≠ [] → place e.1 < place l ∧
      (entries.firstNamer? l).all (· ∈ entries.map (·.1)) = true := by decide
  have hnamed {k l} (h : names k l) :=
    hplace _ (Entries.mem_of_mem_options h.mem) l h.mem h.options_ne_nil
  refine ⟨hk, t, ht, fun key hkey => (hasMenu_of_build? hk ht).2 ?_ ?_ key (hreached key hkey)⟩
  · intro k l f _ h hf
    have hmem := (hnamed h).2
    rw [hf, Option.all_some, decide_eq_true_iff] at hmem
    exact hreached f hmem
  · intro k _ hcircle
    have hlt {l m} (h : Relation.TransGen names l m) : place l < place m := by
      induction h with
      | single h => exact (hnamed h).1
      | tail _ h ih => exact ih.trans (hnamed h).1
    exact (hlt hcircle).false

/-- A key is lost when the first other key that names it is not led to by the root. -/
theorem lost_of_unreached :
    ¬ ∀ (entries : Entries) (rootKey : String) (actions : String → Option Selection)
      (docs : String → Option String) (anchor : Anchor) (t : MenuTree),
      (entries.map (·.1)).Nodup → build? entries rootKey actions docs anchor = some t →
      ∀ key, entries.Reached actions rootKey key → t.HasMenu entries key := by
  intro h
  let entries : Entries := [("Apart", ["A"]), ("Top", ["A", "x"]), ("A", ["y", "z"])]
  have hnames : entries.Names (fun _ => none) "Top" "Top" "A" :=
    ⟨by decide, by decide, rfl, by decide, by decide⟩
  obtain ⟨t, ht⟩ := Option.isSome_iff_exists.1
    (show (build? entries "Top" (fun _ => none) (fun _ => none) ⟨0, 0⟩).isSome = true by decide)
  obtain ⟨id, m, hid, hm⟩ := h entries "Top" (fun _ => none) (fun _ => none) ⟨0, 0⟩ t (by decide)
    ht "A" (.single hnames)
  have hid2 : keyId? entries "A" = some 2 := by decide
  obtain rfl := Option.some.inj (hid2.symm.trans hid)
  have hgone : (build? entries "Top" (fun _ => none) (fun _ => none) ⟨0, 0⟩).bind (·.get? 2) =
      none := by decide
  rw [ht, Option.bind_some, hm] at hgone
  contradiction

end MenuTree

end StructEdit
