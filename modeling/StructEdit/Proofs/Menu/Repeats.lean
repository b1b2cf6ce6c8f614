import StructEdit.Proofs.Menu.Classification
import StructEdit.Proofs.Menu.Resembling

/-!
# StructEdit.Proofs.Menu.Repeats

Entries that repeat a key. No menu is made of such an entry (`menuEntries_dropRepeats`), but
its options ask for links, which are made in the menu of the first entry of the key. Main
statement: `build?_dropRepeats`, the repeats make no difference just where none of them is the
first to name the key of a menu.
-/

namespace StructEdit

namespace Entries

variable {es before after : Entries} {e : String × List String} {key : String}

/-- A key has options in one of the entries. -/
def hasOptions (es : Entries) (key : String) : Bool := es.any fun e => e.1 == key && !e.2.isEmpty

/-- Entries that come after others, without those whose key has options in one of the others
or in an entry before. -/
def dropRepeatsAfter (before : Entries) : Entries → Entries
  | [] => []
  | e :: es =>
    if before.hasOptions e.1 then dropRepeatsAfter (before ++ [e]) es
    else e :: dropRepeatsAfter (before ++ [e]) es

/-- The entries without those whose key has options in an entry before. -/
def dropRepeats (es : Entries) : Entries := dropRepeatsAfter [] es

theorem dropRepeatsAfter_concat (before es : Entries) (e : String × List String) :
    dropRepeatsAfter before (es ++ [e]) =
      dropRepeatsAfter before es ++ if (before ++ es).hasOptions e.1 then [] else [e] := by
  induction es generalizing before with
  | nil => simp [dropRepeatsAfter]
  | cons d es ih =>
    simp only [List.cons_append, dropRepeatsAfter, ih, List.append_assoc, List.nil_append]
    split <;> rfl

theorem dropRepeats_concat (es : Entries) (e : String × List String) :
    (es ++ [e]).dropRepeats =
      if es.hasOptions e.1 then es.dropRepeats else es.dropRepeats ++ [e] := by
  rw [dropRepeats, dropRepeatsAfter_concat, List.nil_append]
  split
  · rw [List.append_nil, dropRepeats]
  · rfl

theorem hasOptions_append_left (h : before.hasOptions key = true) :
    (before ++ after).hasOptions key = true := by
  rw [hasOptions, List.any_append, Bool.or_eq_true]
  exact .inl h

/-- An entry is left when no entry before it has options for its key. -/
theorem exists_of_mem_dropRepeatsAfter {done : Entries} (h : e ∈ dropRepeatsAfter done es) :
    ∃ before after, es = before ++ e :: after ∧ (done ++ before).hasOptions e.1 = false := by
  induction es generalizing done with
  | nil => simp [dropRepeatsAfter] at h
  | cons d es ih =>
    have hlater (h : e ∈ dropRepeatsAfter (done ++ [d]) es) : ∃ before after,
        d :: es = before ++ e :: after ∧ (done ++ before).hasOptions e.1 = false := by
      obtain ⟨before, after, rfl, hfirst⟩ := ih h
      exact ⟨d :: before, after, rfl, by simpa using hfirst⟩
    rw [dropRepeatsAfter] at h
    split at h
    · exact hlater h
    · next hd =>
      rcases List.mem_cons.1 h with rfl | h
      · exact ⟨[], es, rfl, by simpa using hd⟩
      · exact hlater h

/-- An entry that is left stands before those that repeat its key. -/
theorem mem_of_mem_dropRepeats {d : String × List String} (h : d ∈ es.dropRepeats)
    (hes : es = before ++ e :: after) (hrepeat : before.hasOptions e.1 = true)
    (hd : d.1 = e.1) : d ∈ before := by
  obtain ⟨front, back, heq, hfirst⟩ := exists_of_mem_dropRepeatsAfter h
  rw [List.nil_append, hd] at hfirst
  rw [hes] at heq
  rcases List.append_eq_append_iff.1 heq with ⟨between, hfront, _⟩ | ⟨between, rfl, hbetween⟩
  · rw [hfront, hasOptions_append_left hrepeat] at hfirst
    contradiction
  · cases between with
    | nil =>
      rw [List.append_nil, hfirst] at hrepeat
      contradiction
    | cons c between =>
      rw [List.cons_append, List.cons.injEq] at hbetween
      simp [hbetween.1]

end Entries

namespace MenuTree

variable {entries : Entries} {actions : String → Option Selection}
  {docs : String → Option String} {anchor : Anchor} {rootKey name : String}
  {root c : MenuId}

/-! ## The menus are the same -/

theorem firstOfEachKey_concat (es : List (String × α)) (e : String × α) :
    firstOfEachKey (es ++ [e]) =
      if e.1 ∈ es.map (·.1) then firstOfEachKey es else firstOfEachKey es ++ [e] := by
  induction es with
  | nil => rfl
  | cons d es ih =>
    rw [List.cons_append, firstOfEachKey, firstOfEachKey, ih]
    by_cases hkey : e.1 ∈ es.map (·.1)
    · have hmem : e.1 ∈ (d :: es).map (·.1) := List.mem_cons_of_mem _ hkey
      rw [if_pos hkey, if_pos hmem]
    · rw [if_neg hkey, List.filter_append]
      by_cases hd : e.1 = d.1
      · have hmem : e.1 ∈ (d :: es).map (·.1) := by simp [hd]
        rw [if_pos hmem]
        simp [hd]
      · have hmem : e.1 ∉ (d :: es).map (·.1) := by simp_all
        rw [if_neg hmem]
        simp [hd]

theorem hasOptions_iff {es : Entries} {key : String} :
    es.hasOptions key = true ↔ key ∈ (es.filter fun e => !e.2.isEmpty).map (·.1) := by
  simp only [Entries.hasOptions, List.any_eq_true, Bool.and_eq_true, beq_iff_eq, List.mem_map,
    List.mem_filter]
  exact ⟨fun ⟨e, he, hkey, ho⟩ => ⟨e, ⟨he, ho⟩, hkey⟩, fun ⟨e, ⟨he, ho⟩, hkey⟩ => ⟨e, he, hkey, ho⟩⟩

/-- A key has options just when a menu is made of an entry of it. -/
theorem hasOptions_iff_menuEntries {es : Entries} {key : String} :
    es.hasOptions key = true ↔ key ∈ (menuEntries es).map (·.1) := by
  rw [hasOptions_iff]
  refine ⟨mem_keys_firstOfEachKey, fun h => ?_⟩
  obtain ⟨e, he, rfl⟩ := List.mem_map.1 h
  exact List.mem_map_of_mem (mem_of_mem_firstOfEachKey he)

theorem menuEntries_concat (es : Entries) (e : String × List String) :
    menuEntries (es ++ [e]) =
      if es.hasOptions e.1 = true ∨ e.2 = [] then menuEntries es else menuEntries es ++ [e] := by
  unfold menuEntries
  rw [List.filter_append]
  by_cases ho : e.2 = []
  · simp [ho]
  · have hlast : [e].filter (fun e => !e.2.isEmpty) = [e] := by simp [ho]
    simp only [hlast, firstOfEachKey_concat, ← hasOptions_iff, ho, or_false]

/-- An entry that repeats a key makes no menu. -/
theorem menuEntries_dropRepeats (es : Entries) : menuEntries es.dropRepeats = menuEntries es := by
  induction es using List.reverseRecOn with
  | nil => rfl
  | append_singleton es e ih =>
    have hsame : Entries.hasOptions (Entries.dropRepeats es) e.1 = true ↔
        Entries.hasOptions es e.1 = true := by
      rw [hasOptions_iff_menuEntries, hasOptions_iff_menuEntries, ih]
    rw [Entries.dropRepeats_concat, menuEntries_concat]
    split
    · next hrepeat => rw [ih, if_pos (.inl hrepeat)]
    · simp only [menuEntries_concat, hsame, ih]

theorem keyId?_dropRepeats (entries : Entries) (key : String) :
    keyId? entries.dropRepeats key = keyId? entries key := by
  rw [keyId?, keyId?, menuEntries_dropRepeats]

theorem linksOf_dropRepeats (entries : Entries) :
    linksOf entries.dropRepeats actions = linksOf entries actions := by
  funext e
  simp only [linksOf, keyId?_dropRepeats]

theorem unlinked_dropRepeats (entries : Entries) :
    unlinked entries.dropRepeats actions docs anchor root =
      unlinked entries actions docs anchor root := by
  rw [unlinked, unlinked, menuEntries_dropRepeats]

/-! ## The links are the same but for those to some menus -/

/-- The key of a menu is first named by another key, or by none, when no key is repeated. -/
def IsRenamed (entries : Entries) (rootKey : String) (c : MenuId) : Prop :=
  ∃ name, keyId? entries name = some c ∧ name ≠ rootKey ∧
    entries.dropRepeats.firstNamer? name ≠ entries.firstNamer? name

/-- A link that an entry makes by repeating a key is to a menu whose key no other entry names
first without it. -/
theorem isRenamed_of_isMade {done rest : Entries} {e : String × List String} {l : Link}
    (hroot : keyId? entries rootKey = some root) (hes : entries = done ++ e :: rest)
    (hrepeat : done.hasOptions e.1 = true) (hl : l ∈ linksOf entries actions e)
    (hmade : (unlinked entries actions docs anchor root).IsMade
      (done.flatMap (linksOf entries actions)) l) : IsRenamed entries rootKey l.child := by
  obtain ⟨hp, name, hi, hfree, hc⟩ := mem_linksOf_iff.1 hl
  have hdone d (hd : d ∈ done) (ho : d.2 ≠ []) : ∃ q, keyId? entries d.1 = some q :=
    exists_keyId? (hes ▸ List.mem_append_left _ hd) ho
  obtain ⟨hne, hname, hnone⟩ := (isMade_unlinked_iff hdone hroot hp hfree hc).1 hmade
  have hunnamed := Entries.firstNamer?_eq_none_iff.1 hnone
  have hfirst : entries.firstNamer? name = some e.1 :=
    Entries.firstNamer?_eq_some_iff.2 ⟨done, e, rest, hes, rfl, Ne.symm hne,
      List.mem_of_getElem? hi, hunnamed⟩
  refine ⟨name, hc, hname, fun heq => ?_⟩
  -- an entry of the same key that is left stands before, where none names the key
  rw [hfirst] at heq
  obtain ⟨front, d, back, hkept, hd, _, hmem, _⟩ := Entries.firstNamer?_eq_some_iff.1 heq
  have hleft : d ∈ entries.dropRepeats := by simp [hkept]
  have hbefore : d ∈ done := Entries.mem_of_mem_dropRepeats hleft hes hrepeat hd
  exact hne ((hunnamed d hbefore hmem).symm.trans hd)

/-- Up to each entry, the links that are made with the repeats before it and without them
are the same but for those to some menus. -/
theorem resembles_foldl_dropRepeats (hroot : keyId? entries rootKey = some root)
    {done rest : Entries} (hes : entries = done ++ rest) :
    Resembles (IsRenamed entries rootKey)
      ((done.flatMap (linksOf entries actions)).foldl addLink
        (unlinked entries actions docs anchor root))
      ((done.dropRepeats.flatMap (linksOf entries actions)).foldl addLink
        (unlinked entries actions docs anchor root)) := by
  induction done using List.reverseRecOn generalizing rest with
  | nil => exact .refl _
  | append_singleton done e ih =>
    have hsplit : entries = done ++ e :: rest := by simpa using hes
    rw [Entries.dropRepeats_concat, List.flatMap_append, List.flatMap_singleton,
      List.foldl_append]
    split
    · next hrepeat =>
      -- a repeat adds links on one side only, and each that is made is to a renamed menu
      refine (ih hsplit).foldl_addLink_left fun earlier l later heq hlink => ?_
      rw [← List.foldl_append, isLinkable_foldl_addLink] at hlink
      have hmade : (unlinked entries actions docs anchor root).IsMade
          (done.flatMap (linksOf entries actions)) l :=
        ⟨hlink.1, hlink.2.1, hlink.2.2.1, fun k hk =>
          hlink.2.2.2 k (List.mem_append_left _ hk)⟩
      exact isRenamed_of_isMade hroot hsplit hrepeat (by simp [heq]) hmade
    · rw [List.flatMap_append, List.flatMap_singleton, List.foldl_append]
      exact (ih hsplit).foldl_addLink _

theorem resembles_linked (hroot : keyId? entries rootKey = some root) :
    Resembles (IsRenamed entries rootKey) (linked entries actions docs anchor root)
      (linked entries.dropRepeats actions docs anchor root) := by
  rw [linked, linked, wantedLinks_eq_flatMap, wantedLinks_eq_flatMap, linksOf_dropRepeats,
    unlinked_dropRepeats]
  exact resembles_foldl_dropRepeats hroot (List.append_nil entries).symm

/-! ## The trees -/

/-- The parent of a menu is the menu of the key that is the first to name its key, whether
keys are repeated or not. -/
theorem exists_firstNamer?_of_build? {t : MenuTree}
    (h : build? entries rootKey actions docs anchor = some t) {m : Menu}
    (hc : keyId? entries name = some c) (hm : t.get? c = some m) (hne : c ≠ t.root) :
    ∃ k p, entries.firstNamer? name = some k ∧ keyId? entries k = some p ∧ m.parent = some p := by
  obtain ⟨l, hl, rfl, hother⟩ := exists_wantedLink h hm hne
  obtain ⟨root, _, rfl, hget⟩ := option?_of_build? h
  have hfirst : (firstLink? entries actions l.child).isSome :=
    List.find?_isSome.2 ⟨l, hl, by simp [hother]⟩
  obtain ⟨w, hw⟩ := Option.isSome_iff_exists.1 hfirst
  obtain ⟨hwc, earlier, later, hls, hmade⟩ := isMade_of_firstLink? docs anchor hne hw
  obtain ⟨n, hn, hp⟩ := parent_of_isMade hmade later
  obtain ⟨k, hk, hkp⟩ := exists_firstNamer?_of_firstLink? hc hw
  rw [← hls, hwc] at hn
  have hmn : m = n := Option.some.inj ((hget _ m hm).symm.trans hn)
  exact ⟨k, w.parent, hk, hkp, hmn ▸ hp⟩

variable (actions docs anchor) in
theorem build?_of_keyId? (hroot : keyId? entries rootKey = some root) :
    build? entries rootKey actions docs anchor =
      some ((linked entries actions docs anchor root).restrict
        (linked entries actions docs anchor root).preorder) :=
  build?_eq_some_iff.2 ⟨root, hroot, rfl⟩

theorem Forest.hasMenu_restrict_preorder {t : MenuTree} (h : t.Forest)
    (hc : keyId? entries name = some c) (hbelow : t.Below t.root c) :
    (t.restrict t.preorder).HasMenu entries name := by
  obtain ⟨m, hm⟩ := h.live_of_below_root hbelow
  refine ⟨c, m, hc, ?_⟩
  rw [get?_restrict, if_pos (h.mem_preorder_iff.2 hbelow), hm]

/-- Where the tree is the same without repeats, so is the first key to name the key of a
menu. -/
theorem firstNamer?_dropRepeats_of_build? {t : MenuTree}
    (hfull : build? entries rootKey actions docs anchor = some t)
    (hkept : build? entries.dropRepeats rootKey actions docs anchor = some t)
    (hmenu : t.HasMenu entries name) (hname : name ≠ rootKey) :
    entries.dropRepeats.firstNamer? name = entries.firstNamer? name := by
  obtain ⟨c, m, hc, hm⟩ := hmenu
  have hne : c ≠ t.root := by
    obtain ⟨root, hroot, htop, _⟩ := option?_of_build? hfull
    rwa [htop, Ne, keyId?_inj hc hroot]
  have hc' : keyId? entries.dropRepeats name = some c := (keyId?_dropRepeats entries name).trans hc
  obtain ⟨k, p, hk, hkp, hp⟩ := exists_firstNamer?_of_build? hfull hc hm hne
  obtain ⟨l, q, hl, hlq, hq⟩ := exists_firstNamer?_of_build? hkept hc' hm hne
  -- both keys are that of the parent of the menu
  obtain rfl : p = q := Option.some.inj (hp.symm.trans hq)
  rw [keyId?_dropRepeats] at hlq
  rw [hk, hl, keyId?_injective hlq hkp]

/-- Where the first key to name the key of a menu is the same without repeats, so is the
tree. -/
theorem build?_dropRepeats_of_firstNamer? (hroot : keyId? entries rootKey = some root)
    (hsame : ∀ t name, (build? entries rootKey actions docs anchor = some t ∨
        build? entries.dropRepeats rootKey actions docs anchor = some t) →
      t.HasMenu entries name → name ≠ rootKey →
        entries.dropRepeats.firstNamer? name = entries.firstNamer? name) :
    build? entries.dropRepeats rootKey actions docs anchor =
      build? entries rootKey actions docs anchor := by
  have hroot' : keyId? entries.dropRepeats rootKey = some root :=
    (keyId?_dropRepeats entries rootKey).trans hroot
  have hforest : (linked entries actions docs anchor root).Forest := forest_linked hroot
  have hforest' : (linked entries.dropRepeats actions docs anchor root).Forest :=
    forest_linked hroot'
  have hfull := build?_of_keyId? actions docs anchor hroot
  have hkept := build?_of_keyId? actions docs anchor hroot'
  rw [hfull, hkept, (resembles_linked hroot).restrict_preorder_eq hforest hforest']
  · rintro c ⟨name, hc, hname, hdiff⟩ hbelow
    have hmenu := hforest.hasMenu_restrict_preorder hc hbelow
    exact hdiff (hsame _ name (.inl hfull) hmenu hname)
  · rintro c ⟨name, hc, hname, hdiff⟩ hbelow
    have hmenu := hforest'.hasMenu_restrict_preorder hc hbelow
    exact hdiff (hsame _ name (.inr hkept) hmenu hname)

/-- Entries that repeat a key make no difference to whether there is a tree. The tree is the
same without them just when each key with a menu in either tree, the root apart, is first
named by the same key without them. -/
theorem build?_dropRepeats (entries : Entries) (rootKey : String)
    (actions : String → Option Selection) (docs : String → Option String) (anchor : Anchor) :
    (build? entries.dropRepeats rootKey actions docs anchor).isSome =
        (build? entries rootKey actions docs anchor).isSome ∧
      (build? entries.dropRepeats rootKey actions docs anchor =
          build? entries rootKey actions docs anchor ↔
        ∀ t name, (build? entries rootKey actions docs anchor = some t ∨
            build? entries.dropRepeats rootKey actions docs anchor = some t) →
          t.HasMenu entries name → name ≠ rootKey →
            entries.dropRepeats.firstNamer? name = entries.firstNamer? name) := by
  refine ⟨by simp [build?, keyId?_dropRepeats], fun heq t name hbuilt => ?_, fun hsame => ?_⟩
  · rw [heq, or_self] at hbuilt
    exact firstNamer?_dropRepeats_of_build? hbuilt (heq.trans hbuilt)
  · cases hroot : keyId? entries rootKey with
    | none => simp [build?, keyId?_dropRepeats, hroot]
    | some root => exact build?_dropRepeats_of_firstNamer? hroot hsame

/-- Repeats of the key of the root that give the place of an option, to which an action is
bound, to two links one after the other. -/
theorem repeat_takes_option :
    ¬ ∀ (entries : Entries) (rootKey : String) (actions : String → Option Selection)
      (docs : String → Option String) (anchor : Anchor),
      build? entries rootKey actions docs anchor =
        build? entries.dropRepeats rootKey actions docs anchor := by
  intro h
  have heq := h [("Top", ["x", "y"]), ("A", ["a"]), ("B", ["b"]), ("Top", ["A"]), ("Top", ["B"])]
    "Top" (fun text => if text = "x" then some (.edit { intent := .undo }) else none)
    (fun _ => none) ⟨0, 0⟩
  exact absurd heq (by decide)

end MenuTree

end StructEdit
