import StructEdit.Proofs.Menu.Naming

/-!
# StructEdit.Proofs.Menu.Classification

What the options of the entries become: links to the menus that they name, or leaves. An
option that asks for a link gets it just when no option before it names the same key, the
options of that key itself apart (`isMade_unlinked_iff`), whether keys are repeated or not.
Main statement: `options_of_build?`, what each option of each menu of a tree is, if no key
is repeated.
-/

namespace StructEdit

namespace Entries

variable {es : Entries} {k l : String}

/-- No other key has a key for an option. -/
theorem firstNamer?_eq_none_iff :
    es.firstNamer? l = none ↔ ∀ e ∈ es, l ∈ e.2 → e.1 = l := by
  simp only [firstNamer?, Option.map_eq_none_iff, List.find?_eq_none, Bool.and_eq_true,
    bne_iff_ne, List.contains_iff_mem]
  grind

/-- The entries up to an option of one of them: those before its entry, and the options
before it. -/
def upTo (before : Entries) (e : String × List String) (i : Nat) : Entries :=
  before ++ [(e.1, e.2.take i)]

end Entries

namespace MenuTree

variable {entries before after : Entries} {actions : String → Option Selection}
  {docs : String → Option String} {anchor : Anchor} {rootKey text : String}
  {root p c : MenuId} {e : String × List String} {i : Nat}

/-! ## The links before a link -/

/-- The links that the options of an entry ask for, split at one of them. -/
theorem linksOf_eq_append (hp : keyId? entries e.1 = some p) (hi : e.2[i]? = some text)
    (hfree : actions text = none) (hc : keyId? entries text = some c) :
    ∃ later, linksOf entries actions e =
      linksOf entries actions (e.1, e.2.take i) ++ ⟨p, i, c⟩ :: later := by
  obtain ⟨hlt, rfl⟩ := List.getElem?_eq_some_iff.1 hi
  have hzip : e.2.zipIdx =
      (e.2.take i).zipIdx ++ (e.2[i], i) :: (e.2.drop (i + 1)).zipIdx (i + 1) := by
    have hlength : (e.2.take i).length = i := List.length_take_of_le (Nat.le_of_lt hlt)
    conv => enter [1, 1]; rw [← List.take_append_drop i e.2, List.drop_eq_getElem_cons hlt]
    rw [List.zipIdx_append, List.zipIdx_cons, hlength, Nat.zero_add]
  simp only [linksOf, hp, hzip, List.filterMap_append, List.filterMap_cons, hfree, hc,
    Option.map_some]
  exact ⟨_, rfl⟩

/-- The links that the options of the entries ask for, split at one of them. -/
theorem wantedLinks_eq_append (hes : entries = before ++ e :: after)
    (hp : keyId? entries e.1 = some p) (hi : e.2[i]? = some text) (hfree : actions text = none)
    (hc : keyId? entries text = some c) :
    ∃ later, wantedLinks entries actions =
      (Entries.upTo before e i).flatMap (linksOf entries actions) ++ ⟨p, i, c⟩ :: later := by
  obtain ⟨later, hlater⟩ := linksOf_eq_append hp hi hfree hc
  refine ⟨later ++ after.flatMap (linksOf entries actions), ?_⟩
  rw [wantedLinks_eq_flatMap]
  conv => enter [1, 2]; rw [hes]
  simp [Entries.upTo, hlater]

/-- An option gets the link to the menu of another key than its own and than the root just
when none of some entries names that key before, its own entry apart. -/
theorem isMade_unlinked_iff {es : Entries}
    (hes : ∀ d ∈ es, d.2 ≠ [] → ∃ q, keyId? entries d.1 = some q)
    (hroot : keyId? entries rootKey = some root) {key : String}
    (hp : keyId? entries key = some p) (hfree : actions text = none)
    (hc : keyId? entries text = some c) :
    (unlinked entries actions docs anchor root).IsMade (es.flatMap (linksOf entries actions))
        ⟨p, i, c⟩ ↔ text ≠ key ∧ text ≠ rootKey ∧ es.firstNamer? text = none := by
  have hunlinked : (unlinked entries actions docs anchor root).IsFree c := by
    obtain ⟨d, hd, _⟩ := keyId?_eq_some_iff.1 hc
    exact ⟨_, by rw [get?_unlinked, hd]; rfl, rfl⟩
  have hearlier : (∀ l ∈ es.flatMap (linksOf entries actions), l.child = c → l.child = l.parent) ↔
      ∀ d ∈ es, text ∈ d.2 → d.1 = text := by
    constructor
    · intro hself d hd hmem
      obtain ⟨j, hj⟩ := List.mem_iff_getElem?.1 hmem
      obtain ⟨q, hq⟩ := hes d hd (List.ne_nil_of_mem hmem)
      have hasked : ⟨q, j, c⟩ ∈ linksOf entries actions d :=
        mem_linksOf_iff.2 ⟨hq, text, hj, hfree, hc⟩
      have hcq : c = q := hself _ (List.mem_flatMap.2 ⟨d, hd, hasked⟩) rfl
      exact (keyId?_inj hq hc).1 hcq.symm
    · intro hself l hl hlc
      obtain ⟨d, hd, hasked⟩ := List.mem_flatMap.1 hl
      obtain ⟨hq, name, hj, _, hname⟩ := mem_linksOf_iff.1 hasked
      have htext : name = text := (keyId?_inj hname hc).1 hlc
      have hkey : d.1 = text := hself d hd (htext ▸ List.mem_of_getElem? hj)
      exact (keyId?_inj hname hq).2 (htext.trans hkey.symm)
  rw [IsMade, hearlier, Entries.firstNamer?_eq_none_iff, Ne, keyId?_inj hc hp, Ne,
    show (unlinked entries actions docs anchor root).root = root from rfl, keyId?_inj hc hroot]
  simp [hunlinked]

/-! ## What options become -/

/-- An option of an entry is a link, if no action is bound to it: its text has options, it is
neither the key of the entry nor the root, and no option before it has the same text, those
of the text's own entry apart. -/
structure IsLinkAt (entries before : Entries) (rootKey : String) (e : String × List String)
    (i : Nat) (text : String) : Prop where
  options_ne_nil : entries.options text ≠ []
  ne_key : text ≠ e.1
  ne_root : text ≠ rootKey
  unnamed : (Entries.upTo before e i).firstNamer? text = none

variable (actions docs anchor) in
/-- What an option of the entries is after the linking, where no key is repeated. -/
theorem option?_linked_eq (hk : (entries.map (·.1)).Nodup)
    (hroot : keyId? entries rootKey = some root) (hes : entries = before ++ e :: after)
    (hp : keyId? entries e.1 = some p) (hi : e.2[i]? = some text) :
    ∃ target, (linked entries actions docs anchor root).option? p i =
        some { text, doc := docs text, target } ∧
      (∀ selection, actions text = some selection → target = .select selection) ∧
      (actions text = none → IsLinkAt entries before rootKey e i text →
        ∃ c, keyId? entries text = some c ∧ target = .link c) ∧
      (actions text = none → ¬ IsLinkAt entries before rootKey e i text →
        target = .select .noop) := by
  have he : e ∈ entries := hes ▸ List.mem_append_right _ List.mem_cons_self
  cases ha : actions text with
  | some selection =>
    refine ⟨.select selection, ?_, by simp, by simp, by simp⟩
    rw [option?_linked_of_unasked hk he hp hi (by simp [ha]), ha, Option.getD_some]
  | none =>
    cases hc : keyId? entries text with
    | none =>
      have hnot : ¬ IsLinkAt entries before rootKey e i text := fun h =>
        h.options_ne_nil ((keyId?_eq_none_iff hk).1 hc)
      refine ⟨.select .noop, ?_, by simp, fun _ h => absurd h hnot, fun _ _ => rfl⟩
      rw [option?_linked_of_unasked hk he hp hi (by simp [hc]), ha, Option.getD_none]
    | some c =>
      -- only here is a link asked for; whether it is made depends on what was asked for before
      obtain ⟨later, hls⟩ := wantedLinks_eq_append hes hp hi ha hc
      have hoptions : ∀ d ∈ Entries.upTo before e i, d.2 ≠ [] →
          ∃ q, keyId? entries d.1 = some q := by
        intro d hd hne
        rcases List.mem_append.1 hd with hd | hd
        · exact exists_keyId? (hes ▸ List.mem_append_left _ hd) hne
        · exact List.mem_singleton.1 hd ▸ ⟨p, hp⟩
      have hmade : (unlinked entries actions docs anchor root).IsMade
          ((Entries.upTo before e i).flatMap (linksOf entries actions)) ⟨p, i, c⟩ ↔
            IsLinkAt entries before rootKey e i text := by
        rw [isMade_unlinked_iff hoptions hroot hp ha hc]
        have hne : entries.options text ≠ [] := by
          rw [Ne, ← keyId?_eq_none_iff hk, hc]
          simp
        exact ⟨fun h => ⟨hne, h.1, h.2.1, h.2.2⟩, fun h => ⟨h.ne_key, h.ne_root, h.unnamed⟩⟩
      by_cases h : IsLinkAt entries before rootKey e i text
      · exact ⟨.link c, (option?_linked_of_asked hk he hp hi hls).1 (hmade.2 h), by simp,
          fun _ _ => ⟨c, rfl, rfl⟩, fun _ hnot => absurd h hnot⟩
      · refine ⟨.select .noop, ?_, by simp, fun _ hlink => absurd hlink h, fun _ _ => rfl⟩
        rw [(option?_linked_of_asked hk he hp hi hls).2 fun hm => h (hmade.1 hm), ha,
          Option.getD_none]

/-- What an option of an entry stands for in a tree: what is bound to its text, if anything
is; else the menu of its text, where it gets the link to it; and else nothing. -/
def StandsFor (t : MenuTree) (entries before : Entries) (rootKey : String)
    (actions : String → Option Selection) (e : String × List String) (i : Nat) (text : String)
    (target : Target) : Prop :=
  match actions text with
  | some selection => target = .select selection
  | none =>
    (IsLinkAt entries before rootKey e i text ∧
        ∃ c n, keyId? entries text = some c ∧ t.get? c = some n ∧ target = .link c) ∨
      ¬ IsLinkAt entries before rootKey e i text ∧ target = .select .noop

/-- A link more changes no text of an option. -/
theorem texts_withLink (m : Menu) (index : Nat) (c : MenuId) :
    (m.withLink index c).options.map (·.text) = m.options.map (·.text) := by
  rw [Menu.options_withLink]
  refine List.ext_getElem? fun i => ?_
  by_cases h : index = i <;> simp [h, Function.comp_def]

/-- Links change no text of an option of any menu. -/
theorem texts_foldl_addLink (t : MenuTree) (ls : List Link) (id : MenuId) :
    ((ls.foldl addLink t).get? id).map (·.options.map (·.text)) =
      (t.get? id).map (·.options.map (·.text)) := by
  induction ls generalizing t with
  | nil => rfl
  | cons l ls ih =>
    rw [List.foldl_cons, ih, addLink]
    split
    · next hl =>
      rw [get?_setLink (isLinkable_iff.1 hl).1]
      split
      · simp [Function.comp_def, texts_withLink]
      · split
        · simp [Function.comp_def, Menu.withParent]
        · rfl
    · rfl

/-- A menu of a tree is that of an entry, with the options of the entry. -/
theorem exists_entry_of_build? {t : MenuTree}
    (h : build? entries rootKey actions docs anchor = some t) {id : MenuId} {m : Menu}
    (hm : t.get? id = some m) :
    ∃ e, (menuEntries entries)[id]? = some e ∧ m.options.map (·.text) = e.2 := by
  obtain ⟨root, _, _, hget⟩ := option?_of_build? h
  have htexts := texts_foldl_addLink (unlinked entries actions docs anchor root)
    (wantedLinks entries actions) id
  change ((linked entries actions docs anchor root).get? id).map _ = _ at htexts
  rw [hget id m hm, get?_unlinked, Option.map_map, Option.map_some] at htexts
  obtain ⟨e, he, htext⟩ := Option.map_eq_some_iff.1 htexts.symm
  exact ⟨e, he, by simpa [plainMenu, Function.comp_def] using htext.symm⟩

/-- The menus of a tree are those of entries: their options are the texts of their entry in
order, each with the documentation of its text. An option to whose text an action is bound
does this. Any other one is a link to the menu of its text just when its text has options,
is neither the key of its entry nor the root, and no option before it has the same text,
those of the text's own entry apart; if not, nothing is bound to it. -/
theorem options_of_build? {t : MenuTree} (hk : (entries.map (·.1)).Nodup)
    (h : build? entries rootKey actions docs anchor = some t) :
    ∀ id m, t.get? id = some m → ∃ before e after,
      entries = before ++ e :: after ∧ keyId? entries e.1 = some id ∧
      m.options.map (·.text) = e.2 ∧ ∀ i text, e.2[i]? = some text → ∃ target,
        m.options[i]? = some { text, doc := docs text, target } ∧
          t.StandsFor entries before rootKey actions e i text target := by
  intro id m hm
  obtain ⟨root, hroot, _, hget⟩ := option?_of_build? h
  obtain ⟨e, he, htexts⟩ := exists_entry_of_build? h hm
  have hid : keyId? entries e.1 = some id := keyId?_eq_some_iff.2 ⟨e, he, rfl⟩
  obtain ⟨before, after, hes⟩ := List.append_of_mem (mem_menuEntries (List.mem_of_getElem? he)).1
  refine ⟨before, e, after, hes, hid, htexts, fun i text hi => ?_⟩
  obtain ⟨target, ho, hbound, hlink, hnoop⟩ :=
    option?_linked_eq actions docs anchor hk hroot hes hid hi
  rw [option?_of_get? (hget id m hm)] at ho
  refine ⟨target, ho, ?_⟩
  unfold StandsFor
  cases ha : actions text with
  | some selection => exact hbound selection ha
  | none =>
    by_cases hat : IsLinkAt entries before rootKey e i text
    · obtain ⟨c, hc, rfl⟩ := hlink ha hat
      obtain ⟨n, hn⟩ := (wellFormed_of_build? hk h).exists_menu_of_link hm
        (List.mem_of_getElem? ho) rfl
      exact .inl ⟨hat, c, n, hc, hn, rfl⟩
    · exact .inr ⟨hat, hnoop ha hat⟩

/-- A menu whose options name a key that was named before, a key twice, the root and a text
that an action is bound to. -/
theorem options_of_mixed :
    let entries : Entries := [("Apart", ["A"]), ("Top", ["A", "B", "B", "Top", "undo"]),
      ("A", ["a"]), ("B", ["B", "b"])]
    let actions : String → Option Selection := fun text =>
      if text = "undo" then some (.edit { intent := .undo }) else none
    (entries.map (·.1)).Nodup ∧ ∃ t m,
      build? entries "Top" actions (fun _ => none) ⟨0, 0⟩ = some t ∧ t.get? 1 = some m ∧
      ∃ before e after, entries = before ++ e :: after ∧ keyId? entries e.1 = some 1 ∧
        m.options.map (·.text) = e.2 ∧ ∀ i text, e.2[i]? = some text → ∃ target,
          m.options[i]? = some { text, doc := none, target } ∧
            t.StandsFor entries before "Top" actions e i text target := by
  intro entries actions
  have hk : (entries.map (·.1)).Nodup := by decide
  have hshown : ((build? entries "Top" actions (fun _ => none) ⟨0, 0⟩).bind (·.get? 1)).isSome =
      true := by decide
  obtain ⟨m, hm⟩ := Option.isSome_iff_exists.1 hshown
  obtain ⟨t, ht, hm⟩ := Option.bind_eq_some_iff.1 hm
  exact ⟨hk, t, m, ht, hm, options_of_build? hk ht 1 m hm⟩

end MenuTree

end StructEdit
