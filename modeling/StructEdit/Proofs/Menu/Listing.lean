import Mathlib.Data.List.Flatten
import Mathlib.Data.List.NodupEquivFin
import StructEdit.Menu.Prune

/-!
# StructEdit.Proofs.Menu.Listing

What the categories list: the options that are come upon when every option that
names a category is replaced by the options of that category. Main statements:
`Lists.filter`, leaving out options leaves them out of what is listed, and
`lists_prune`, leaving out empty categories changes nothing of it.
-/

namespace StructEdit

namespace Entries

variable {es ds : Entries}

/-! ## Options by key -/

/-- The options of a key; none if there is no entry for it. -/
def options (es : Entries) (key : String) : List String := (es.lookup key).getD []

/-- Where no key is repeated, a key has one list of options. -/
theorem texts_unique (hk : (es.map (·.1)).Nodup) {key : String} {texts others : List String}
    (h : (key, texts) ∈ es) (ho : (key, others) ∈ es) : texts = others :=
  (Prod.mk.inj (List.inj_on_of_nodup_map hk h ho rfl)).2

theorem options_of_mem (hk : (es.map (·.1)).Nodup) {key : String} {texts : List String}
    (h : (key, texts) ∈ es) : es.options key = texts := by
  obtain ⟨s, d, rfl⟩ := List.append_of_mem h
  have hs : ∀ p ∈ s, key != p.1 := by
    intro p hp
    rw [List.map_append, List.nodup_append] at hk
    rw [bne_iff_ne]
    exact (hk.2.2 p.1 (List.mem_map_of_mem hp) key (by simp)).symm
  rw [options, List.lookup_eq_some_iff.2 ⟨s, d, rfl, hs⟩, Option.getD_some]

theorem options_of_not_mem {key : String} (h : key ∉ es.map (·.1)) : es.options key = [] := by
  rw [options, List.lookup_eq_none_iff.2, Option.getD_none]
  intro p hp
  rw [bne_iff_ne]
  exact fun heq => h (heq ▸ List.mem_map_of_mem hp)

/-- The options of a key without some of them. -/
theorem options_map_filter (keep : String → Bool) (key : String) :
    Entries.options (es.map fun e => (e.1, e.2.filter keep)) key =
      (es.options key).filter keep := by
  unfold options
  induction es with
  | nil => rfl
  | cons e es ih =>
    rw [List.map_cons, List.lookup_cons, List.lookup_cons]
    split
    · rfl
    · exact ih

theorem mem_emptyNames {key : String} : key ∈ es.emptyNames ↔ (key, []) ∈ es := by
  unfold emptyNames
  simp only [List.mem_map, List.mem_filter, List.isEmpty_iff]
  constructor
  · rintro ⟨⟨k, texts⟩, ⟨hmem, rfl⟩, rfl⟩
    exact hmem
  · exact fun h => ⟨(key, []), ⟨h, rfl⟩, rfl⟩

theorem mem_dropEmpty {key : String} {kept : List String} :
    (key, kept) ∈ es.dropEmpty ↔ ∃ texts, (key, texts) ∈ es ∧ texts ≠ [] ∧
      texts.filter (fun o => !es.emptyNames.contains o) = kept := by
  simp [dropEmpty, and_assoc]

theorem keys_dropEmpty_sublist (es : Entries) :
    (es.dropEmpty.map (·.1)).Sublist (es.map (·.1)) := by
  unfold dropEmpty
  rw [List.map_map]
  exact List.filter_sublist.map _

theorem keys_prune_sublist (es : Entries) : (es.prune.map (·.1)).Sublist (es.map (·.1)) := by
  fun_induction prune es with
  | case1 es hn => exact .refl _
  | case2 es hn ih => exact ih.trans es.keys_dropEmpty_sublist

/-- The options of a key after one round of dropping: those of an empty entry were
none before. -/
theorem options_dropEmpty (hk : (es.map (·.1)).Nodup) (key : String) :
    es.dropEmpty.options key = (es.options key).filter fun o => !es.emptyNames.contains o := by
  have hkd := hk.sublist es.keys_dropEmpty_sublist
  by_cases hkey : key ∈ es.map (·.1)
  · obtain ⟨⟨k, texts⟩, hmem, rfl⟩ := List.mem_map.1 hkey
    rw [options_of_mem hk hmem]
    by_cases hne : texts = []
    · subst hne
      refine options_of_not_mem fun hkept => ?_
      obtain ⟨⟨l, kept⟩, hkept, heq : l = k⟩ := List.mem_map.1 hkept
      obtain ⟨texts, htexts, hne, _⟩ := mem_dropEmpty.1 hkept
      exact hne (texts_unique hk htexts (heq ▸ hmem))
    · exact options_of_mem hkd (mem_dropEmpty.2 ⟨texts, hmem, hne, rfl⟩)
  · rw [options_of_not_mem hkey, options_of_not_mem fun h => hkey (es.keys_dropEmpty_sublist.mem h)]
    rfl

/-- Options that have a property or name an entry still do after a round of dropping. -/
theorem named_dropEmpty {P : String → Prop}
    (h : ∀ e ∈ es, ∀ o ∈ e.2, P o ∨ o ∈ es.map (·.1)) :
    ∀ e ∈ es.dropEmpty, ∀ o ∈ e.2, P o ∨ o ∈ es.dropEmpty.map (·.1) := by
  rintro ⟨key, kept⟩ he o ho
  obtain ⟨texts, hmem, _, rfl⟩ := mem_dropEmpty.1 he
  obtain ⟨ho, hkept⟩ := List.mem_filter.1 ho
  refine (h _ hmem o ho).imp_right fun hkey => ?_
  obtain ⟨⟨_, others⟩, hothers, rfl⟩ := List.mem_map.1 hkey
  have hne : others ≠ [] := by
    rintro rfl
    simp [mem_emptyNames.2 hothers] at hkept
  exact List.mem_map.2 ⟨_, mem_dropEmpty.2 ⟨others, hothers, hne, rfl⟩, rfl⟩

/-- If each option has a property or names an entry, each option that is left has the
property or names an entry that is left. -/
theorem named_prune {P : String → Prop} (h : ∀ e ∈ es, ∀ o ∈ e.2, P o ∨ o ∈ es.map (·.1)) :
    ∀ e ∈ es.prune, ∀ o ∈ e.2, P o ∨ o ∈ es.prune.map (·.1) := by
  fun_induction prune es with
  | case1 es hn => exact h
  | case2 es hn ih => exact ih (named_dropEmpty h)

/-! ## What options list -/

/-- What texts list, from the first to the last: one that names an entry lists what
the options of the entry list, and any other lists itself. There is nothing when
replacing names by options does not end. -/
inductive Lists (es : Entries) : List String → List String → Prop where
  | nil : Lists es [] []
  | leaf {o os ls} (free : o ∉ es.map (·.1)) (rest : Lists es os ls) :
      Lists es (o :: os) (o :: ls)
  | category {o os texts ks ls} (entry : (o, texts) ∈ es) (below : Lists es texts ks)
      (rest : Lists es os ls) : Lists es (o :: os) (ks ++ ls)

namespace Lists

theorem unique (hk : (es.map (·.1)).Nodup) {os ks ls : List String} (h : es.Lists os ks)
    (hl : es.Lists os ls) : ks = ls := by
  induction h generalizing ls with
  | nil => cases hl; rfl
  | leaf free _ ih =>
    cases hl with
    | leaf _ hl => rw [ih hl]
    | category entry => exact absurd (List.mem_map_of_mem entry) free
  | category entry _ _ ihbelow ih =>
    cases hl with
    | leaf free => exact absurd (List.mem_map_of_mem entry) free
    | category entry' hbelow hl =>
      obtain rfl := texts_unique hk entry entry'
      rw [ihbelow hbelow, ih hl]

/-- Texts list something if the options of each entry that they name do. -/
theorem exists_of_forall {os : List String} (h : ∀ o ∈ os, ∀ texts, (o, texts) ∈ es →
    ∃ ls, es.Lists texts ls) : ∃ ls, es.Lists os ls := by
  induction os with
  | nil => exact ⟨[], .nil⟩
  | cons o os ih =>
    rw [List.forall_mem_cons] at h
    obtain ⟨ls, hls⟩ := ih h.2
    by_cases ho : o ∈ es.map (·.1)
    · obtain ⟨⟨_, texts⟩, entry, rfl⟩ := List.mem_map.1 ho
      obtain ⟨ks, hks⟩ := h.1 texts entry
      exact ⟨ks ++ ls, .category entry hks hls⟩
    · exact ⟨o :: ls, .leaf ho hls⟩

/-- What is listed names no entry. -/
theorem not_mem_keys {os ls : List String} (h : es.Lists os ls) :
    ∀ l ∈ ls, l ∉ es.map (·.1) := by
  induction h with
  | nil => simp
  | leaf free _ ih => exact List.forall_mem_cons.2 ⟨free, ih⟩
  | category _ _ _ ihbelow ih => exact fun l hl => (List.mem_append.1 hl).elim (ihbelow l) (ih l)

/-- Options that name no entry can be left out of what is listed by leaving them out
of the entries. -/
theorem filter {keep : String → Bool} (hkeep : ∀ k ∈ es.map (·.1), keep k = true)
    {os ls : List String} (h : es.Lists os ls) :
    Lists (es.map fun e => (e.1, e.2.filter keep)) (os.filter keep) (ls.filter keep) := by
  have hkeys : (es.map fun e => (e.1, e.2.filter keep)).map (·.1) = es.map (·.1) := by simp
  induction h with
  | nil => exact .nil
  | @leaf o os ls free _ ih =>
    by_cases ho : keep o = true
    · rw [List.filter_cons_of_pos ho, List.filter_cons_of_pos ho]
      exact .leaf (hkeys ▸ free) ih
    · rwa [List.filter_cons_of_neg ho, List.filter_cons_of_neg ho]
  | @category o os texts ks ls entry _ _ ihbelow ih =>
    rw [List.filter_cons_of_pos (hkeep o (List.mem_map_of_mem entry)), List.filter_append]
    exact .category (List.mem_map.2 ⟨_, entry, rfl⟩) ihbelow ih

/-- A round of dropping empty entries leaves what is listed. -/
theorem dropEmpty (hk : (es.map (·.1)).Nodup) {os ls : List String} (h : es.Lists os ls) :
    es.dropEmpty.Lists (os.filter fun o => !es.emptyNames.contains o) ls := by
  induction h with
  | nil => exact .nil
  | @leaf o os ls free _ ih =>
    have ho : o ∉ es.emptyNames := fun h => free (List.mem_map_of_mem (mem_emptyNames.1 h))
    rw [List.filter_cons_of_pos (by simpa using ho)]
    exact .leaf (fun hd => free (es.keys_dropEmpty_sublist.mem hd)) ih
  | @category o os texts ks ls entry below _ ihbelow ih =>
    by_cases hne : texts = []
    · subst hne
      cases below
      rwa [List.filter_cons_of_neg (by simpa using mem_emptyNames.2 entry)]
    · have ho : o ∉ es.emptyNames := fun h =>
        hne (texts_unique hk entry (mem_emptyNames.1 h))
      rw [List.filter_cons_of_pos (by simpa using ho)]
      exact .category (mem_dropEmpty.2 ⟨texts, entry, hne, rfl⟩) ihbelow ih

/-- Where every entry has options, something is listed for every option. -/
theorem eq_nil_iff (hne : ∀ e ∈ es, e.2 ≠ []) {os ls : List String} (h : es.Lists os ls) :
    ls = [] ↔ os = [] := by
  induction h with
  | nil => simp
  | leaf => simp
  | category entry _ _ ihbelow _ => simp [ihbelow, hne _ entry]

end Lists

/-- What is listed under a key is what it was before the empty entries were
dropped. -/
theorem lists_prune (hk : (es.map (·.1)).Nodup) {key : String} {ls : List String}
    (h : es.Lists (es.options key) ls) : es.prune.Lists (es.prune.options key) ls := by
  fun_induction prune es with
  | case1 es hn => exact h
  | case2 es hn ih =>
    refine ih (hk.sublist es.keys_dropEmpty_sublist) ?_
    rw [options_dropEmpty hk]
    exact h.dropEmpty hk

/-! ## Tidy entries -/

/-- No two entries have the same key, no key is an option twice, and the root key
is none at all. -/
structure Tidy (es : Entries) (rootKey : String) : Prop where
  nodup_keys : (es.map (·.1)).Nodup
  once : ∀ k ∈ es.map (·.1), (es.flatMap (·.2)).count k ≤ 1
  root : rootKey ∉ es.flatMap (·.2)

namespace Tidy

variable {rootKey : String}

/-- Only one entry has a key among its options. -/
theorem eq_of_mem (h : es.Tidy rootKey) {k : String} (hk : k ∈ es.map (·.1))
    {d e : String × List String} (hd : d ∈ es) (he : e ∈ es) (hkd : k ∈ d.2) (hke : k ∈ e.2) :
    d = e := by
  by_contra hne
  have hcount := h.once k hk
  obtain ⟨s, r, rfl⟩ := List.append_of_mem hd
  have hpos : k ∈ (s ++ r).flatMap (·.2) := by
    refine List.mem_flatMap.2 ⟨e, ?_, hke⟩
    simpa [Ne.symm hne] using he
  have hd1 := List.count_pos_iff.2 hkd
  have he1 := List.count_pos_iff.2 hpos
  simp only [List.flatMap_append, List.flatMap_cons, List.count_append] at hcount he1
  omega

/-- A key stands at one place only among the options of an entry. -/
theorem index_unique (h : es.Tidy rootKey) {k : String} (hk : k ∈ es.map (·.1))
    {e : String × List String} (he : e ∈ es) {i j : Nat} (hi : e.2[i]? = some k)
    (hj : e.2[j]? = some k) : i = j := by
  have hcount : e.2.count k ≤ 1 := by
    obtain ⟨s, r, rfl⟩ := List.append_of_mem he
    have := h.once k hk
    simp only [List.flatMap_append, List.flatMap_cons, List.count_append] at this
    omega
  -- at two places it would stand twice in the entry, and so twice in all entries
  have hlt {i j : Nat} (hi : e.2[i]? = some k) (hj : e.2[j]? = some k) : ¬ i < j := by
    intro hij
    obtain ⟨hi', hik⟩ := List.getElem?_eq_some_iff.1 hi
    obtain ⟨hj', hjk⟩ := List.getElem?_eq_some_iff.1 hj
    have hdup : e.2.Duplicate k := List.duplicate_iff_exists_distinct_get.2
      ⟨⟨i, hi'⟩, ⟨j, hj'⟩, hij, by simp [hik], by simp [hjk]⟩
    have := List.duplicate_iff_two_le_count.1 hdup
    omega
  have := hlt hi hj
  have := hlt hj hi
  omega

/-- An option of an entry that does not name itself does not name itself either. -/
theorem not_mem_of_mem (h : es.Tidy rootKey) {d e : String × List String} (hd : d ∈ es)
    (he : e ∈ es) (hself : d.1 ∉ d.2) (hmem : e.1 ∈ d.2) : e.1 ∉ e.2 := by
  intro hself'
  have := h.eq_of_mem (List.mem_map_of_mem he) hd he hmem hself'
  exact hself (this ▸ hmem)

theorem of_sublist (h : es.Tidy rootKey) (hk : (ds.map (·.1)).Sublist (es.map (·.1)))
    (ho : (ds.flatMap (·.2)).Sublist (es.flatMap (·.2))) : ds.Tidy rootKey where
  nodup_keys := h.nodup_keys.sublist hk
  once k hmem := (ho.count_le k).trans (h.once k (hk.mem hmem))
  root hmem := h.root (ho.mem hmem)

theorem filter (h : es.Tidy rootKey) (keep : String → Bool) :
    Tidy (es.map fun e => (e.1, e.2.filter keep)) rootKey := by
  refine h.of_sublist (by simp [Function.comp_def]) ?_
  rw [List.flatMap_map]
  exact .flatMap_right _ fun e _ => List.filter_sublist

theorem dropEmpty (h : es.Tidy rootKey) : es.dropEmpty.Tidy rootKey := by
  refine h.of_sublist es.keys_dropEmpty_sublist ?_
  unfold Entries.dropEmpty
  rw [List.flatMap_map]
  exact (List.Sublist.flatMap_right _ fun e _ => List.filter_sublist).trans
    (List.filter_sublist.flatMap _)

theorem prune (h : es.Tidy rootKey) : es.prune.Tidy rootKey := by
  fun_induction Entries.prune es with
  | case1 es hn => exact h
  | case2 es hn ih => exact ih h.dropEmpty

end Tidy

end Entries

end StructEdit
