/-!
# StructEdit.Dictionary

Finite maps from texts to texts. The entries are kept in the order of their keys,
one to a key, so maps with the same entries are equal. Main statements:
`find?_insert`, looking up after an entry was put in, and `ofList_entries`, the
entries of a map make up that map.
-/

namespace StructEdit

/-- A finite map from texts to texts. -/
structure Dictionary where
  entries : List (String × String)
  /-- The keys increase from entry to entry. -/
  increasing : entries.Pairwise fun a b => a.1 < b.1

namespace Dictionary

@[ext]
theorem ext {d e : Dictionary} (h : d.entries = e.entries) : d = e := by
  cases d; cases e; simp_all

instance : DecidableEq Dictionary := fun d e =>
  if h : d.entries = e.entries then isTrue (ext h) else isFalse fun he => h (he ▸ rfl)

/-- The map without entries. -/
def empty : Dictionary := ⟨[], .nil⟩

/-- The value of a key. -/
def find? (d : Dictionary) (key : String) : Option String := d.entries.lookup key

/-! ## Putting in an entry -/

/-- The entries with one more, in its place; it takes the place of an entry with
the same key. -/
def insertEntry (key value : String) : List (String × String) → List (String × String)
  | [] => [(key, value)]
  | e :: es =>
    if key < e.1 then (key, value) :: e :: es
    else if key = e.1 then (key, value) :: es
    else e :: insertEntry key value es

theorem mem_insertEntry {key value : String} {es : List (String × String)} {e : String × String}
    (h : e ∈ insertEntry key value es) : e = (key, value) ∨ e ∈ es := by
  induction es with
  | nil => simp_all [insertEntry]
  | cons d ds ih =>
    unfold insertEntry at h
    split at h
    · simpa using h
    · split at h
      · rcases List.mem_cons.1 h with h | h
        · exact .inl h
        · exact .inr (List.mem_cons_of_mem _ h)
      · rcases List.mem_cons.1 h with rfl | h
        · simp
        · rcases ih h with h | h
          · exact .inl h
          · exact .inr (List.mem_cons_of_mem _ h)

theorem lt_of_not_lt_of_ne {a b : String} (h : ¬ a < b) (hne : a ≠ b) : b < a := by
  rcases String.le_total a b with hab | hab
  · exact absurd (String.le_antisymm hab (String.not_lt.1 h)) hne
  · exact Decidable.byContradiction fun hn => hne (String.le_antisymm (String.not_lt.1 hn) hab)

theorem pairwise_insertEntry (key value : String) {es : List (String × String)}
    (h : es.Pairwise fun a b => a.1 < b.1) :
    (insertEntry key value es).Pairwise fun a b => a.1 < b.1 := by
  induction es with
  | nil => simp [insertEntry]
  | cons e es ih =>
    rw [List.pairwise_cons] at h
    unfold insertEntry
    split
    · next hlt =>
      refine List.pairwise_cons.2 ⟨fun b hb => ?_, List.pairwise_cons.2 h⟩
      rcases List.mem_cons.1 hb with rfl | hb
      · exact hlt
      · exact String.lt_trans hlt (h.1 b hb)
    · split
      · next heq => exact List.pairwise_cons.2 ⟨fun b hb => heq ▸ h.1 b hb, h.2⟩
      · next hlt hne =>
        refine List.pairwise_cons.2 ⟨fun b hb => ?_, ih h.2⟩
        rcases mem_insertEntry hb with rfl | hb
        · exact lt_of_not_lt_of_ne hlt hne
        · exact h.1 b hb

/-- The map with a value for a key. -/
def insert (d : Dictionary) (key value : String) : Dictionary :=
  ⟨insertEntry key value d.entries, pairwise_insertEntry key value d.increasing⟩

/-- The map of a list of entries; of several with one key the last one counts. -/
def ofList (es : List (String × String)) : Dictionary :=
  es.foldl (fun d e => d.insert e.1 e.2) empty

theorem lookup_cons_eq (k : String) (e : String × String) (es : List (String × String)) :
    (e :: es).lookup k = if k = e.1 then some e.2 else es.lookup k := by
  rw [List.lookup_cons]
  by_cases h : k = e.1
  · simp [h]
  · rw [beq_false_of_ne h, if_neg h]

theorem lookup_insertEntry (key value k : String) (es : List (String × String)) :
    (insertEntry key value es).lookup k = if k = key then some value else es.lookup k := by
  induction es with
  | nil => exact lookup_cons_eq k (key, value) []
  | cons e es ih =>
    unfold insertEntry
    split
    · exact lookup_cons_eq k (key, value) (e :: es)
    · split
      · next heq => grind [lookup_cons_eq]
      · next hne => grind [lookup_cons_eq]

/-- Looking up a key gives the value put in for it, and for another key what it
gave before. -/
theorem find?_insert (d : Dictionary) (key value k : String) :
    (d.insert key value).find? k = if k = key then some value else d.find? k :=
  lookup_insertEntry key value k d.entries

/-- An entry behind all others is put at the end. -/
theorem insertEntry_of_lt {key value : String} {es : List (String × String)}
    (h : ∀ e ∈ es, e.1 < key) : insertEntry key value es = es ++ [(key, value)] := by
  induction es with
  | nil => rfl
  | cons e es ih =>
    have he : e.1 < key := h e (by simp)
    have h1 : ¬ key < e.1 := fun hk => String.lt_irrefl _ (String.lt_trans he hk)
    have h2 : key ≠ e.1 := fun hk => String.lt_irrefl e.1 (hk ▸ he)
    simp [insertEntry, h1, h2, ih fun d hd => h d (List.mem_cons_of_mem _ hd)]

theorem entries_foldl_insert (d : Dictionary) (es : List (String × String))
    (h : (d.entries ++ es).Pairwise fun a b => a.1 < b.1) :
    (es.foldl (fun d e => d.insert e.1 e.2) d).entries = d.entries ++ es := by
  induction es generalizing d with
  | nil => simp
  | cons e es ih =>
    have hlt : ∀ a ∈ d.entries, a.1 < e.1 := fun a ha =>
      (List.pairwise_append.1 h).2.2 a ha e (by simp)
    have hd : (d.insert e.1 e.2).entries = d.entries ++ [e] := insertEntry_of_lt hlt
    rw [List.foldl_cons, ih _ (by rw [hd, List.append_assoc]; exact h), hd, List.append_assoc]
    rfl

/-- The entries of a map make up that map. -/
@[simp]
theorem ofList_entries (d : Dictionary) : ofList d.entries = d :=
  ext (entries_foldl_insert empty d.entries d.increasing)

end Dictionary

end StructEdit
