import Mathlib.Dynamics.FixedPoints.Basic
import Mathlib.Order.Bounds.Basic
import StructEdit.Proofs.Menu.Available

/-!
# StructEdit.Proofs.Menu.Pruning

Which categories are left when only some options are on offer. Dropping the empty categories
comes to an end after at most as many rounds as there are categories (`Entries.exists_rounds`).
Each round narrows down the names of the categories (`MenuConfig.Narrowed`), and those that are
left in the end are the largest set of categories that each keep an option when just these are
left (`MenuConfig.sustained`), if no two categories have the same name. Main statement:
`MenuConfig.isGreatest_keySet_available`.
-/

namespace StructEdit

namespace Entries

variable {es : Entries}

/-! ## Rounds -/

/-- Dropping goes on as long as there are entries without options, which is for at most as many
rounds as there are entries. -/
theorem exists_rounds (es : Entries) :
    ∃ n ≤ es.length, es.prune = dropEmpty^[n] es ∧
      (∀ k < n, (dropEmpty^[k] es).emptyNames ≠ []) ∧ es.prune.emptyNames = [] := by
  fun_induction prune es with
  | case1 es h => exact ⟨0, Nat.zero_le _, rfl, fun k hk => absurd hk (Nat.not_lt_zero k), h⟩
  | case2 es h ih =>
    obtain ⟨n, hn, heq, hrounds, hend⟩ := ih
    have hlt := length_dropEmpty_lt h
    refine ⟨n + 1, by omega, heq, fun k hk => ?_, hend⟩
    cases k with
    | zero => exact h
    | succ k => exact hrounds k (Nat.lt_of_succ_lt_succ hk)

/-- The keys of the entries. -/
def keySet (es : Entries) : Set String := {k | k ∈ es.map (·.1)}

instance : DecidablePred (· ∈ es.keySet) :=
  fun k => inferInstanceAs (Decidable (k ∈ es.map (·.1)))

theorem mem_keySet {key : String} : key ∈ es.keySet ↔ key ∈ es.map (·.1) := Iff.rfl

/-- A round leaves the keys of the entries with options. -/
theorem mem_keySet_dropEmpty (hk : (es.map (·.1)).Nodup) {key : String} :
    key ∈ es.dropEmpty.keySet ↔ key ∈ es.keySet ∧ key ∉ es.emptyNames := by
  simp only [mem_keySet, List.mem_map, Prod.exists, exists_and_right, exists_eq_right,
    mem_dropEmpty, mem_emptyNames]
  constructor
  · rintro ⟨kept, texts, hmem, hne, _⟩
    exact ⟨⟨texts, hmem⟩, fun hempty => hne (texts_unique hk hmem hempty)⟩
  · rintro ⟨⟨texts, hmem⟩, hempty⟩
    exact ⟨_, texts, hmem, fun hnil => hempty (hnil ▸ hmem), rfl⟩

end Entries

namespace MenuConfig

variable {m : MenuConfig} {suggestions : List String} {es : Entries}

/-! ## What stays -/

/-- An option stays when the categories of some names are left, if it is suggested and names no
category or if it names one of those that are left. -/
def Stays (m : MenuConfig) (suggestions : List String) (names : Set String) (o : String) : Prop :=
  (o ∈ suggestions ∧ o ∉ m.entries.map (·.1)) ∨ o ∈ names

instance (names : Set String) [DecidablePred (· ∈ names)] :
    DecidablePred (m.Stays suggestions names) :=
  fun _ => inferInstanceAs (Decidable (_ ∨ _))

theorem Stays.mono {names others : Set String} (h : names ⊆ others) {o : String}
    (ho : m.Stays suggestions names o) : m.Stays suggestions others o :=
  ho.imp_right fun hmem => h hmem

/-- The names of the categories that keep an option when those of some names are left. -/
def sustained (m : MenuConfig) (suggestions : List String) (names : Set String) : Set String :=
  {k | ∃ texts, (k, texts) ∈ m.entries ∧ ∃ o ∈ texts, m.Stays suggestions names o}

theorem sustained_mono {names others : Set String} (h : names ⊆ others) :
    m.sustained suggestions names ⊆ m.sustained suggestions others :=
  fun _ ⟨texts, hmem, o, ho, hstays⟩ => ⟨texts, hmem, o, ho, hstays.mono h⟩

/-- The largest set of names that sustain each other is the greatest fixed point. -/
theorem isGreatest_fixedPoints {names : Set String}
    (h : IsGreatest {s | s ⊆ m.sustained suggestions s} names) :
    IsGreatest (Function.fixedPoints (m.sustained suggestions)) names := by
  have hfixed : m.sustained suggestions names ⊆ names := h.2 (sustained_mono h.1)
  refine ⟨Set.Subset.antisymm hfixed h.1, fun s (hs : m.sustained suggestions s = s) => ?_⟩
  exact h.2 hs.symm.subset

/-- The categories of some names with the options that stay when just these are left. -/
def reduced (m : MenuConfig) (suggestions : List String) (names : Set String)
    [DecidablePred (· ∈ names)] : Entries :=
  (m.entries.filter (·.1 ∈ names)).map fun e => (e.1, e.2.filter (m.Stays suggestions names))

theorem mem_reduced {names : Set String} [DecidablePred (· ∈ names)] {key : String}
    {kept : List String} : (key, kept) ∈ m.reduced suggestions names ↔
      ∃ texts, (key, texts) ∈ m.entries ∧ key ∈ names ∧
        texts.filter (m.Stays suggestions names) = kept := by
  simp [reduced, and_assoc]

theorem keys_reduced_sublist (names : Set String) [DecidablePred (· ∈ names)] :
    ((m.reduced suggestions names).map (·.1)).Sublist (m.entries.map (·.1)) := by
  unfold reduced
  rw [List.map_map]
  exact List.filter_sublist.map _

/-! ## One round -/

/-- In the course of dropping, the entries are the categories of their keys with the options
that stay, and whatever categories sustain each other are among them. -/
structure Narrowed (m : MenuConfig) (suggestions : List String) (es : Entries) : Prop where
  eq_reduced : es = m.reduced suggestions es.keySet
  contains : ∀ names, names ⊆ m.sustained suggestions names → names ⊆ es.keySet

/-- Before the first round, all categories are there with the options that stay. -/
theorem narrowed_offered (m : MenuConfig) (suggestions : List String) :
    m.Narrowed suggestions (m.offered suggestions) := by
  have hkeys : (m.offered suggestions).map (·.1) = m.entries.map (·.1) := by simp [offered]
  have hmem {key : String} : key ∈ (m.offered suggestions).keySet ↔ key ∈ m.entries.map (·.1) := by
    rw [Entries.mem_keySet, hkeys]
  constructor
  case eq_reduced =>
    have hall : m.entries.filter (·.1 ∈ (m.offered suggestions).keySet) = m.entries :=
      List.filter_eq_self.2 fun e he => decide_eq_true (hmem.2 (List.mem_map_of_mem he))
    rw [reduced, hall]
    refine List.map_congr_left fun e _ => congrArg _ (List.filter_congr fun o _ => ?_)
    rw [← keys_entries, Bool.eq_iff_iff]
    simp only [Stays, hmem, Bool.or_eq_true, List.contains_iff_mem, decide_eq_true_eq]
    grind
  case contains =>
    intro names h k hk
    obtain ⟨texts, hentry, _⟩ := h hk
    exact hmem.2 (List.mem_map_of_mem hentry)

namespace Narrowed

theorem mem_iff (h : m.Narrowed suggestions es) {key : String} {kept : List String} :
    (key, kept) ∈ es ↔ ∃ texts, (key, texts) ∈ m.entries ∧ key ∈ es.keySet ∧
      texts.filter (m.Stays suggestions es.keySet) = kept := by
  conv_lhs => rw [h.eq_reduced]
  exact mem_reduced

theorem nodup_keys (h : m.Narrowed suggestions es) (hk : (m.entries.map (·.1)).Nodup) :
    (es.map (·.1)).Nodup := by
  rw [h.eq_reduced]
  exact hk.sublist (keys_reduced_sublist _)

/-- A round keeps the categories that have an option that stays. -/
theorem mem_keySet_dropEmpty (h : m.Narrowed suggestions es) (hk : (m.entries.map (·.1)).Nodup)
    {key : String} {texts : List String} (hmem : (key, texts) ∈ m.entries) :
    key ∈ es.dropEmpty.keySet ↔
      key ∈ es.keySet ∧ texts.filter (m.Stays suggestions es.keySet) ≠ [] := by
  rw [Entries.mem_keySet_dropEmpty (h.nodup_keys hk), Entries.mem_emptyNames, h.mem_iff]
  refine and_congr_right fun hkey => not_congr ?_
  constructor
  · rintro ⟨others, hothers, _, hnil⟩
    rwa [Entries.texts_unique hk hmem hothers]
  · exact fun hnil => ⟨texts, hmem, hkey, hnil⟩

/-- A round keeps the options that stay and do not name an empty category. -/
theorem stays_dropEmpty (h : m.Narrowed suggestions es) (hk : (m.entries.map (·.1)).Nodup)
    {o : String} : m.Stays suggestions es.dropEmpty.keySet o ↔
      m.Stays suggestions es.keySet o ∧ o ∉ es.emptyNames := by
  have hempty (ho : o ∈ es.emptyNames) : o ∈ m.entries.map (·.1) := by
    obtain ⟨texts, hmem, _⟩ := h.mem_iff.1 (Entries.mem_emptyNames.1 ho)
    exact List.mem_map_of_mem hmem
  simp only [Stays, Entries.mem_keySet_dropEmpty (h.nodup_keys hk)]
  grind

theorem dropEmpty (h : m.Narrowed suggestions es) (hk : (m.entries.map (·.1)).Nodup) :
    m.Narrowed suggestions es.dropEmpty := by
  constructor
  case eq_reduced =>
    have hcategories : m.entries.filter (·.1 ∈ es.dropEmpty.keySet) = m.entries.filter fun e =>
        !(e.2.filter (m.Stays suggestions es.keySet)).isEmpty && decide (e.1 ∈ es.keySet) := by
      refine List.filter_congr fun e he => ?_
      rw [Bool.eq_iff_iff]
      simp only [h.mem_keySet_dropEmpty hk he, decide_eq_true_eq, Bool.and_eq_true,
        Bool.not_eq_true', List.isEmpty_eq_false_iff, and_comm]
    have hoptions (texts : List String) :
        texts.filter (m.Stays suggestions es.dropEmpty.keySet) =
          (texts.filter (m.Stays suggestions es.keySet)).filter fun o =>
            !es.emptyNames.contains o := by
      rw [List.filter_filter]
      refine List.filter_congr fun o _ => ?_
      simp only [h.stays_dropEmpty hk, Bool.decide_and, decide_not, List.contains_eq_mem,
        Bool.and_comm]
    have hes : es.filter (fun e => !e.2.isEmpty) =
        (m.reduced suggestions es.keySet).filter fun e => !e.2.isEmpty := by
      rw [← h.eq_reduced]
    rw [reduced, hcategories]
    simp only [hoptions]
    rw [Entries.dropEmpty, hes, reduced, List.filter_map, List.filter_filter, List.map_map]
    rfl
  case contains =>
    intro names hnames k hkey
    have hsub := h.contains names hnames
    -- the option that sustains a category of the set stays in this round
    obtain ⟨texts, hmem, o, ho, hstays⟩ := hnames hkey
    refine (h.mem_keySet_dropEmpty hk hmem).2 ⟨hsub hkey, List.ne_nil_of_mem (a := o) ?_⟩
    exact List.mem_filter.2 ⟨ho, decide_eq_true (hstays.mono hsub)⟩

theorem prune (h : m.Narrowed suggestions es) (hk : (m.entries.map (·.1)).Nodup) :
    m.Narrowed suggestions es.prune := by
  fun_induction Entries.prune es with
  | case1 es hn => exact h
  | case2 es hn ih => exact ih (h.dropEmpty hk)

/-- Entries that all have options sustain each other. -/
theorem isGreatest (h : m.Narrowed suggestions es) (hne : ∀ e ∈ es, e.2 ≠ []) :
    IsGreatest {names | names ⊆ m.sustained suggestions names} es.keySet := by
  refine ⟨fun k hkey => ?_, h.contains⟩
  obtain ⟨⟨_, kept⟩, hmem, rfl⟩ := List.mem_map.1 hkey
  obtain ⟨texts, htexts, _, rfl⟩ := h.mem_iff.1 hmem
  obtain ⟨o, ho⟩ := List.exists_mem_of_ne_nil _ (hne _ hmem)
  obtain ⟨ho, hstays⟩ := List.mem_filter.1 ho
  exact ⟨texts, htexts, o, ho, of_decide_eq_true hstays⟩

end Narrowed

/-! ## What is left -/

/-- Dropping the empty categories comes to an end, after no more rounds than there are
categories. If no two categories have the same name, the names of those that are left are the
greatest fixed point: the largest set of names whose categories each have an option that is
suggested and names no category or names a category of the set. They are left with just these
options, in the order they were in, and no option names a category that is not left. -/
theorem isGreatest_keySet_available (m : MenuConfig) (suggestions : List String) :
    (∃ n ≤ m.categories.length,
      m.available suggestions = Entries.dropEmpty^[n] (m.offered suggestions) ∧
      (∀ k < n, (Entries.dropEmpty^[k] (m.offered suggestions)).emptyNames ≠ []) ∧
      (m.available suggestions).emptyNames = []) ∧
    ((m.entries.map (·.1)).Nodup →
      IsGreatest {names | names ⊆ m.sustained suggestions names}
        (m.available suggestions).keySet ∧
      IsGreatest (Function.fixedPoints (m.sustained suggestions))
        (m.available suggestions).keySet ∧
      m.available suggestions = m.reduced suggestions (m.available suggestions).keySet ∧
      ∀ e ∈ m.available suggestions, ∀ o ∈ e.2, o ∈ m.entries.map (·.1) →
        o ∈ (m.available suggestions).map (·.1)) := by
  constructor
  · obtain ⟨n, hn, hrounds⟩ := (m.offered suggestions).exists_rounds
    exact ⟨n, by simpa [offered, entries] using hn, hrounds⟩
  · intro hk
    -- `Narrowed` holds before the first round, and each round keeps it
    have h : m.Narrowed suggestions (m.available suggestions) :=
      (m.narrowed_offered suggestions).prune hk
    have hgreatest := h.isGreatest fun _ he => Entries.options_ne_nil_of_mem_prune he
    refine ⟨hgreatest, isGreatest_fixedPoints hgreatest, h.eq_reduced, ?_⟩
    rintro ⟨key, kept⟩ he o ho hname
    obtain ⟨texts, _, _, rfl⟩ := h.mem_iff.1 he
    have hstays := of_decide_eq_true (List.mem_filter.1 ho).2
    exact hstays.resolve_left fun hfree => hfree.2 hname

/-- Categories that name each other in a circle are left, and so are those that lead to them. A
category of which nothing is suggested is not left, even if its name is. -/
theorem isGreatest_keySet_of_circle :
    let config : MenuConfig := { categories := [⟨"Top", ["Up", "Operators", "Arithmetic"]⟩,
      ⟨"Up", ["Down"]⟩, ⟨"Down", ["Up", "x"]⟩, ⟨"Operators", ["Boolean"]⟩,
      ⟨"Boolean", ["and", "or"]⟩, ⟨"Arithmetic", ["-", "+"]⟩] }
    let suggestions := ["+", "Boolean"]
    (config.entries.map (·.1)).Nodup ∧
      config.available suggestions =
        [("Top", ["Up", "Arithmetic"]), ("Up", ["Down"]), ("Down", ["Up"]),
          ("Arithmetic", ["+"])] ∧
      IsGreatest (Function.fixedPoints (config.sustained suggestions))
        {k | k ∈ ["Top", "Up", "Down", "Arithmetic"]} := by
  intro config suggestions
  have hk : (config.entries.map (·.1)).Nodup := by decide
  have havailable : config.available suggestions =
      [("Top", ["Up", "Arithmetic"]), ("Up", ["Down"]), ("Down", ["Up"]),
        ("Arithmetic", ["+"])] := by
    rw [available, Entries.prune, dif_neg (by decide), Entries.prune, dif_neg (by decide),
      Entries.prune, dif_pos (by decide)]
    decide +kernel
  have hgreatest := ((isGreatest_keySet_available config suggestions).2 hk).2.1
  rw [Entries.keySet, havailable] at hgreatest
  exact ⟨hk, havailable, hgreatest⟩

end MenuConfig

end StructEdit
