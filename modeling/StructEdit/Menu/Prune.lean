import StructEdit.Config

/-!
# StructEdit.Menu.Prune

The categories that are left when only some options are on offer. Options that
are neither on offer nor the name of a category are left out first; then
categories without options are left out, and with them the options that name
them, until every category has options. Main statement: `options_ne_nil_of_mem_prune`.
-/

namespace StructEdit

/-- Named lists of option texts. -/
abbrev Entries := List (String × List String)

namespace Entries

/-- The names of the entries without options. -/
def emptyNames (es : Entries) : List String := (es.filter fun e => e.2.isEmpty).map (·.1)

/-- The entries with options, without the options that name one of the others. -/
def dropEmpty (es : Entries) : Entries :=
  (es.filter fun e => !e.2.isEmpty).map fun e =>
    (e.1, e.2.filter fun o => !es.emptyNames.contains o)

theorem length_dropEmpty_lt {es : Entries} (h : es.emptyNames ≠ []) :
    es.dropEmpty.length < es.length := by
  have hf : es.filter (fun e => e.2.isEmpty) ≠ [] := fun hn => h (by simp [emptyNames, hn])
  obtain ⟨e, he⟩ := List.exists_mem_of_ne_nil _ hf
  obtain ⟨hm, hp⟩ := List.mem_filter.1 he
  simp only [dropEmpty, List.length_map]
  exact List.length_filter_lt_length_iff_exists.2 ⟨e, hm, by simp [hp]⟩

/-- The entries that are left when those without options are dropped again and
again. -/
def prune (es : Entries) : Entries :=
  if _h : es.emptyNames = [] then es else prune es.dropEmpty
termination_by es.length
decreasing_by exact length_dropEmpty_lt _h

/-- Every entry that is left has options. -/
theorem options_ne_nil_of_mem_prune {es : Entries} {e : String × List String} (h : e ∈ es.prune) :
    e.2 ≠ [] := by
  fun_induction prune es with
  | case1 es hn =>
    intro he
    have : e.1 ∈ es.emptyNames :=
      List.mem_map.2 ⟨e, List.mem_filter.2 ⟨h, by simp [he]⟩, rfl⟩
    simp [hn] at this
  | case2 es hn ih => exact ih h

end Entries

/-- The categories with only those options that are suggested or name a category. -/
def MenuConfig.offered (m : MenuConfig) (suggestions : List String) : Entries :=
  m.entries.map fun e =>
    (e.1, e.2.filter fun o => (m.categories.map (·.name)).contains o || suggestions.contains o)

/-- The categories that are left when only the suggestions are on offer. -/
def MenuConfig.available (m : MenuConfig) (suggestions : List String) : Entries :=
  (m.offered suggestions).prune

end StructEdit
