import Mathlib.Data.List.DropRight
import StructEdit.Text.Blank
import StructEdit.Text.Split

/-!
# StructEdit.Proofs.Text.Segments

Texts that are cut into segments, and blank space around texts. Cutting a text that was
joined of segments gives the segments again if none of them holds the separator
(`pieces_intercalate`); what trimming leaves of a text is the text but for blank space on
either side (`trim_eq_iff_padded`); and blank space around a text makes no difference to its
trimmed segments (`map_trim_pieces`).
-/

namespace StructEdit.Text

/-! ## Segments -/

section Pieces

variable {sep : Char}

theorem pieces_eq_splitOn (sep : Char) (cs : List Char) : pieces sep cs = cs.splitOn sep := by
  induction cs with
  | nil => rfl
  | cons c cs ih =>
    rw [pieces, ih, List.splitOn_cons_eq_if_modifyHead]
    cases h : cs.splitOn sep with
    | nil => exact absurd h (List.splitOn_ne_nil sep cs)
    | cons p ps => simp

/-- Segments are the pieces of the text that they are joined to. -/
theorem pieces_intercalate {ss : List (List Char)} (hne : ss ≠ []) (h : ∀ s ∈ ss, sep ∉ s) :
    pieces sep ([sep].intercalate ss) = ss := by
  rw [pieces_eq_splitOn, List.splitOn_intercalate sep h hne]

/-- A separator cuts the pieces in front of it from those behind it. -/
theorem pieces_append_cons_self (as bs : List Char) :
    pieces sep (as ++ sep :: bs) = pieces sep as ++ pieces sep bs := by
  simp only [pieces_eq_splitOn, List.splitOn_append_cons_self]

/-- Without a separator there is one piece. -/
theorem pieces_of_not_mem {cs : List Char} (h : sep ∉ cs) : pieces sep cs = [cs] := by
  rw [pieces_eq_splitOn, List.splitOn_eq_singleton h]

/-- What stands in front of a text is in its first piece. -/
theorem pieces_append_left {us cs p : List Char} {ps : List (List Char)} (hu : sep ∉ us)
    (h : pieces sep cs = p :: ps) : pieces sep (us ++ cs) = (us ++ p) :: ps := by
  induction us with
  | nil => exact h
  | cons u us ih =>
    rw [List.mem_cons, not_or] at hu
    rw [List.cons_append, pieces, if_neg (Ne.symm hu.1), ih hu.2]
    rfl

theorem intercalate_concat_append (ps : List (List Char)) (p vs : List Char) :
    [sep].intercalate (ps ++ [p]) ++ vs = [sep].intercalate (ps ++ [p ++ vs]) := by
  induction ps with
  | nil => simp
  | cons q qs ih =>
    rw [List.cons_append, List.cons_append, List.intercalate_cons_of_ne_nil (by simp),
      List.intercalate_cons_of_ne_nil (by simp), List.append_assoc, ih]

/-- What stands behind a text is in its last piece. -/
theorem pieces_append_right {cs vs p : List Char} {ps : List (List Char)} (hv : sep ∉ vs)
    (h : pieces sep cs = ps ++ [p]) : pieces sep (cs ++ vs) = ps ++ [p ++ vs] := by
  have hcs : cs = [sep].intercalate (ps ++ [p]) := by rw [← h, intercalate_pieces]
  rw [hcs, intercalate_concat_append]
  refine pieces_intercalate (by simp) fun s hs => ?_
  have hmem {q} (hq : q ∈ ps ++ [p]) : sep ∉ q := not_mem_of_mem_pieces (h ▸ hq)
  rcases List.mem_append.1 hs with hs | hs
  · exact hmem (List.mem_append_left _ hs)
  · rw [List.mem_singleton.1 hs, List.mem_append, not_or]
    exact ⟨hmem (by simp), hv⟩

end Pieces

/-! ## Blank space -/

/-- A character that is not blank is not in blank space. -/
theorem not_mem_of_isBlank {c : Char} (hc : isBlank c = false) {us : List Char}
    (h : ∀ u ∈ us, isBlank u = true) : c ∉ us := fun hmem => by simp [h c hmem] at hc

/-- A word with blank characters, or none, on either side. -/
def Padded (word text : List Char) : Prop :=
  ∃ us vs, (∀ u ∈ us, isBlank u = true) ∧ (∀ v ∈ vs, isBlank v = true) ∧ text = us ++ word ++ vs

/-- A text is what trimming leaves of it with blank characters on either side. -/
theorem padded_trim (cs : List Char) : Padded (trim cs) cs := by
  let rest := cs.dropWhile isBlank
  have hback : trim cs ++ rest.rtakeWhile isBlank = rest := List.rdropWhile_append_rtakeWhile
  refine ⟨cs.takeWhile isBlank, rest.rtakeWhile isBlank, fun u hu => List.mem_takeWhile_imp hu,
    fun v hv => List.mem_rtakeWhile_imp hv, ?_⟩
  rw [List.append_assoc, hback, List.takeWhile_append_dropWhile]

/-- Blank space around a word does not count in trimming. -/
theorem trim_of_padded {word text : List Char} (h : Padded word text) : trim text = trim word := by
  obtain ⟨us, vs, hu, hv, rfl⟩ := h
  rw [trim_append_blank _ hv, trim_blank_append _ hu]

/-- What is trimmed has nothing more to trim. -/
theorem trim_trim (cs : List Char) : trim (trim cs) = trim cs :=
  (trim_of_padded (padded_trim cs)).symm

/-- A text without blanks has nothing to trim. -/
theorem trim_eq_self {cs : List Char} (h : ∀ c ∈ cs, isBlank c = false) : trim cs = cs := by
  have hfront : cs.dropWhile isBlank = cs :=
    List.dropWhile_eq_self_iff.2 fun _ => by simp [h]
  have hback : cs.rdropWhile isBlank = cs :=
    List.rdropWhile_eq_self_iff.2 fun _ => by simp [h]
  rw [trim, hfront]
  exact hback

/-- A word without blank characters is what trimming leaves of a text just when the text is
the word with blank characters on either side. -/
theorem trim_eq_iff_padded {word cs : List Char} (h : ∀ c ∈ word, isBlank c = false) :
    trim cs = word ↔ Padded word cs := by
  constructor
  · rintro rfl
    exact padded_trim cs
  · intro hp
    rw [trim_of_padded hp, trim_eq_self h]

/-- Blank characters around a text make no difference to its trimmed pieces. -/
theorem map_trim_pieces {sep : Char} (hsep : isBlank sep = false) {word text : List Char}
    (h : Padded word text) : (pieces sep text).map trim = (pieces sep word).map trim := by
  obtain ⟨us, vs, hu, hv, rfl⟩ := h
  have hback : (pieces sep (us ++ word ++ vs)).map trim = (pieces sep (us ++ word)).map trim := by
    rcases List.eq_nil_or_concat (pieces sep (us ++ word)) with hp | ⟨ps, p, hp⟩
    · exact absurd hp (pieces_ne_nil sep _)
    · rw [List.concat_eq_append] at hp
      rw [pieces_append_right (not_mem_of_isBlank hsep hv) hp, hp]
      simp [trim_append_blank p hv]
  rw [hback]
  cases hp : pieces sep word with
  | nil => exact absurd hp (pieces_ne_nil sep _)
  | cons p ps =>
    rw [pieces_append_left (not_mem_of_isBlank hsep hu) hp]
    simp [trim_blank_append p hu]

end StructEdit.Text
