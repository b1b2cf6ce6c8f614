import StructEdit.Proofs.Key.Grammar

/-!
# StructEdit.Proofs.Key.Spacing

Blank space around a text that writes a key press. Main statement: `Key.ofSpec?_padded`, it
makes no difference except behind two plus signs at the end, which it keeps from being read.
-/

namespace StructEdit.Key

variable {us cs vs : List Char}

/-! ## Two plus signs at the end -/

/-- Whether a text ends in two plus signs does not hang on blank space in front of it. -/
theorem suffix_blank_append_iff (hu : ∀ u ∈ us, Text.isBlank u = true) :
    ['+', '+'] <:+ us ++ cs ↔ ['+', '+'] <:+ cs := by
  induction us with
  | nil => rfl
  | cons u us ih =>
    have hplus : '+' ∉ u :: us := plus_not_mem_of_isBlank hu
    have hne : ['+', '+'] ≠ u :: (us ++ cs) := fun h =>
      hplus (List.mem_cons.2 (.inl (List.cons.inj h).1))
    rw [List.cons_append, List.suffix_cons_iff, ih (List.forall_mem_cons.1 hu).2]
    exact or_iff_right hne

/-- A text that ends in blank space does not end in two plus signs. -/
theorem not_suffix_append_blank (hne : vs ≠ []) (hv : ∀ v ∈ vs, Text.isBlank v = true) :
    ¬ ['+', '+'] <:+ cs ++ vs := by
  rintro ⟨front, hfront⟩
  have hlast : vs.getLast? = some '+' := by
    rw [← List.getLast?_append_of_ne_nil cs hne, ← hfront]
    simp
  exact plus_not_mem_of_isBlank hv (List.mem_of_getLast? hlast)

/-! ## Reading -/

/-- Two plus signs are no key once blank space stands behind them: the last word is then
empty. -/
theorem ofWords?_plus_blank (hne : vs ≠ []) (hv : ∀ v ∈ vs, Text.isBlank v = true) :
    ofWords? (specWords (cs ++ ['+', '+'] ++ vs)) = none := by
  have hpieces : Text.pieces '+' (cs ++ ['+', '+'] ++ vs) = Text.pieces '+' cs ++ [[]] ++ [vs] := by
    simpa using pieces_append_plus cs hv
  have hempty : Text.trim vs = [] := by
    have hpadded : Text.Padded [] vs := ⟨[], vs, by simp, hv, rfl⟩
    simpa [Text.trim] using Text.trim_of_padded hpadded
  have hcode : code? [] = none := by decide
  rw [specWords_of_not_suffix (not_suffix_append_blank hne hv), hpieces,
    Option.eq_none_iff_forall_ne_some]
  intro k hk
  obtain ⟨_, _, _, h, _⟩ := ofWords?_map_trim.1 hk
  simp [hempty, hcode] at h

/-- Blank space in front of a text does not show in its words. -/
theorem specWords_blank_append (hu : ∀ u ∈ us, Text.isBlank u = true) :
    specWords (us ++ cs) = specWords cs := by
  have hwords (ds : List Char) :
      (Text.pieces '+' (us ++ ds)).map Text.trim = (Text.pieces '+' ds).map Text.trim :=
    Text.map_trim_pieces (by decide) ⟨us, [], hu, by simp, by simp⟩
  by_cases hsuffix : ['+', '+'] <:+ cs
  · obtain ⟨front, rfl⟩ := hsuffix
    rw [← List.append_assoc, specWords_append_plus, specWords_append_plus]
    simp [hwords]
  · rw [specWords_of_not_suffix hsuffix,
      specWords_of_not_suffix (mt (suffix_blank_append_iff hu).1 hsuffix), hwords]

/-- Nor does blank space behind it, unless it ends in two plus signs. -/
theorem specWords_append_blank (hsuffix : ¬ ['+', '+'] <:+ cs)
    (hv : ∀ v ∈ vs, Text.isBlank v = true) : specWords (cs ++ vs) = specWords cs := by
  by_cases hne : vs = []
  · rw [hne, List.append_nil]
  · rw [specWords_of_not_suffix hsuffix, specWords_of_not_suffix (not_suffix_append_blank hne hv)]
    exact Text.map_trim_pieces (by decide) ⟨[], vs, by simp, hv, by simp⟩

/-- Blank space around a text makes no difference to the key press that is read from it,
except that two plus signs at the end are not read once there is blank space behind them. -/
theorem ofSpec?_padded {u s v : String} (hu : ∀ c ∈ u.toList, Text.isBlank c = true)
    (hv : ∀ c ∈ v.toList, Text.isBlank c = true) :
    ofSpec? (u ++ s ++ v) = (if v ≠ "" ∧ ['+', '+'] <:+ s.toList then none else ofSpec? s) ∧
      (ofSpec? (u ++ s ++ v) = ofSpec? s ↔
        (v ≠ "" → ['+', '+'] <:+ s.toList → ofSpec? s = none)) := by
  have hread : ofSpec? (u ++ s ++ v) =
      if v ≠ "" ∧ ['+', '+'] <:+ s.toList then none else ofSpec? s := by
    have hv' : v ≠ "" ↔ v.toList ≠ [] := by simp
    have htrim : Text.trim (u.toList ++ s.toList ++ v.toList) = Text.trim s.toList :=
      Text.trim_of_padded ⟨_, _, hu, hv, rfl⟩
    unfold ofSpec?
    simp only [String.toList_append, htrim, hv']
    generalize u.toList = us at hu htrim
    generalize s.toList = cs at htrim
    generalize v.toList = vs at hv htrim
    split
    · next hplus =>
      have hnot : ¬ ['+', '+'] <:+ cs := by
        rintro ⟨front, rfl⟩
        exact trim_append_plus_ne front (by simp) hplus
      rw [if_neg fun h => hnot h.2]
    · rw [List.append_assoc, specWords_blank_append hu]
      split
      · next h =>
        obtain ⟨front, rfl⟩ := h.2
        exact ofWords?_plus_blank h.1 hv
      · next h =>
        by_cases hne : vs = []
        · rw [hne, List.append_nil]
        · rw [specWords_append_blank (fun hsuffix => h ⟨hne, hsuffix⟩) hv]
  refine ⟨hread, ?_⟩
  rw [hread]
  split
  · next h => simp [h, eq_comm]
  · next h => simpa using fun hne hsuffix => absurd ⟨hne, hsuffix⟩ h

theorem ofSpec?_padded_control_plus :
    ofSpec? ("\t" ++ "ctrl++" ++ "") = some ⟨.char '+', { control := true }⟩ ∧
      ofSpec? ("\t" ++ "ctrl++" ++ " ") = none := by
  have htab : ∀ c ∈ "\t".toList, Text.isBlank c = true := List.all_eq_true.1 (by decide)
  have hread : ofSpec? "ctrl++" = some ⟨.char '+', { control := true }⟩ := by decide
  have hspace := (ofSpec?_padded (s := "ctrl++") (v := " ") htab (List.all_eq_true.1 (by decide))).1
  have hnone := (ofSpec?_padded (s := "ctrl++") (v := "") htab (by simp)).2
  rw [if_pos (by decide)] at hspace
  exact ⟨(hnone.2 fun h => absurd rfl h).trans hread, hspace⟩

/-- So blank space can matter: with a space behind it, the plus sign with control is not
read. -/
theorem space_behind_plus_matters :
    ¬ ∀ u s v : String, (∀ c ∈ u.toList, Text.isBlank c = true) →
      (∀ c ∈ v.toList, Text.isBlank c = true) → ofSpec? (u ++ s ++ v) = ofSpec? s := by
  intro h
  have hspace := h "" "ctrl++" " " (by simp) (List.all_eq_true.1 (by decide))
  revert hspace
  decide

end StructEdit.Key
