/-!
# StructEdit.Text.Split

A text cut at a separating character (`pieces`). Main statements:
`intercalate_pieces`, joining the pieces again gives the text, and
`not_mem_of_mem_pieces`, no piece holds the separator.
-/

namespace StructEdit.Text

/-- The pieces of a text between the occurrences of a separator. There is one
piece more than there are separators, so an empty text has one empty piece. -/
def pieces (sep : Char) : List Char → List (List Char)
  | [] => [[]]
  | c :: cs =>
    if c = sep then [] :: pieces sep cs
    else
      match pieces sep cs with
      | [] => [[c]]
      | p :: ps => (c :: p) :: ps

theorem pieces_ne_nil (sep : Char) (cs : List Char) : pieces sep cs ≠ [] := by
  cases cs with
  | nil => simp [pieces]
  | cons c cs =>
    rw [pieces]
    split
    · simp
    · split <;> simp

/-- Joining the pieces with the separator gives the text back. -/
theorem intercalate_pieces (sep : Char) (cs : List Char) :
    [sep].intercalate (pieces sep cs) = cs := by
  induction cs with
  | nil => simp [pieces, List.intercalate]
  | cons c cs ih =>
    rw [pieces]
    cases h : pieces sep cs with
    | nil => exact absurd h (pieces_ne_nil sep cs)
    | cons p ps =>
      rw [h] at ih
      split
      · next hc => cases ps <;> simp_all [List.intercalate, List.intersperse]
      · cases ps <;> simp_all [List.intercalate, List.intersperse]

/-- No piece holds the separator. -/
theorem not_mem_of_mem_pieces {sep : Char} {cs p : List Char} (h : p ∈ pieces sep cs) :
    sep ∉ p := by
  induction cs generalizing p with
  | nil => simp_all [pieces]
  | cons c cs ih =>
    rw [pieces] at h
    split at h
    · rcases List.mem_cons.1 h with rfl | h
      · simp
      · exact ih h
    · next hc =>
      split at h
      · next hp => exact absurd hp (pieces_ne_nil sep cs)
      · next q qs hp =>
        rcases List.mem_cons.1 h with rfl | h
        · have hq := ih (p := q) (by simp [hp])
          simp only [List.mem_cons, not_or]
          exact ⟨fun he => hc he.symm, hq⟩
        · exact ih (by simp [hp, h])

end StructEdit.Text
