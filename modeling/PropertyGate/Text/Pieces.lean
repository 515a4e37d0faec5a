/-!
# Text/Pieces — text between separators

`pieces` cuts a text at every separator, so that there is one piece more than there are separators;
**joining the pieces gives the text again** (`joined_pieces`), and no piece holds a separator.
-/

namespace PropertyGate.Text

/-- What stands before, between and after the separators. -/
def pieces (separator : Char) : List Char → List (List Char)
  | [] => [[]]
  | c :: rest =>
    if c = separator then [] :: pieces separator rest
    else
      match pieces separator rest with
      | [] => [[c]]
      | piece :: others => (c :: piece) :: others

/-- The pieces with a separator between each two. -/
def joined (separator : Char) : List (List Char) → List Char
  | [] => []
  | [piece] => piece
  | piece :: others => piece ++ separator :: joined separator others

theorem pieces_ne_nil (separator : Char) (text : List Char) : pieces separator text ≠ [] := by
  cases text with
  | nil => simp [pieces]
  | cons c rest =>
    rw [pieces]
    split
    · simp
    · split <;> simp

/-- **Joining the pieces of a text gives the text.** -/
theorem joined_pieces (separator : Char) (text : List Char) :
    joined separator (pieces separator text) = text := by
  induction text with
  | nil => rfl
  | cons c rest ih =>
    rw [pieces]
    split
    · rename_i h
      subst h
      cases hp : pieces c rest with
      | nil => exact absurd hp (pieces_ne_nil _ _)
      | cons piece others => rw [hp] at ih; simp [joined, ih]
    · cases hp : pieces separator rest with
      | nil => exact absurd hp (pieces_ne_nil _ _)
      | cons piece others =>
        rw [hp] at ih
        cases others with
        | nil => simpa [joined] using ih
        | cons => simpa [joined] using ih

/-- **No piece holds a separator.** -/
theorem separator_not_mem_of_mem_pieces {separator : Char} {text piece : List Char}
    (h : piece ∈ pieces separator text) : separator ∉ piece := by
  induction text generalizing piece with
  | nil => simp_all [pieces]
  | cons c rest ih =>
    rw [pieces] at h
    split at h
    · rcases List.mem_cons.1 h with rfl | h
      · simp
      · exact ih h
    · rename_i hc
      split at h
      · rw [List.mem_singleton.1 h]
        simpa using fun h => hc h.symm
      · rename_i first others hp
        rw [hp] at ih
        rcases List.mem_cons.1 h with rfl | h
        · intro hmem
          rcases List.mem_cons.1 hmem with hmem | hmem
          · exact hc hmem.symm
          · exact ih List.mem_cons_self hmem
        · exact ih (List.mem_cons_of_mem _ h)

/-- The pieces of a text as texts. -/
def split (separator : Char) (text : String) : List String :=
  (pieces separator text.toList).map String.ofList

end PropertyGate.Text
