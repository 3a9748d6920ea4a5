/-!
Cutting a text at a mark.  `pieces` never loses anything: joining the pieces with the mark gives
the text back.
-/

namespace TaintTriage.Text

/-- The pieces of a text between the occurrences of a mark; a text without the mark is its only
piece. -/
def pieces (mark : Char) : List Char → List (List Char)
  | [] => [[]]
  | c :: rest =>
      if c = mark then [] :: pieces mark rest
      else
        match pieces mark rest with
        | [] => [[c]]
        | first :: others => (c :: first) :: others

/-- Pieces put together with a mark between them. -/
def joinPieces (mark : Char) : List (List Char) → List Char
  | [] => []
  | [piece] => piece
  | piece :: others => piece ++ mark :: joinPieces mark others

theorem pieces_ne_nil (mark : Char) (s : List Char) : pieces mark s ≠ [] := by
  cases s with
  | nil => simp [pieces]
  | cons c rest =>
      by_cases h : c = mark
      · simp [pieces, h]
      · simp only [pieces, h, ↓reduceIte]
        split <;> simp

theorem joinPieces_pieces (mark : Char) (s : List Char) :
    joinPieces mark (pieces mark s) = s := by
  induction s with
  | nil => rfl
  | cons c rest ih =>
      have hne := pieces_ne_nil mark rest
      by_cases h : c = mark
      · subst h
        simp only [pieces, ↓reduceIte]
        match hp : pieces c rest with
        | [] => exact absurd hp hne
        | first :: others =>
            rw [hp] at ih
            simp [joinPieces, ih]
      · simp only [pieces, h, ↓reduceIte]
        match hp : pieces mark rest with
        | [] => exact absurd hp hne
        | [first] =>
            rw [hp] at ih
            simpa [joinPieces] using ih
        | first :: second :: others =>
            rw [hp] at ih
            simpa [joinPieces] using ih

/-- No piece holds the mark. -/
theorem not_mem_of_mem_pieces {mark : Char} {s piece : List Char}
    (hpiece : piece ∈ pieces mark s) : mark ∉ piece := by
  induction s generalizing piece with
  | nil => simp_all [pieces]
  | cons c rest ih =>
      by_cases h : c = mark
      · simp only [pieces, h, ↓reduceIte, List.mem_cons] at hpiece
        rcases hpiece with rfl | hpiece
        · simp
        · exact ih hpiece
      · simp only [pieces, h, ↓reduceIte] at hpiece
        match hp : pieces mark rest with
        | [] => exact absurd hp (pieces_ne_nil mark rest)
        | first :: others =>
            rw [hp] at hpiece ih
            simp only [List.mem_cons] at hpiece
            rcases hpiece with rfl | hpiece
            · have hfirst : mark ∉ first := ih List.mem_cons_self
              simp [hfirst, Ne.symm h]
            · exact ih (List.mem_cons_of_mem _ hpiece)

example : pieces ':' "a::b".toList = ["a".toList, [], "b".toList] := by decide

end TaintTriage.Text
