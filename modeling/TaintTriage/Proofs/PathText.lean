import TaintTriage.SourcePath

/-!
Paths and their texts.  Reading a text gives a path in normal form, and the text of a path in normal
form is read as that path again: bringing a path into normal form twice is doing it once.
-/

namespace TaintTriage

namespace Text

variable {mark : Char}

theorem joinPieces_eq_intercalate (ps : List (List Char)) :
    joinPieces mark ps = [mark].intercalate ps := by
  induction ps with
  | nil => rfl
  | cons first rest ih =>
      cases rest with
      | nil => simp [joinPieces]
      | cons second others => simp [joinPieces, ih]

theorem joinPieces_cons_cons (first second : List Char) (others : List (List Char)) :
    joinPieces mark (first :: second :: others) =
      first ++ mark :: joinPieces mark (second :: others) := rfl

theorem pieces_of_not_mem {piece : List Char} (h : mark ∉ piece) :
    pieces mark piece = [piece] := by
  induction piece with
  | nil => rfl
  | cons c rest ih =>
      rw [List.mem_cons, not_or] at h
      rw [pieces, if_neg (Ne.symm h.1), ih h.2]

theorem pieces_append_mark {piece : List Char} (h : mark ∉ piece) (rest : List Char) :
    pieces mark (piece ++ mark :: rest) = piece :: pieces mark rest := by
  induction piece with
  | nil => simp [pieces]
  | cons c others ih =>
      rw [List.mem_cons, not_or] at h
      rw [List.cons_append, pieces, if_neg (Ne.symm h.1), ih h.2]

/-- Pieces that are put together come apart at the same places. -/
theorem pieces_joinPieces {ps : List (List Char)} (hne : ps ≠ [])
    (h : ∀ piece ∈ ps, mark ∉ piece) : pieces mark (joinPieces mark ps) = ps := by
  induction ps with
  | nil => exact absurd rfl hne
  | cons first rest ih =>
      have hfirst := h first List.mem_cons_self
      cases rest with
      | nil => exact pieces_of_not_mem hfirst
      | cons second others =>
          have hothers : pieces mark (joinPieces mark (second :: others)) = second :: others :=
            ih (List.cons_ne_nil _ _) fun piece hpiece => h piece (List.mem_cons_of_mem _ hpiece)
          rw [joinPieces_cons_cons, pieces_append_mark hfirst, hothers]

/-- What is put together of pieces has no characters but theirs and the mark. -/
theorem mem_joinPieces {ps : List (List Char)} {c : Char} (h : c ∈ joinPieces mark ps) :
    (∃ piece ∈ ps, c ∈ piece) ∨ c = mark := by
  induction ps with
  | nil => exact absurd h List.not_mem_nil
  | cons first rest ih =>
      cases rest with
      | nil => exact Or.inl ⟨first, List.mem_cons_self, h⟩
      | cons second others =>
          rw [joinPieces_cons_cons, List.mem_append, List.mem_cons] at h
          rcases h with hfirst | hmark | hothers
          · exact Or.inl ⟨first, List.mem_cons_self, hfirst⟩
          · exact Or.inr hmark
          · rcases ih hothers with ⟨piece, hpiece, hc⟩ | hmark
            · exact Or.inl ⟨piece, List.mem_cons_of_mem _ hpiece, hc⟩
            · exact Or.inr hmark

theorem mem_joinPieces_of_mem {ps : List (List Char)} {piece : List Char} {c : Char}
    (hpiece : piece ∈ ps) (hc : c ∈ piece) : c ∈ joinPieces mark ps := by
  induction ps with
  | nil => exact absurd hpiece List.not_mem_nil
  | cons first rest ih =>
      cases rest with
      | nil => exact List.mem_singleton.mp hpiece ▸ hc
      | cons second others =>
          rw [joinPieces_cons_cons, List.mem_append]
          rcases List.mem_cons.mp hpiece with rfl | hothers
          · exact Or.inl hc
          · exact Or.inr (List.mem_cons_of_mem _ (ih hothers))

/-- Pieces hold nothing that the text does not. -/
theorem mem_of_mem_pieces {piece s : List Char} {c : Char} (hpiece : piece ∈ pieces mark s)
    (hc : c ∈ piece) : c ∈ s := by
  rw [← joinPieces_pieces mark s]
  exact mem_joinPieces_of_mem hpiece hc

theorem pieces_replicate_append (count : Nat) (s : List Char) :
    pieces mark (List.replicate count mark ++ s) = List.replicate count [] ++ pieces mark s := by
  induction count with
  | zero => rfl
  | succ count ih => simp [List.replicate_succ, pieces, ih]

end Text

namespace SourcePath

/-- A path in normal form: at most two slashes in front, and parts that are neither empty nor a dot
and hold no slash. -/
structure IsNormal (p : SourcePath) : Prop where
  slashes_le : p.slashes ≤ 2
  isPart : ∀ part ∈ p.parts, isPart part.toList = true
  slash_not_mem : ∀ part ∈ p.parts, '/' ∉ part.toList

theorem keptSlashes_le (s : List Char) : keptSlashes s ≤ 2 := by
  rw [keptSlashes]
  split <;> decide

theorem isNormal_ofText (text : String) : (ofText text).IsNormal where
  slashes_le := keptSlashes_le text.toList
  isPart := by
    intro part hpart
    obtain ⟨piece, hpiece, rfl⟩ := List.mem_map.mp hpart
    rw [String.toList_ofList]
    exact (List.mem_filter.mp hpiece).2
  slash_not_mem := by
    intro part hpart
    obtain ⟨piece, hpiece, rfl⟩ := List.mem_map.mp hpart
    rw [String.toList_ofList]
    exact Text.not_mem_of_mem_pieces (List.mem_filter.mp hpiece).1

theorem keptSlashes_replicate_append {count : Nat} {s : List Char} (hcount : count ≤ 2)
    (hs : s.head? ≠ some '/') : keptSlashes (List.replicate count '/' ++ s) = count := by
  have hspan : (List.replicate count '/' ++ s).takeWhile (· == '/') =
      List.replicate count '/' := by
    rw [List.takeWhile_append_of_pos (by simp)]
    cases s with
    | nil => simp
    | cons c rest =>
        have hc : c ≠ '/' := fun heq => hs (congrArg some heq)
        simp [hc]
  rw [keptSlashes, hspan, List.length_replicate]
  match count, hcount with
  | 0, _ => rfl
  | 1, _ => rfl
  | 2, _ => rfl

/-- The characters of a path behind the slashes in front. -/
def body (p : SourcePath) : List Char :=
  Text.joinPieces '/' (p.parts.map String.toList)

theorem toList_intercalate_parts (p : SourcePath) :
    ("/".intercalate p.parts).toList = p.body := by
  rw [String.toList_intercalate, body, Text.joinPieces_eq_intercalate]
  rfl

variable {p : SourcePath}

/-- A path in normal form has no further slash behind those in front. -/
theorem IsNormal.head?_body (h : p.IsNormal) : p.body.head? ≠ some '/' := by
  rw [body]
  cases hparts : p.parts with
  | nil => simp [Text.joinPieces]
  | cons first rest =>
      have hmem : first ∈ p.parts := hparts ▸ List.mem_cons_self
      have hpart := h.isPart first hmem
      have hslash := h.slash_not_mem first hmem
      cases hfirst : first.toList with
      | nil => simp [hfirst, SourcePath.isPart] at hpart
      | cons c others =>
          rw [hfirst, List.mem_cons, not_or] at hslash
          cases rest <;> simp [Text.joinPieces, hfirst, Ne.symm hslash.1]

theorem IsNormal.filter_pieces_body (h : p.IsNormal) :
    (Text.pieces '/' p.body).filter SourcePath.isPart = p.parts.map String.toList := by
  by_cases hparts : p.parts = []
  · rw [body, hparts]
    rfl
  · have hpieces : Text.pieces '/' p.body = p.parts.map String.toList := by
      refine Text.pieces_joinPieces (fun hnil => hparts (List.map_eq_nil_iff.mp hnil)) ?_
      intro piece hpiece
      obtain ⟨part, hpart, rfl⟩ := List.mem_map.mp hpiece
      exact h.slash_not_mem part hpart
    rw [hpieces, List.filter_eq_self]
    intro piece hpiece
    obtain ⟨part, hpart, rfl⟩ := List.mem_map.mp hpiece
    exact h.isPart part hpart

/-- The text of a path in normal form is read as the path. -/
theorem ofText_toText (h : p.IsNormal) : ofText p.toText = p := by
  by_cases hdot : p.slashes = 0 ∧ p.parts.isEmpty = true
  · have hparts : p.parts = [] := List.isEmpty_iff.mp hdot.2
    have hp : p = ⟨0, []⟩ := by rw [← hdot.1, ← hparts]
    rw [hp]
    decide +kernel
  · have htext : p.toText.toList = List.replicate p.slashes '/' ++ p.body := by
      rw [toText, if_neg hdot, String.toList_append, String.toList_ofList,
        toList_intercalate_parts]
    have hparts : (Text.pieces '/' p.toText.toList).filter SourcePath.isPart =
        p.parts.map String.toList := by
      have hempty : (List.replicate p.slashes ([] : List Char)).filter SourcePath.isPart = [] := by
        simp [SourcePath.isPart]
      rw [htext, Text.pieces_replicate_append, List.filter_append, hempty, List.nil_append,
        h.filter_pieces_body]
    have hslashes : keptSlashes p.toText.toList = p.slashes := by
      rw [htext, keptSlashes_replicate_append h.slashes_le h.head?_body]
    have hstrings : (p.parts.map String.toList).map String.ofList = p.parts := by
      rw [List.map_map]
      exact (List.map_congr_left fun part _ => String.ofList_toList).trans (List.map_id _)
    rw [ofText, hslashes, hparts, hstrings]

/-- The text of a path that was read has no characters but those of what was read, slashes and a
dot. -/
theorem mem_toText_ofText {text : String} {c : Char} (h : c ∈ (ofText text).toText.toList) :
    c ∈ text.toList ∨ c = '/' ∨ c = '.' := by
  rw [toText] at h
  split at h
  · exact Or.inr (Or.inr (by simpa using h))
  · rw [String.toList_append, String.toList_ofList, toList_intercalate_parts,
      List.mem_append] at h
    rcases h with hslash | hbody
    · exact Or.inr (Or.inl (List.eq_of_mem_replicate hslash))
    · rcases Text.mem_joinPieces hbody with ⟨piece, hpiece, hc⟩ | hmark
      · left
        obtain ⟨part, hpart, rfl⟩ := List.mem_map.mp hpiece
        obtain ⟨found, hfound, rfl⟩ := List.mem_map.mp hpart
        rw [String.toList_ofList] at hc
        exact Text.mem_of_mem_pieces (List.mem_filter.mp hfound).1 hc
      · exact Or.inr (Or.inl hmark)

end SourcePath

end TaintTriage
