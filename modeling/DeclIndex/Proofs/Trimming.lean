import DeclIndex.Text.Lines
import Mathlib.Data.List.DropRight

/-!
# Trimming

What is trimmed off a text is blank, and nothing more comes off a second time. So a trimmed text has the characters of the
whole one that are not blank.
-/

namespace DeclIndex.Text

/-- A text is its trimmed form with blanks around it. -/
theorem exists_around_trim (text : List Char) :
    ∃ front back, (∀ c ∈ front, isBlank c) ∧ (∀ c ∈ back, isBlank c) ∧ text = front ++ (trim text ++ back) := by
  refine ⟨text.takeWhile isBlank, (trimLeft text).rtakeWhile isBlank, fun c member => List.mem_takeWhile_imp member,
    fun c member => List.mem_rtakeWhile_imp member, ?_⟩
  have right : trim text ++ (trimLeft text).rtakeWhile isBlank = trimLeft text := List.rdropWhile_append_rtakeWhile
  rw [right]
  exact List.takeWhile_append_dropWhile.symm

theorem trimLeft_trim (text : List Char) : trimLeft (trim text) = trim text := by
  refine List.dropWhile_eq_self_iff.mpr fun nonempty => ?_
  -- the first character stayed when blanks were dropped in front of it
  have front : trim text <+: trimLeft text := List.rdropWhile_prefix _ _
  have inside : 0 < (trimLeft text).length := lt_of_lt_of_le nonempty front.length_le
  rw [front.getElem nonempty]
  exact List.dropWhile_get_zero_not _ _ inside

@[simp] theorem trim_trim (text : List Char) : trim (trim text) = trim text := by
  have right : trimRight (trim text) = trim text := List.rdropWhile_idempotent _ _
  rw [trim, trimLeft_trim, right]

theorem trim_sublist (text : List Char) : (trim text).Sublist text := by
  obtain ⟨front, back, _, _, split⟩ := exists_around_trim text
  have inside : (trim text).Sublist (front ++ (trim text ++ back)) :=
    (List.sublist_append_left _ back).trans (List.sublist_append_right front _)
  rwa [← split] at inside

theorem mem_of_mem_trim {c : Char} {text : List Char} (member : c ∈ trim text) : c ∈ text := by
  obtain ⟨front, back, _, _, split⟩ := exists_around_trim text
  rw [split]
  exact List.mem_append_right front (List.mem_append_left back member)

theorem mem_trim_of_mem {c : Char} {text : List Char} (member : c ∈ text) (visible : isBlank c = false) : c ∈ trim text := by
  obtain ⟨front, back, inFront, inBack, split⟩ := exists_around_trim text
  have hidden : ¬ isBlank c = true := by simp [visible]
  rw [split, List.mem_append, List.mem_append] at member
  rcases member with ahead | inside | behind
  · exact absurd (inFront c ahead) hidden
  · exact inside
  · exact absurd (inBack c behind) hidden

theorem contains_trim {c : Char} (visible : isBlank c = false) (text : List Char) : (trim text).contains c = text.contains c := by
  rw [Bool.eq_iff_iff, List.contains_iff_mem, List.contains_iff_mem]
  exact ⟨mem_of_mem_trim, fun member => mem_trim_of_mem member visible⟩

/-! ## Lines -/

theorem lines_unlines {group : List (List Char)} (nonempty : group ≠ []) (single : ∀ line ∈ group, '\n' ∉ line) :
    lines (unlines group) = group :=
  List.splitOn_intercalate '\n' single nonempty

theorem unlines_lines (text : List Char) : unlines (lines text) = text :=
  List.intercalate_splitOn '\n'

/-- Pieces that are joined by another character. -/
theorem intercalate_replaced {a b : Char} {group : List (List Char)} (free : ∀ piece ∈ group, a ∉ piece) :
    ([a].intercalate group).map (fun c => if c = a then b else c) = [b].intercalate group := by
  have kept : ∀ piece ∈ group, piece.map (fun c => if c = a then b else c) = piece := by
    intro piece member
    have fixed : ∀ c ∈ piece, (if c = a then b else c) = c := by
      intro c inside
      rw [if_neg]
      rintro rfl
      exact free piece member inside
    exact (List.map_congr_left fixed).trans (List.map_id piece)
  induction group with
  | nil => rfl
  | cons piece rest ih =>
    obtain ⟨_, freeRest⟩ := List.forall_mem_cons.mp free
    obtain ⟨keptPiece, keptRest⟩ := List.forall_mem_cons.mp kept
    cases rest with
    | nil => simpa using keptPiece
    | cons next more =>
      rw [List.intercalate_cons_cons, List.intercalate_cons_cons, List.map_append, List.map_append, ih freeRest keptRest, keptPiece]
      simp

end DeclIndex.Text
