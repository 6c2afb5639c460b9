import DeclIndex.Text.Blank
import DeclIndex.Text.Find
import Mathlib.Data.List.Infix

/-!
# Texts inside of texts

One text stands in another if it is a run of neighbouring characters of it. A text without some character stands on one side of that
character, so a text is found in the pieces of another exactly if it is found in the whole and has no separator.
-/

namespace DeclIndex.Text

variable {part text front rest : List Char} {c : Char}

theorem occurs_iff : occurs part text = true ↔ part <:+: text := by
  induction text with
  | nil => simp [occurs]
  | cons c rest ih => rw [occurs, Bool.or_eq_true, List.isPrefixOf_iff_prefix, ih, List.infix_cons_iff]

theorem indexOf?_self (text : List Char) : indexOf? text text = some 0 := by
  cases text with
  | nil => rfl
  | cons c rest => simp [indexOf?]

/-- The first piece is what stands before the first separator. -/
theorem exists_pieces_cons (separates : Char → Bool) (text : List Char) :
    ∃ more, pieces separates text = text.takeWhile (!separates ·) :: more := by
  fun_induction pieces separates text with
  | case1 => exact ⟨[], rfl⟩
  | case2 c separator => exact ⟨[[]], by simp [separator]⟩
  | case3 c separator d others separatorToo ih =>
    obtain ⟨more, same⟩ := ih
    rw [same]
    exact ⟨more, by simp [separator, separatorToo]⟩
  | case4 c separator d others letter ih => exact ⟨pieces separates (d :: others), by simp [separator]⟩
  | case5 c rest letter ih =>
    obtain ⟨more, same⟩ := ih
    rw [same]
    exact ⟨more, by simp [letter]⟩

/-! ## Around a character -/

theorem prefix_append_cons_iff (free : c ∉ part) (front rest : List Char) : part <+: front ++ c :: rest ↔ part <+: front := by
  induction part generalizing front with
  | nil => simp
  | cons d more ih =>
    obtain ⟨other, freeMore⟩ := not_or.mp (mt List.mem_cons.mpr free)
    cases front with
    | nil => simp [Ne.symm other]
    | cons e others => rw [List.cons_append, List.cons_prefix_cons, List.cons_prefix_cons, ih freeMore]

/-- A text without a character stands in front of it or behind it. -/
theorem infix_append_cons_iff (free : c ∉ part) (front rest : List Char) :
    part <:+: front ++ c :: rest ↔ part <:+: front ∨ part <:+: rest := by
  induction front with
  | nil =>
    have first := prefix_append_cons_iff free [] rest
    rw [List.nil_append] at first
    rw [List.nil_append, List.infix_cons_iff, first, List.prefix_nil, List.infix_nil]
  | cons d others ih =>
    have first := prefix_append_cons_iff free (d :: others) rest
    rw [List.cons_append] at first
    rw [List.cons_append, List.infix_cons_iff, first, ih, List.infix_cons_iff, or_assoc]

theorem prefix_of_concat_prefix (free : c ∉ part) (front : List Char) (begins : part ++ [c] <+: front ++ c :: rest) :
    part ++ [c] <+: front ∨ part = front := by
  induction part generalizing front with
  | nil =>
    cases front with
    | nil => exact Or.inr rfl
    | cons e others =>
      left
      simpa using begins
  | cons d more ih =>
    obtain ⟨other, freeMore⟩ := not_or.mp (mt List.mem_cons.mpr free)
    cases front with
    | nil => exact absurd (List.cons_prefix_cons.mp begins).1.symm other
    | cons e others =>
      rw [List.cons_append, List.cons_append, List.cons_prefix_cons] at begins
      obtain ⟨rfl, begins⟩ := begins
      rw [List.cons_append, List.cons_prefix_cons, List.cons.injEq]
      simpa using ih freeMore others begins

/-- A text that ends with its only such character stands in front of the character, or ends with it, or stands behind it. -/
theorem infix_of_concat_infix (free : c ∉ part) (inside : part ++ [c] <:+: front ++ c :: rest) :
    part ++ [c] <:+: front ∨ part <:+ front ∨ part ++ [c] <:+: rest := by
  induction front with
  | nil =>
    rcases List.infix_cons_iff.mp inside with begins | later
    · rcases prefix_of_concat_prefix free [] begins with within | whole
      · simp at within
      · exact Or.inr (Or.inl (whole ▸ List.suffix_rfl))
    · exact Or.inr (Or.inr later)
  | cons d others ih =>
    rcases List.infix_cons_iff.mp inside with begins | later
    · rcases prefix_of_concat_prefix free (d :: others) begins with within | whole
      · exact Or.inl within.isInfix
      · exact Or.inr (Or.inl (whole ▸ List.suffix_rfl))
    · rcases ih later with within | ends | behind
      · exact Or.inl (within.trans (List.suffix_cons d others).isInfix)
      · exact Or.inr (Or.inl (ends.trans (List.suffix_cons d others)))
      · exact Or.inr (Or.inr behind)

/-! ## Texts in pieces -/

section Pieces

variable {separates : Char → Bool}

theorem pieces_of_free (free : ∀ c ∈ text, separates c = false) : pieces separates text = [text] := by
  fun_induction pieces separates text with
  | case1 => rfl
  | case2 c separator => simp [separator] at free
  | case3 c separator => simp [separator] at free
  | case4 c separator => simp [separator] at free
  | case5 c rest letter ih => rw [ih (List.forall_mem_cons.mp free).2, List.modifyHead_cons]

theorem pieces_congr {divides : Char → Bool} (same : ∀ c ∈ text, separates c = divides c) :
    pieces separates text = pieces divides text := by
  induction text with
  | nil => rfl
  | cons c rest ih =>
    obtain ⟨here, later⟩ := List.forall_mem_cons.mp same
    cases rest with
    | nil => simp only [pieces, here]
    | cons d others =>
      rw [pieces, pieces, ih later, here, same d (by simp)]

/-- The pieces do not change if separators are replaced by others. -/
theorem pieces_map {f : Char → Char} (keeps : ∀ c, separates (f c) = separates c) (fixes : ∀ c, separates c = false → f c = c) :
    pieces separates (text.map f) = pieces separates text := by
  fun_induction pieces separates text with
  | case1 => rfl
  | case2 c separator => simp [pieces, keeps, separator]
  | case3 c separator d others separatorToo ih =>
    rw [List.map_cons] at ih
    rw [List.map_cons, List.map_cons, pieces, keeps, if_pos separator, keeps, if_pos separatorToo, ih]
  | case4 c separator d others letter ih =>
    rw [List.map_cons] at ih
    rw [List.map_cons, List.map_cons, pieces, keeps, if_pos separator, keeps, if_neg letter, ih]
  | case5 c rest letter ih =>
    have same : f c = c := fixes c (by simpa using letter)
    rw [List.map_cons, same, pieces.eq_def]
    simp [letter, ih]

theorem two_le_length_pieces (separated : ∃ c ∈ text, separates c = true) : 2 ≤ (pieces separates text).length := by
  fun_induction pieces separates text with
  | case1 => simp at separated
  | case2 => simp
  | case3 c separator d others separatorToo ih => exact ih ⟨d, List.mem_cons_self, separatorToo⟩
  | case4 c separator d others letter ih =>
    obtain ⟨more, same⟩ := exists_pieces_cons separates (d :: others)
    simp [same]
  | case5 c rest letter ih =>
    rw [List.length_modifyHead]
    obtain ⟨d, member, separator⟩ := separated
    rcases List.mem_cons.mp member with rfl | later
    · exact absurd separator letter
    · exact ih ⟨d, later, separator⟩

theorem free_of_mem_pieces : ∀ piece ∈ pieces separates text, ∀ c ∈ piece, separates c = false := by
  fun_induction pieces separates text with
  | case1 => simp
  | case2 => simp
  | case3 c separator d others separatorToo ih => exact ih
  | case4 c separator d others letter ih => exact List.forall_mem_cons.mpr ⟨by simp, ih⟩
  | case5 c rest letter ih =>
    obtain ⟨more, same⟩ := exists_pieces_cons separates rest
    rw [same] at ih ⊢
    obtain ⟨first, later⟩ := List.forall_mem_cons.mp ih
    exact List.forall_mem_cons.mpr ⟨List.forall_mem_cons.mpr ⟨by simpa using letter, first⟩, later⟩

theorem infix_of_mem_pieces : ∀ piece ∈ pieces separates text, piece <:+: text := by
  fun_induction pieces separates text with
  | case1 => simp
  | case2 => simp
  | case3 c separator d others separatorToo ih =>
    exact fun piece member => (ih piece member).trans (List.suffix_cons c _).isInfix
  | case4 c separator d others letter ih =>
    refine List.forall_mem_cons.mpr ⟨List.nil_infix, fun piece member => ?_⟩
    exact (ih piece member).trans (List.suffix_cons c _).isInfix
  | case5 c rest letter ih =>
    obtain ⟨more, same⟩ := exists_pieces_cons separates rest
    rw [same] at ih ⊢
    obtain ⟨_, later⟩ := List.forall_mem_cons.mp ih
    refine List.forall_mem_cons.mpr ⟨?_, fun piece member => (later piece member).trans (List.suffix_cons c _).isInfix⟩
    exact (List.cons_prefix_cons.mpr ⟨rfl, List.takeWhile_prefix _⟩).isInfix

theorem exists_mem_pieces (free : ∀ c ∈ part, separates c = false) (inside : part <:+: text) :
    ∃ piece ∈ pieces separates text, part <:+: piece := by
  -- a part without separators that is found behind one is found in the rest
  have behind {c : Char} {rest : List Char} (separator : separates c = true) (inside : part <:+: c :: rest) : part <:+: rest := by
    have other : c ∉ part := fun member => by simp [free c member] at separator
    rcases (infix_append_cons_iff other [] rest).mp inside with empty | later
    · rw [List.infix_nil.mp empty]
      exact List.nil_infix
    · exact later
  fun_induction pieces separates text with
  | case1 => exact ⟨[], by simp, inside⟩
  | case2 c separator => exact ⟨[], by simp, behind separator inside⟩
  | case3 c separator d others separatorToo ih => exact ih (behind separator inside)
  | case4 c separator d others letter ih =>
    obtain ⟨piece, member, found⟩ := ih (behind separator inside)
    exact ⟨piece, List.mem_cons_of_mem _ member, found⟩
  | case5 c rest letter ih =>
    obtain ⟨more, same⟩ := exists_pieces_cons separates rest
    rw [same] at ih ⊢
    rcases List.infix_cons_iff.mp inside with ⟨left, split⟩ | later
    · refine ⟨c :: rest.takeWhile (!separates ·), List.mem_cons_self, ?_⟩
      have longer : c :: rest.takeWhile (!separates ·) = part ++ left.takeWhile (!separates ·) := by
        have taken : (part ++ left).takeWhile (!separates ·) = part ++ left.takeWhile (!separates ·) :=
          List.takeWhile_append_of_pos fun d member => by simpa using free d member
        rw [split, List.takeWhile_cons_of_pos (by simpa using letter)] at taken
        exact taken
      rw [longer]
      exact (List.prefix_append _ _).isInfix
    · obtain ⟨piece, member, found⟩ := ih later
      rcases List.mem_cons.mp member with rfl | other
      · exact ⟨_, List.mem_cons_self, found.trans (List.suffix_cons c _).isInfix⟩
      · exact ⟨piece, List.mem_cons_of_mem _ other, found⟩

/-- A text stands in one of the pieces exactly if it stands in the whole and has no separator. -/
theorem exists_infix_piece_iff :
    (∃ piece ∈ pieces separates text, part <:+: piece) ↔ (∀ c ∈ part, separates c = false) ∧ part <:+: text := by
  constructor
  · rintro ⟨piece, member, inside⟩
    exact ⟨fun c there => free_of_mem_pieces piece member c (inside.subset there), inside.trans (infix_of_mem_pieces piece member)⟩
  · rintro ⟨free, inside⟩
    exact exists_mem_pieces free inside

end Pieces

end DeclIndex.Text
