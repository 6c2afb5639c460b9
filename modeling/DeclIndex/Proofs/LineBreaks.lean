import DeclIndex.Proofs.Readers
import DeclIndex.Proofs.Trimming
import Mathlib.Data.List.Chain

/-!
# Spaces and line breaks

Texts in which blanks stand alone and at no end, so that neither they nor their lines change when they are trimmed, and the texts that
come of them by breaking lines at some of their spaces.
-/

namespace DeclIndex.Text

/-! ## Blanks that stand alone -/

/-- No two blanks stand side by side, and none stands at an end. -/
structure Tidy (text : List Char) : Prop where
  single : text.IsChain fun c d => ¬ (isBlank c ∧ isBlank d)
  first : Visible text
  last : ∀ c ∈ text.getLast?, isBlank c = false

/-- Words with one space between neighbours. -/
structure SingleSpaced (text : List Char) : Prop extends Tidy text where
  spaces : ∀ c ∈ text, isBlank c → c = ' '

section Tidy

variable {text other : List Char}

theorem trimRight_of_last (last : ∀ c ∈ text.getLast?, isBlank c = false) : trimRight text = text := by
  have visible : Visible text.reverse := by
    intro c begins
    rw [List.head?_reverse] at begins
    exact last c begins
  have kept : text.reverse.dropWhile isBlank = text.reverse := trimLeft_of_visible visible
  rw [trimRight, kept, List.reverse_reverse]

theorem Tidy.trim_eq (tidy : Tidy text) : trim text = text := by
  rw [trim, trimLeft_of_visible tidy.first, trimRight_of_last tidy.last]

/-- Whether a text is tidy can be told from where its blanks are. -/
theorem Tidy.of_map_eq (tidy : Tidy text) (same : text.map isBlank = other.map isBlank) : Tidy other := by
  have chain (text : List Char) : text.IsChain (fun c d => ¬ (isBlank c ∧ isBlank d)) ↔
      (text.map isBlank).IsChain fun a b => ¬ (a = true ∧ b = true) := by rw [List.isChain_map]
  refine ⟨?_, fun c there => ?_, fun c there => ?_⟩
  · rw [chain, ← same, ← chain]
    exact tidy.single
  · have moved : (text.map isBlank).head? = some (isBlank c) := by rw [same, List.head?_map, there, Option.map_some]
    rw [List.head?_map] at moved
    obtain ⟨d, inText, blank⟩ := Option.map_eq_some_iff.mp moved
    rw [← blank, tidy.first d inText]
  · have moved : (text.map isBlank).getLast? = some (isBlank c) := by rw [same, List.getLast?_map, there, Option.map_some]
    rw [List.getLast?_map] at moved
    obtain ⟨d, inText, blank⟩ := Option.map_eq_some_iff.mp moved
    rw [← blank, tidy.last d inText]

theorem Tidy.append (tidy : Tidy text) (tidyToo : Tidy other) : Tidy (text ++ other) := by
  refine ⟨List.isChain_append.mpr ⟨tidy.single, tidyToo.single, fun c ends _ _ both => ?_⟩, fun c there => ?_, fun c there => ?_⟩
  · rw [tidy.last c ends] at both
    exact absurd both.1 Bool.false_ne_true
  · cases text with
    | nil => exact tidyToo.first c there
    | cons d more => exact tidy.first c there
  · rcases List.eq_nil_or_concat other with rfl | ⟨front, d, rfl⟩
    · rw [List.append_nil] at there
      exact tidy.last c there
    · rw [List.concat_eq_append, ← List.append_assoc, List.getLast?_concat] at there
      refine tidyToo.last c ?_
      rw [List.concat_eq_append, List.getLast?_concat]
      exact there

theorem tidy_of_nonblank (visible : Nonblank text) : Tidy text := by
  refine ⟨?_, fun c there => visible c (List.mem_of_head? there), fun c there => visible c (List.mem_of_getLast? there)⟩
  induction text with
  | nil => exact .nil
  | cons c rest ih =>
    obtain ⟨here, others⟩ := List.forall_mem_cons.mp visible
    cases rest with
    | nil => exact .singleton c
    | cons d more => exact .cons_cons (by simp [here]) (ih others)

/-- What stands on either side of a blank in a tidy text is there and is tidy. -/
theorem Tidy.around_blank {c : Char} (tidy : Tidy (text ++ c :: other)) (blank : isBlank c) :
    (text ≠ [] ∧ Tidy text) ∧ other ≠ [] ∧ Tidy other := by
  obtain ⟨before, after, meet⟩ := List.isChain_append.mp tidy.single
  refine ⟨⟨?_, before, fun d there => ?_, fun d there => ?_⟩, ?_, after.tail, fun d there => ?_, fun d there => ?_⟩
  · rintro rfl
    exact absurd blank (Bool.eq_false_iff.mp (tidy.first c rfl))
  · refine tidy.first d ?_
    rw [List.head?_append, there]
    rfl
  · exact Bool.eq_false_iff.mpr fun blankToo => meet d there c rfl ⟨blankToo, blank⟩
  · rintro rfl
    exact absurd blank (Bool.eq_false_iff.mp (tidy.last c List.getLast?_concat))
  · cases other with
    | nil => cases there
    | cons e more =>
      cases there
      exact Bool.eq_false_iff.mpr fun blankToo => (List.isChain_cons_cons.mp after).1 ⟨blank, blankToo⟩
  · refine tidy.last d ?_
    rw [List.getLast?_append, List.getLast?_cons, there]
    rfl

theorem Tidy.join_blank {c : Char} (tidy : Tidy text) (nonempty : text ≠ []) (tidyToo : Tidy other) (nonemptyToo : other ≠ []) :
    Tidy (text ++ c :: other) := by
  have chain : (c :: other).IsChain fun c d => ¬ (isBlank c ∧ isBlank d) :=
    List.isChain_cons.mpr ⟨fun d begins both => Bool.eq_false_iff.mp (tidyToo.first d begins) both.2, tidyToo.single⟩
  refine ⟨List.isChain_append.mpr ⟨tidy.single, chain, fun d ends _ _ both => ?_⟩, fun d there => ?_, fun d there => ?_⟩
  · exact Bool.eq_false_iff.mp (tidy.last d ends) both.1
  · rw [List.head?_append_of_ne_nil _ nonempty] at there
    exact tidy.first d there
  · rw [List.getLast?_append_of_ne_nil _ (List.cons_ne_nil c other), List.getLast?_cons_of_ne_nil nonemptyToo] at there
    exact tidyToo.last d there

theorem Tidy.trim_append {blanks : List Char} (tidy : Tidy text) (nonempty : text ≠ []) (blank : ∀ c ∈ blanks, isBlank c) :
    trim (text ++ blanks) = text := by
  have visible : Visible (text ++ blanks) := by
    intro c begins
    rw [List.head?_append_of_ne_nil _ nonempty] at begins
    exact tidy.first c begins
  have blankBack : ∀ c ∈ blanks.reverse, isBlank c := fun c member => blank c (List.mem_reverse.mp member)
  have right : trimRight (text ++ blanks) = trimRight text := by
    rw [trimRight, List.reverse_append, List.dropWhile_append_of_pos blankBack, ← trimRight]
  rw [trim, trimLeft_of_visible visible, right, trimRight_of_last tidy.last]

theorem SingleSpaced.append (spaced : SingleSpaced text) (spacedToo : SingleSpaced other) : SingleSpaced (text ++ other) :=
  ⟨spaced.toTidy.append spacedToo.toTidy, fun c member => (List.mem_append.mp member).elim (spaced.spaces c) (spacedToo.spaces c)⟩

theorem SingleSpaced.join (spaced : SingleSpaced text) (nonempty : text ≠ []) (spacedToo : SingleSpaced other)
    (nonemptyToo : other ≠ []) : SingleSpaced (text ++ ' ' :: other) := by
  refine ⟨spaced.toTidy.join_blank nonempty spacedToo.toTidy nonemptyToo, fun c member blank => ?_⟩
  rcases List.mem_append.mp member with before | after
  · exact spaced.spaces c before blank
  · rcases List.mem_cons.mp after with same | behind
    · exact same
    · exact spacedToo.spaces c behind blank

theorem singleSpaced_of_nonblank (visible : Nonblank text) : SingleSpaced text :=
  ⟨tidy_of_nonblank visible, fun c member blank => absurd blank (Bool.eq_false_iff.mp (visible c member))⟩

/-- There is nothing to close up between words with one space between neighbours. -/
theorem SingleSpaced.normalize_eq (spaced : SingleSpaced text) : normalize text = text := by
  have closed : closeUp text = text := by
    obtain ⟨⟨single, first, last⟩, spaces⟩ := spaced
    clear first
    induction text with
    | nil => rfl
    | cons c rest ih =>
      obtain ⟨spaceHere, spacesMore⟩ := List.forall_mem_cons.mp spaces
      cases rest with
      | nil => rw [closeUp, if_neg (by simp [last c rfl]), closeUp]
      | cons d more =>
        have rest := ih spacesMore single.tail last
        rw [closeUp, rest]
        by_cases blank : isBlank c
        · have visible : isBlank d = false := Bool.eq_false_iff.mpr fun blankToo =>
            (List.isChain_cons_cons.mp single).1 ⟨blank, blankToo⟩
          rw [if_pos blank, spaceHere blank]
          simp [visible]
        · rw [if_neg blank]
  rw [normalize, closed, spaced.toTidy.trim_eq]

end Tidy

/-! ## Lines -/

theorem unlines_cons {line : List Char} {below : List (List Char)} (more : below ≠ []) :
    unlines (line :: below) = line ++ '\n' :: unlines below := by
  obtain ⟨next, rest, rfl⟩ := List.exists_cons_of_ne_nil more
  rw [unlines, List.intercalate_cons_cons, List.append_assoc, List.singleton_append]
  rfl

theorem tidy_of_unlines {group : List (List Char)} (tidy : Tidy (unlines group)) (nonempty : unlines group ≠ []) :
    ∀ line ∈ group, line ≠ [] ∧ Tidy line := by
  induction group with
  | nil => simp
  | cons line below ih =>
    by_cases last : below = []
    · subst last
      have whole : unlines [line] = line := by simp [unlines]
      rw [whole] at tidy nonempty
      simpa using ⟨nonempty, tidy⟩
    · rw [unlines_cons last] at tidy
      obtain ⟨here, nonemptyBelow, tidyBelow⟩ := tidy.around_blank (by decide)
      exact List.forall_mem_cons.mpr ⟨here, ih tidyBelow nonemptyBelow⟩

theorem unlines_concat {front : List (List Char)} (more : front ≠ []) (last : List Char) :
    unlines (front ++ [last]) = unlines front ++ '\n' :: last := by
  induction front with
  | nil => exact absurd rfl more
  | cons line below ih =>
    by_cases single : below = []
    · subst single
      simp [unlines]
    · rw [List.cons_append, unlines_cons (by simp), ih single, unlines_cons single, List.append_assoc, List.cons_append]

/-- What stands in front of all line feeds belongs to the first line. -/
theorem lines_append {front : List Char} (single : '\n' ∉ front) (rest : List Char) :
    lines (front ++ rest) = (lines rest).modifyHead (front ++ ·) := by
  obtain ⟨first, more, split⟩ := List.exists_cons_of_ne_nil (List.splitOn_ne_nil '\n' rest)
  induction front with
  | nil => simp [lines, split]
  | cons c front ih =>
    rw [List.mem_cons, not_or] at single
    have other : ¬ (c == '\n') = true := by simpa using Ne.symm single.1
    rw [List.cons_append, lines, List.splitOn_cons_eq_if_modifyHead, if_neg other, ← lines, ih single.2, lines, split]
    simp

theorem mem_unlines {group : List (List Char)} {c : Char} (visible : c ≠ '\n') :
    c ∈ unlines group ↔ ∃ line ∈ group, c ∈ line := by
  induction group with
  | nil => simp [unlines]
  | cons line below ih =>
    by_cases last : below = []
    · subst last
      simp [unlines]
    · rw [unlines_cons last]
      simp [visible, ih]

/-! ## Breaking a text -/

/-- A character stays as it is, or it is a space and becomes a line feed. -/
def Breaks (c d : Char) : Prop :=
  d = c ∨ c = ' ' ∧ d = '\n'

/-- A text in which some of the spaces behind the first parenthesis are replaced by line feeds. -/
def BreaksTo (text broken : List Char) : Prop :=
  ∃ front rest others, '(' ∉ front ∧ text = front ++ '(' :: rest ∧ broken = front ++ '(' :: others ∧
    List.Forall₂ Breaks rest others

section Breaks

variable {text broken : List Char}

theorem BreaksTo.forall₂ (breaks : BreaksTo text broken) : List.Forall₂ Breaks text broken := by
  obtain ⟨front, rest, others, _, rfl, rfl, replaced⟩ := breaks
  have same : List.Forall₂ Breaks front front := List.forall₂_same.mpr fun _ _ => Or.inl rfl
  exact List.rel_append same (.cons (Or.inl rfl) replaced)

theorem map_isBlank_of_breaks (replaced : List.Forall₂ Breaks text broken) : text.map isBlank = broken.map isBlank := by
  induction replaced with
  | nil => rfl
  | cons here _ ih =>
    rcases here with rfl | ⟨rfl, rfl⟩
    · rw [List.map_cons, List.map_cons, ih]
    · rw [List.map_cons, List.map_cons, ih]
      rfl

/-- Line feeds that are turned into spaces again give the text back. -/
theorem joined_of_breaks (replaced : List.Forall₂ Breaks text broken) (single : '\n' ∉ text) :
    broken.map (fun c => if c = '\n' then ' ' else c) = text := by
  induction replaced with
  | nil => rfl
  | cons here _ ih =>
    rw [List.mem_cons, not_or] at single
    rcases here with rfl | ⟨rfl, rfl⟩
    · rw [List.map_cons, if_neg (Ne.symm single.1), ih single.2]
    · rw [List.map_cons, if_pos rfl, ih single.2]

theorem count_of_breaks (replaced : List.Forall₂ Breaks text broken) {c : Char} (visible : isBlank c = false) :
    broken.count c = text.count c := by
  have noSpace : ' ' ≠ c := by rintro rfl; exact absurd visible (by decide)
  have noFeed : '\n' ≠ c := by rintro rfl; exact absurd visible (by decide)
  induction replaced with
  | nil => rfl
  | cons here _ ih =>
    rcases here with rfl | ⟨rfl, rfl⟩
    · rw [List.count_cons, List.count_cons, ih]
    · rw [List.count_cons_of_ne noFeed, List.count_cons_of_ne noSpace, ih]

end Breaks

end DeclIndex.Text
