import DeclIndex.Proofs.ParameterLists

/-!
# Where parameter lists are cut

A parameter list is cut at a comma exactly if, in the text before it, as many brackets are closed as opened and no angle bracket is
open. The pieces leave these counts as they were, but for the last one. So a list that is put together again from its pieces falls
into the same pieces, unless the last of them is empty.
-/

namespace DeclIndex.Bracket
open DeclIndex.Text

/-! ## Counting brackets -/

/-- How many more round, square and curly brackets a text opens than it closes. -/
def excess (text : List Char) : Int :=
  text.countP (['(', '[', '{'].contains ·) - text.countP ([')', ']', '}'].contains ·)

/-- How many angle brackets are open after one more character. Never less than none are. -/
def angleStep (depth : Nat) (c : Char) : Nat :=
  if c = '<' then depth + 1 else if c = '>' then depth - 1 else depth

/-- How many angle brackets are open at the end of a text. -/
def angleDepth (text : List Char) : Nat :=
  text.foldl angleStep 0

/-- A comma behind a text stands outside of all brackets. -/
def Outside (before : List Char) : Prop :=
  excess before = 0 ∧ angleDepth before = 0

section Counting

variable {nesting : Nesting} {text : List Char}

theorem level_read (nesting : Nesting) (c : Char) : (nesting.read c).level = nesting.level + excess [c] := by
  simp only [Nesting.read, excess, List.countP_singleton, List.contains_cons, List.contains_nil, Bool.or_false, Bool.or_eq_true,
    decide_eq_true_eq, beq_iff_eq]
  grind

theorem angle_read (nesting : Nesting) (c : Char) : (nesting.read c).angle = angleStep nesting.angle c := by
  simp only [Nesting.read, angleStep]
  grind

theorem level_after (nesting : Nesting) (text : List Char) : (nesting.after text).level = nesting.level + excess text := by
  induction text generalizing nesting with
  | nil => simp [excess]
  | cons c rest ih =>
    have split : excess (c :: rest) = excess [c] + excess rest := by
      rw [← List.singleton_append]
      simp only [excess, List.countP_append]
      omega
    rw [Nesting.after_cons, ih, level_read, split]
    omega

theorem angle_after (nesting : Nesting) (text : List Char) : (nesting.after text).angle = text.foldl angleStep nesting.angle := by
  induction text generalizing nesting with
  | nil => rfl
  | cons c rest ih => rw [Nesting.after_cons, ih, angle_read, List.foldl_cons]

theorem Nesting.isOutside_iff : nesting.isOutside = true ↔ nesting = {} := by
  obtain ⟨level, angle⟩ := nesting
  simp [Nesting.isOutside]

theorem isOutside_after_iff : (({} : Nesting).after text).isOutside = true ↔ Outside text := by
  simp [Nesting.isOutside, level_after, angle_after, Outside, angleDepth]

end Counting

/-! ## Cutting -/

/-- The parts that a text is cut into at exactly those commas that have a text of some kind before them. -/
structure CutWhere (separates : List Char → Prop) (text : List Char) (parts : List (List Char)) : Prop where
  joined : [','].intercalate parts = text
  cut_iff : ∀ before after, text = before ++ ',' :: after →
    (separates before ↔ ∃ front back, front ≠ [] ∧ back ≠ [] ∧ parts = front ++ back ∧
      [','].intercalate front = before ∧ [','].intercalate back = after)

section Cutting

variable {separates : List Char → Prop} {rest first : List Char} {parts more : List (List Char)} {c : Char}

theorem cutWhere_nil : CutWhere separates [] [[]] :=
  ⟨rfl, fun before after split => by simp at split⟩

theorem intercalate_cons_head (c : Char) (first : List Char) (more : List (List Char)) :
    [','].intercalate ((c :: first) :: more) = c :: [','].intercalate (first :: more) := by
  cases more with
  | nil => simp
  | cons next others => simp [List.intercalate_cons_cons]

theorem intercalate_nil_cons (nonempty : parts ≠ []) : [','].intercalate ([] :: parts) = ',' :: [','].intercalate parts := by
  obtain ⟨first, more, rfl⟩ := List.exists_cons_of_ne_nil nonempty
  simp [List.intercalate_cons_cons]

/-- A text is cut at its first character. -/
theorem CutWhere.cut (here : separates []) (nonempty : parts ≠ []) (cut : CutWhere (fun before => separates (',' :: before)) rest parts) :
    CutWhere separates (',' :: rest) ([] :: parts) := by
  refine ⟨by rw [intercalate_nil_cons nonempty, cut.joined], fun before after split => ?_⟩
  cases before with
  | nil =>
    cases split
    exact iff_of_true here ⟨[[]], parts, List.cons_ne_nil _ _, nonempty, rfl, rfl, cut.joined⟩
  | cons c before =>
    cases split
    rw [cut.cut_iff before after rfl]
    constructor
    · rintro ⟨front, back, frontThere, backThere, rfl, rfl, rfl⟩
      exact ⟨[] :: front, back, List.cons_ne_nil _ _, backThere, rfl, intercalate_nil_cons frontThere, rfl⟩
    · rintro ⟨front, back, frontThere, backThere, same, joinedFront, joinedBack⟩
      obtain ⟨top, front, rfl⟩ := List.exists_cons_of_ne_nil frontThere
      obtain ⟨rfl, rfl⟩ := List.cons.inj same
      -- a front of one empty part would have nothing before the comma
      have frontThere : front ≠ [] := by
        rintro rfl
        simp at joinedFront
      rw [intercalate_nil_cons frontThere] at joinedFront
      exact ⟨front, back, frontThere, backThere, rfl, (List.cons.inj joinedFront).2, joinedBack⟩

/-- The first character of a text stays in its first part. -/
theorem CutWhere.keep (kept : c = ',' → ¬ separates []) (cut : CutWhere (fun before => separates (c :: before)) rest (first :: more)) :
    CutWhere separates (c :: rest) ((c :: first) :: more) := by
  refine ⟨by rw [intercalate_cons_head, cut.joined], fun before after split => ?_⟩
  cases before with
  | nil =>
    cases split
    refine iff_of_false (kept rfl) ?_
    rintro ⟨front, back, frontThere, _, same, joinedFront, _⟩
    obtain ⟨top, front, rfl⟩ := List.exists_cons_of_ne_nil frontThere
    obtain ⟨rfl, _⟩ := List.cons.inj same
    rw [intercalate_cons_head] at joinedFront
    cases joinedFront
  | cons d before =>
    cases split
    rw [cut.cut_iff before after rfl]
    constructor
    · rintro ⟨front, back, frontThere, backThere, same, rfl, rfl⟩
      obtain ⟨top, front, rfl⟩ := List.exists_cons_of_ne_nil frontThere
      obtain ⟨rfl, rfl⟩ := List.cons.inj same
      exact ⟨(c :: first) :: front, back, List.cons_ne_nil _ _, backThere, rfl, intercalate_cons_head .., rfl⟩
    · rintro ⟨front, back, frontThere, backThere, same, joinedFront, joinedBack⟩
      obtain ⟨top, front, rfl⟩ := List.exists_cons_of_ne_nil frontThere
      obtain ⟨rfl, rfl⟩ := List.cons.inj same
      rw [intercalate_cons_head] at joinedFront
      exact ⟨first :: front, back, List.cons_ne_nil _ _, backThere, rfl, (List.cons.inj joinedFront).2, joinedBack⟩

theorem cutWhere_segments (nesting : Nesting) (text : List Char) :
    CutWhere (fun before => (nesting.after before).isOutside) text (segments nesting text) := by
  induction text generalizing nesting with
  | nil => exact cutWhere_nil
  | cons c rest ih =>
    rw [segments]
    split
    · next outside =>
      rw [Bool.and_eq_true, decide_eq_true_eq] at outside
      obtain ⟨rfl, outside⟩ := outside
      exact CutWhere.cut outside (segments_ne_nil nesting rest) (ih nesting)
    · next inside =>
      obtain ⟨first, more, parts⟩ := List.exists_cons_of_ne_nil (segments_ne_nil (nesting.read c) rest)
      have later := ih (nesting.read c)
      rw [parts] at later ⊢
      refine CutWhere.keep (fun comma outside => inside ?_) later
      rw [comma, Bool.and_eq_true]
      exact ⟨by decide, outside⟩

end Cutting

/-! ## Pieces -/

section Pieces

variable {nesting : Nesting} {text : List Char}

theorem forall_mem_dropLast_cons {holds : List Char → Prop} {first : List Char} {more : List (List Char)} :
    (∀ part ∈ (first :: more).dropLast, holds part) ↔ (more ≠ [] → holds first) ∧ ∀ part ∈ more.dropLast, holds part := by
  cases more with
  | nil => simp
  | cons next others =>
    rw [List.dropLast_cons_of_ne_nil (List.cons_ne_nil next others), List.forall_mem_cons]
    simp

/-- A segment is cut nowhere inside. One that ends at a comma leaves no bracket open. -/
theorem segments_spec (nesting : Nesting) (text : List Char) :
    ∃ first more, segments nesting text = first :: more ∧
      cuts nesting first = 0 ∧ (more ≠ [] → nesting.after first = {}) ∧
      (∀ part ∈ more, cuts {} part = 0) ∧ ∀ part ∈ more.dropLast, Closed part := by
  induction text generalizing nesting with
  | nil => exact ⟨[], [], rfl, rfl, by simp, by simp, by simp⟩
  | cons c rest ih =>
    rw [segments]
    split
    · next outside =>
      rw [Bool.and_eq_true] at outside
      obtain rfl := Nesting.isOutside_iff.mp outside.2
      obtain ⟨first, more, parts, whole, closed, wholeMore, closedMore⟩ := ih {}
      exact ⟨[], first :: more, by rw [parts], rfl, fun _ => rfl, List.forall_mem_cons.mpr ⟨whole, wholeMore⟩,
        forall_mem_dropLast_cons.mpr ⟨closed, closedMore⟩⟩
    · next inside =>
      obtain ⟨first, more, parts, whole, closed, later⟩ := ih (nesting.read c)
      refine ⟨c :: first, more, by rw [parts]; rfl, ?_, closed, later⟩
      rw [cuts, if_neg inside, whole]

theorem isBlank_of_mem_marks {c : Char} (mark : c ∈ marks) : isBlank c = false := by
  have all : marks.all (!isBlank ·) = true := by decide
  simpa using List.all_eq_true.mp all c mark

theorem unmarked_of_blank (blank : ∀ c ∈ text, isBlank c) : Unmarked text := by
  intro c member mark
  have visible := isBlank_of_mem_marks mark
  rw [blank c member] at visible
  cases visible

theorem after_trim (nesting : Nesting) (text : List Char) : nesting.after (trim text) = nesting.after text := by
  obtain ⟨front, back, inFront, inBack, split⟩ := exists_around_trim text
  conv_rhs => rw [split]
  rw [Nesting.after_append, Nesting.after_append, after_of_plain (unmarked_of_blank inFront),
    after_of_plain (unmarked_of_blank inBack)]

theorem cuts_trim (nesting : Nesting) (text : List Char) : cuts nesting (trim text) = cuts nesting text := by
  obtain ⟨front, back, inFront, inBack, split⟩ := exists_around_trim text
  conv_rhs => rw [split]
  rw [cuts_append, cuts_append, cuts_of_plain (unmarked_of_blank inFront), after_of_plain (unmarked_of_blank inFront),
    cuts_of_plain (unmarked_of_blank inBack)]
  omega

theorem trim_eq_nil_iff : trim text = [] ↔ text.all isBlank := by
  rw [List.all_eq_true]
  constructor
  · intro nothing c member
    by_contra visible
    have kept := mem_trim_of_mem member (Bool.eq_false_iff.mpr visible)
    rw [nothing] at kept
    cases kept
  · intro blank
    rw [trim, trimLeft, List.dropWhile_eq_nil_iff.mpr blank]
    rfl

/-- The pieces of a list are its trimmed segments, without the last one if that is blank. -/
theorem exists_segments_splitParameters (text : List Char) :
    ∃ front last, segments {} text = front ++ [last] ∧
      splitParameters text = front.map trim ++ (if last.all isBlank then [] else [trim last]) := by
  obtain ⟨front, last, parts⟩ := List.eq_nil_or_concat (segments {} text) |>.resolve_left (segments_ne_nil {} text)
  rw [List.concat_eq_append] at parts
  refine ⟨front, last, parts, ?_⟩
  rw [splitParameters, parts, List.map_append, List.map_singleton, List.getLast?_concat, List.dropLast_concat]
  simp only [Option.some.injEq, trim_eq_nil_iff]
  split
  · rw [List.append_nil]
  · rfl

/-- A piece is trimmed and cut nowhere inside, and each but the last one leaves no bracket open. -/
theorem splitParameters_pieces (text : List Char) :
    (∀ piece ∈ splitParameters text, trim piece = piece ∧ cuts {} piece = 0) ∧
      ∀ piece ∈ (splitParameters text).dropLast, Closed piece := by
  obtain ⟨first, more, parts, whole, closed, wholeMore, closedMore⟩ := segments_spec {} text
  obtain ⟨front, last, same, pieces⟩ := exists_segments_splitParameters text
  have wholeAll : ∀ part ∈ front ++ [last], cuts {} part = 0 := by
    rw [← same, parts]
    exact List.forall_mem_cons.mpr ⟨whole, wholeMore⟩
  have closedFront : ∀ part ∈ front, Closed part := by
    have all : ∀ part ∈ (first :: more).dropLast, Closed part := forall_mem_dropLast_cons.mpr ⟨closed, closedMore⟩
    rwa [← parts, same, List.dropLast_concat] at all
  have trimmed (part : List Char) (inside : cuts {} part = 0) : trim (trim part) = trim part ∧ cuts {} (trim part) = 0 :=
    ⟨trim_trim part, by rw [cuts_trim, inside]⟩
  have closedTrimmed : ∀ piece ∈ front.map trim, Closed piece := by
    rw [List.forall_mem_map]
    intro part member
    rw [Closed, after_trim]
    exact closedFront part member
  have pieceOfFront : ∀ piece ∈ front.map trim, trim piece = piece ∧ cuts {} piece = 0 := by
    rw [List.forall_mem_map]
    exact fun part member => trimmed part (wholeAll part (List.mem_append_left _ member))
  rw [pieces]
  split
  · rw [List.append_nil]
    exact ⟨pieceOfFront, fun piece member => closedTrimmed piece (List.mem_of_mem_dropLast member)⟩
  · rw [List.dropLast_concat]
    refine ⟨fun piece member => ?_, closedTrimmed⟩
    rcases List.mem_append.mp member with inFront | isLast
    · exact pieceOfFront piece inFront
    · rw [List.mem_singleton.mp isLast]
      exact trimmed last (wholeAll last (by simp))

/-- Pieces that are put together are cut into themselves, and an empty one at the end is lost. -/
theorem splitParameters_joined_pieces (text : List Char) :
    splitParameters (joined (splitParameters text)) =
      if (splitParameters text).getLast? = some [] then (splitParameters text).dropLast else splitParameters text := by
  obtain ⟨whole, closed⟩ := splitParameters_pieces text
  by_cases empty : splitParameters text = []
  · rw [empty]
    rfl
  · rw [splitParameters.eq_def (joined _), map_trim_segments_joined empty closed (fun piece member => (whole piece member).2)
      fun piece member => (whole piece member).1]

end Pieces

/-- A parameter list is cut at exactly the commas outside of all brackets. Its pieces are the trimmed parts, without the last one if
that is blank. Joined again, they fall into the same pieces exactly if the last one is not empty. -/
theorem splitParameters_cutOutside (text : List Char) :
    (∃ front last, CutWhere Outside text (front ++ [last]) ∧
      splitParameters text = front.map trim ++ (if last.all isBlank then [] else [trim last])) ∧
    (splitParameters (joined (splitParameters text)) = splitParameters text ↔ (splitParameters text).getLast? ≠ some []) := by
  constructor
  · obtain ⟨front, last, parts, pieces⟩ := exists_segments_splitParameters text
    have cut := cutWhere_segments {} text
    simp only [isOutside_after_iff] at cut
    rw [parts] at cut
    exact ⟨front, last, cut, pieces⟩
  · rw [splitParameters_joined_pieces]
    split
    · next blank =>
      refine iff_of_false (fun same => ?_) (not_not_intro blank)
      have shorter := congrArg List.length same
      rw [List.length_dropLast] at shorter
      have nonempty := List.length_pos_of_mem (List.mem_of_getLast? blank)
      omega
    · next kept => exact iff_of_true rfl kept

/-- A bracket that is closed too often hides the commas behind it. The last piece here is empty and is lost when the list is cut again. -/
example : splitParameters "a, b), c, (d, e, , ".toList = ["a".toList, "b), c, (d".toList, "e".toList, []] := by decide

end DeclIndex.Bracket
