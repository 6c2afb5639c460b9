import DeclIndex.Proofs.TypeScriptScan
import Mathlib.Data.List.Infix

/-!
# Documentation comments above a function

The documentation of a TypeScript function is looked for only if the line above its head ends a comment, and it is read from the nearest
line further up that opens a documentation comment. Nothing asks whether that line opened the comment which ends above the head. So the
lines in between are one comment exactly if a documentation comment ends there at all; below a plain comment they reach up through
code to the documentation of something else.
-/

namespace DeclIndex.TypeScript
open DeclIndex.Text

/-- A line that begins with the opening of a documentation comment. -/
def opensDocumentation (line : List Char) : Bool :=
  startsWith (trim line) "/**"

/-- The last of some lines ends with the closing of a comment. -/
def EndsClosed (group : List (List Char)) : Prop :=
  ∃ last ∈ group.getLast?, endsWith (trim last) "*/"

/-- Lines that make up one documentation comment: it is opened on the first, closed at the end of the last and not before. -/
structure IsDocumentationComment (group : List (List Char)) : Prop where
  opened : ∃ first ∈ group.head?, opensDocumentation first
  closed : EndsClosed group
  unbroken : ∀ line ∈ group.dropLast, endsComment line = false

/-- The lines down from the nearest one that opens a documentation comment. -/
structure GatheredUp (above group : List (List Char)) : Prop where
  back : group <:+ above
  opened : ∃ first ∈ group.head?, opensDocumentation first
  nearest : ∀ line ∈ group.tail, opensDocumentation line = false

/-- What is left of the lines of a comment without markers, margin and blanks around. -/
def commentText (group : List (List Char)) : List Char :=
  trim (unlines (dedent (group.map withoutMarkers)))

/-! ## Looking up -/

section Up

variable {above group : List (List Char)} {line : List Char}

theorem endsClosed_append_iff {front : List (List Char)} (nonempty : group ≠ []) : EndsClosed (front ++ group) ↔ EndsClosed group := by
  rw [EndsClosed, List.getLast?_append_of_ne_nil _ nonempty, EndsClosed]

theorem GatheredUp.ne_nil (gathered : GatheredUp above group) : group ≠ [] := by
  rintro rfl
  obtain ⟨first, there, _⟩ := gathered.opened
  cases there

theorem GatheredUp.endsClosed (gathered : GatheredUp above group) (closed : EndsClosed above) : EndsClosed group := by
  obtain ⟨front, rfl⟩ := gathered.back
  exact (endsClosed_append_iff gathered.ne_nil).mp closed

theorem gatheredUp_concat_of_opens (opens : opensDocumentation line) : GatheredUp (above ++ [line]) group ↔ group = [line] := by
  constructor
  · rintro ⟨back, ⟨first, there, _⟩, nearest⟩
    rcases List.suffix_concat_iff.mp back with rfl | ⟨upper, rfl, _⟩
    · cases there
    · cases upper with
      | nil => rfl
      | cons other upper =>
        have inTail : line ∈ (other :: upper ++ [line]).tail := by simp
        rw [nearest line inTail] at opens
        cases opens
  · rintro rfl
    exact ⟨List.suffix_append above [line], ⟨line, rfl, opens⟩, by simp⟩

theorem gatheredUp_concat (other : opensDocumentation line = false) :
    GatheredUp (above ++ [line]) group ↔ ∃ upper, GatheredUp above upper ∧ group = upper ++ [line] := by
  constructor
  · rintro ⟨back, ⟨first, there, opens⟩, nearest⟩
    rcases List.suffix_concat_iff.mp back with rfl | ⟨upper, rfl, upperBack⟩
    · cases there
    · cases upper with
      | nil =>
        cases there
        rw [other] at opens
        cases opens
      | cons top upper =>
        refine ⟨top :: upper, ⟨upperBack, ⟨first, there, opens⟩, fun inner inside => nearest inner ?_⟩, rfl⟩
        exact List.mem_append_left [line] inside
  · rintro ⟨upper, ⟨⟨front, rfl⟩, ⟨first, there, opens⟩, nearest⟩, rfl⟩
    cases upper with
    | nil => cases there
    | cons top upper =>
      refine ⟨⟨front, (List.append_assoc ..).symm⟩, ⟨first, there, opens⟩, fun inner inside => ?_⟩
      rcases List.mem_append.mp inside with upward | last
      · exact nearest inner upward
      · rw [List.mem_singleton.mp last, other]

theorem commentUp?_eq_some_iff : commentUp? above.reverse = some group ↔ GatheredUp above group := by
  induction above using List.reverseRecOn generalizing group with
  | nil =>
    constructor
    · intro read
      cases read
    · rintro ⟨back, ⟨first, there, _⟩, _⟩
      rw [List.suffix_nil.mp back] at there
      cases there
  | append_singleton above line ih =>
    rw [List.reverse_concat, commentUp?, ← opensDocumentation]
    by_cases opens : opensDocumentation line
    · rw [if_pos opens, gatheredUp_concat_of_opens opens, Option.some.injEq, eq_comm]
    · rw [if_neg opens, gatheredUp_concat (Bool.eq_false_iff.mpr opens), Option.map_eq_some_iff]
      simp only [ih, eq_comm]

/-- A documentation is read whatever stands between the nearest opening and the line above, as long as some text is left of it. -/
theorem documentation?_eq_some_iff {doc : String} : documentation? above.reverse = some doc ↔
    EndsClosed above ∧ ∃ group, GatheredUp above group ∧ commentText group ≠ [] ∧ doc = String.ofList (commentText group) := by
  rcases List.eq_nil_or_concat above with rfl | ⟨upper, last, rfl⟩
  · constructor
    · intro read
      cases read
    · rintro ⟨⟨last, there, _⟩, _⟩
      cases there
  · have closed : EndsClosed (upper.concat last) ↔ endsWith (trim last) "*/" := by simp [EndsClosed]
    rw [closed, List.concat_eq_append, List.reverse_concat, documentation?, ← List.reverse_concat]
    by_cases ends : endsWith (trim last) "*/"
    · rw [if_pos ends]
      cases read : commentUp? (upper ++ [last]).reverse with
      | none =>
        constructor
        · intro found
          cases found
        · rintro ⟨_, group, gathered, _⟩
          rw [commentUp?_eq_some_iff.mpr gathered] at read
          cases read
      | some group =>
        dsimp only
        rw [← commentText]
        constructor
        · intro found
          split at found
          · cases found
          · next nonempty =>
            cases found
            exact ⟨ends, group, commentUp?_eq_some_iff.mp read, by simpa using nonempty, rfl⟩
        · rintro ⟨_, other, gathered, nonempty, rfl⟩
          cases read.symm.trans (commentUp?_eq_some_iff.mpr gathered)
          exact if_neg (by simpa using nonempty)
    · rw [if_neg ends]
      simp [ends]

/-- The lines from the nearest opening are one comment exactly if any documentation comment ends with them. -/
theorem GatheredUp.isDocumentationComment_iff (gathered : GatheredUp above group) :
    IsDocumentationComment group ↔ ∃ comment, comment <:+ above ∧ IsDocumentationComment comment := by
  refine ⟨fun comment => ⟨group, gathered.back, comment⟩, ?_⟩
  rintro ⟨comment, back, opened, closed, unbroken⟩
  rcases List.suffix_or_suffix_of_suffix gathered.back back with ⟨front, rfl⟩ | ⟨front, rfl⟩
  · -- the comment begins further up: its end is the end of the gathered lines
    rw [endsClosed_append_iff gathered.ne_nil] at closed
    rw [List.dropLast_append_of_ne_nil gathered.ne_nil] at unbroken
    exact ⟨gathered.opened, closed, fun line inside => unbroken line (List.mem_append_right front inside)⟩
  · -- the comment is opened below the nearest opening, unless that is its own
    cases front with
    | nil => exact ⟨opened, closed, unbroken⟩
    | cons top front =>
      obtain ⟨first, there, opens⟩ := opened
      have inTail : first ∈ (top :: front ++ comment).tail := List.mem_append_right front (List.mem_of_head? there)
      rw [gathered.nearest first inTail] at opens
      cases opens

end Up

/-! ## In a file -/

/-- The documentation of a function is the text of the lines down from the nearest opening of a documentation comment, if the line above
its head ends a comment and some text is left. These lines are one comment exactly if a documentation comment ends right above the
head. -/
theorem scan_gathersDocumentation {source text : String} {f : Function} (listed : f ∈ (scan source text).functions) :
    let above := (lines text.toList).take (f.line - 1)
    (∀ doc, f.documentation = some doc ↔ EndsClosed above ∧
      ∃ group, GatheredUp above group ∧ commentText group ≠ [] ∧ doc = String.ofList (commentText group)) ∧
    ∀ group, GatheredUp above group → EndsClosed above →
      ((∀ line ∈ group.dropLast, endsComment line = false) ↔ ∃ comment, comment <:+ above ∧ IsDocumentationComment comment) := by
  intro above
  refine ⟨fun doc => ?_, fun group gathered closed => ?_⟩
  · obtain ⟨front, line, below, length, split, introduced⟩ :=
      introduced_of_mem ((Outline.mem_declarations (.function f)).mpr listed)
    obtain ⟨name, _, rfl, _⟩ := introduced
    have number : above = front := by
      show (lines text.toList).take (front.reverse.length + 1 - 1) = front
      rw [Nat.add_sub_cancel, List.length_reverse, split, List.take_left]
    rw [number]
    exact documentation?_eq_some_iff
  · rw [← gathered.isDocumentationComment_iff]
    exact ⟨fun unbroken => ⟨gathered.opened, gathered.endsClosed closed, unbroken⟩, fun comment => comment.unbroken⟩

theorem scan_gathersDocumentation_adjacent :
    let text := "/**\n * Sums.\n */\nfunction sum() \x7b\n\x7d"
    ∃ f ∈ (scan "p" text).functions, f.line = 4 ∧ f.documentation = some "Sums." ∧
      ∃ comment, comment <:+ (lines text.toList).take 3 ∧ IsDocumentationComment comment := by
  intro text
  obtain ⟨f, listed, place⟩ : ∃ f ∈ (scan "p" text).functions, f.line = 4 := by decide +kernel
  have spec := scan_gathersDocumentation listed
  rw [place] at spec
  have above : (lines text.toList).take 3 = ["/**".toList, " * Sums.".toList, " */".toList] := by decide +kernel
  have closed : EndsClosed ((lines text.toList).take 3) := by
    rw [above]
    exact ⟨_, rfl, by decide⟩
  have gathered : GatheredUp ((lines text.toList).take 3) ["/**".toList, " * Sums.".toList, " */".toList] := by
    rw [above]
    exact ⟨List.suffix_rfl, ⟨_, rfl, by decide⟩, by decide⟩
  refine ⟨f, listed, place, (spec.1 "Sums.").mpr ⟨closed, _, gathered, ?_, ?_⟩, (spec.2 _ gathered closed).mp ?_⟩
  · decide +kernel
  · decide +kernel
  · decide

/-- A function below a plain comment, with a documented function above both. -/
def belowPlainComment : String :=
  "/** Sums. */\nfunction sum() \x7b\n\x7d\n/* plain */\nfunction helper() \x7b\n\x7d"

theorem documentation_past_plainComment :
    ∃ f ∈ (scan "p" belowPlainComment).functions, f.name = "helper" ∧
      f.documentation = some "Sums.\nfunction sum() \x7b\n\x7d\n/* plain" ∧
      ∃ group, GatheredUp ((lines belowPlainComment.toList).take (f.line - 1)) group ∧
        ∃ line ∈ group.dropLast, endsComment line := by
  obtain ⟨f, listed, named, place, documented⟩ : ∃ f ∈ (scan "p" belowPlainComment).functions, f.name = "helper" ∧ f.line = 5 ∧
      f.documentation = some "Sums.\nfunction sum() \x7b\n\x7d\n/* plain" := by decide +kernel
  have above : (lines belowPlainComment.toList).take 4 =
      ["/** Sums. */".toList, "function sum() \x7b".toList, "\x7d".toList, "/* plain */".toList] := by decide +kernel
  rw [show 4 = f.line - 1 by rw [place]] at above
  refine ⟨f, listed, named, documented, _, ⟨List.suffix_rfl, ?_, ?_⟩, ?_⟩
  · rw [above]
    exact ⟨_, rfl, by decide⟩
  · rw [above]
    decide
  · rw [above]
    exact ⟨_, List.mem_cons_self, by decide⟩

end DeclIndex.TypeScript
