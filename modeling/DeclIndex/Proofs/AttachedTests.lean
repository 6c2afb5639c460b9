import DeclIndex.Proofs.AikenScan
import DeclIndex.Proofs.Substrings

/-!
# The tests of a function

Below the body of a function its tests are looked for line by line, down to the next function. A test is found by a head whose name
mentions the function and reaches to the end of its block; lines within a block are passed over, and a head without a closing brace
counts for nothing. These conditions leave one list of blocks only, and the search finds it.
-/

namespace DeclIndex.Aiken
open DeclIndex.Text

/-! ## Blocks of lines -/

/-- Neighbouring lines of a file, from the first to the last. -/
structure LineRange where
  first : Nat
  last : Nat
deriving DecidableEq

namespace LineRange

/-- A line is one of those in a range. -/
def Covers (range : LineRange) (index : Nat) : Prop :=
  range.first ≤ index ∧ index ≤ range.last

/-- The lines of a range. -/
def linesIn (range : LineRange) (group : List (List Char)) : List (List Char) :=
  (group.drop range.first).take (range.last + 1 - range.first)

/-- The text of a range. -/
def textIn (range : LineRange) (group : List (List Char)) : String :=
  String.ofList (unlines (range.linesIn group))

end LineRange

/-- The line that closes the first brace at or below another line. -/
def blockEndAt? (group : List (List Char)) (index : Nat) : Option Nat :=
  (Bracket.blockEnd? (group.drop index)).map (index + ·)

/-- The line on which the body of a function ends, or its head line if the body is not closed. -/
def bodyLine (group : List (List Char)) (head : Nat) : Nat :=
  (blockEndAt? group head).getD head

/-- A line is the head of a function. -/
def IsFunctionHead (group : List (List Char)) (index : Nat) : Prop :=
  ∃ line, group[index]? = some line ∧ (functionHead? (trim line)).isSome

/-- A line is the head of a test whose name contains the name of a function, in any case. -/
def IsTestHead (name : List Char) (group : List (List Char)) (index : Nat) : Prop :=
  ∃ line test, group[index]? = some line ∧ testHead? (trim line) = some test ∧
    name.map Char.toLower <:+: test.map Char.toLower

/-- A line is in none of some ranges. -/
def Uncovered (ranges : List LineRange) (index : Nat) : Prop :=
  ∀ range ∈ ranges, ¬ range.Covers index

/-- The tests of a function, given the line below its body: blocks from a head to the closing brace, one below the other, with no head
of a function above one of them unless it is inside of an earlier one. A test with a closing brace is among them unless there is the
head of a function above it. -/
structure AttachedFrom (group : List (List Char)) (name : List Char) (start : Nat) (ranges : List LineRange) : Prop where
  ordered : ranges.Pairwise fun range next => range.last < next.first
  below : ∀ range ∈ ranges, start ≤ range.first
  headed : ∀ range ∈ ranges, IsTestHead name group range.first
  closed : ∀ range ∈ ranges, blockEndAt? group range.first = some range.last
  unparted : ∀ range ∈ ranges, ∀ index, start ≤ index → index < range.first → IsFunctionHead group index →
    ∃ earlier ∈ ranges, earlier.last < range.first ∧ earlier.Covers index
  complete : ∀ index, start ≤ index → IsTestHead name group index → (blockEndAt? group index).isSome → Uncovered ranges index →
    ∃ between, start ≤ between ∧ between < index ∧ Uncovered ranges between ∧ IsFunctionHead group between

/-! ## One step of the search -/

section Step

variable {group : List (List Char)} {name : List Char} {start last : Nat} {ranges others : List LineRange} {range : LineRange}

theorem le_of_blockEndAt? {index : Nat} (closed : blockEndAt? group index = some last) : index ≤ last := by
  obtain ⟨length, _, rfl⟩ := Option.map_eq_some_iff.mp closed
  exact Nat.le_add_right index length

theorem AttachedFrom.first_le_last (attached : AttachedFrom group name start ranges) (member : range ∈ ranges) :
    range.first ≤ range.last :=
  le_of_blockEndAt? (attached.closed range member)

theorem attachedFrom_nil (finished : group.length ≤ start) : AttachedFrom group name start [] := by
  refine ⟨.nil, by simp, by simp, by simp, by simp, ?_⟩
  rintro index beyond ⟨line, _, there, _⟩
  have inside := (List.getElem?_eq_some_iff.mp there).1
  omega

/-- The search ends at the head of a function. -/
theorem AttachedFrom.stop (noTest : ¬ (IsTestHead name group start ∧ (blockEndAt? group start).isSome))
    (head : IsFunctionHead group start) : AttachedFrom group name start [] := by
  refine ⟨.nil, by simp, by simp, by simp, by simp, fun index beyond test closed _ => ?_⟩
  rcases Nat.eq_or_lt_of_le beyond with rfl | later
  · exact absurd ⟨test, closed⟩ noTest
  · exact ⟨start, Nat.le_refl start, later, by simp [Uncovered], head⟩

/-- A line that is neither the head of a function nor that of a closed test is passed over. -/
theorem AttachedFrom.skip (noTest : ¬ (IsTestHead name group start ∧ (blockEndAt? group start).isSome))
    (noHead : ¬ IsFunctionHead group start) (later : AttachedFrom group name (start + 1) ranges) :
    AttachedFrom group name start ranges := by
  refine ⟨later.ordered, fun range member => Nat.le_of_succ_le (later.below range member), later.headed, later.closed,
    fun range member index beyond above head => ?_, fun index beyond test closed uncovered => ?_⟩
  · have moved : start ≠ index := by
      rintro rfl
      exact noHead head
    exact later.unparted range member index (by omega) above head
  · have moved : start ≠ index := by
      rintro rfl
      exact noTest ⟨test, closed⟩
    obtain ⟨between, first, second, free, head⟩ := later.complete index (by omega) test closed uncovered
    exact ⟨between, by omega, second, free, head⟩

/-- The block of a test is collected, and the search goes on below it. -/
theorem AttachedFrom.take (test : IsTestHead name group start) (closed : blockEndAt? group start = some last)
    (later : AttachedFrom group name (last + 1) ranges) : AttachedFrom group name start (⟨start, last⟩ :: ranges) := by
  have forward := le_of_blockEndAt? closed
  refine ⟨List.pairwise_cons.mpr ⟨fun range member => later.below range member, later.ordered⟩, ?_, ?_, ?_, ?_, ?_⟩
  · refine List.forall_mem_cons.mpr ⟨Nat.le_refl start, fun range member => ?_⟩
    have := later.below range member
    omega
  · exact List.forall_mem_cons.mpr ⟨test, later.headed⟩
  · exact List.forall_mem_cons.mpr ⟨closed, later.closed⟩
  · refine List.forall_mem_cons.mpr ⟨fun index beyond above => by dsimp only at above; omega, ?_⟩
    intro range member index beyond above head
    rcases Nat.lt_or_ge last index with past | inside
    · obtain ⟨earlier, listed, ends, covers⟩ := later.unparted range member index past above head
      exact ⟨earlier, List.mem_cons_of_mem _ listed, ends, covers⟩
    · exact ⟨⟨start, last⟩, List.mem_cons_self, later.below range member, beyond, inside⟩
  · intro index beyond testToo closedToo uncovered
    obtain ⟨outside, uncoveredLater⟩ := List.forall_mem_cons.mp uncovered
    have past : last < index := Nat.lt_of_not_le fun inside => outside ⟨beyond, inside⟩
    obtain ⟨between, first, second, free, head⟩ := later.complete index past testToo closedToo uncoveredLater
    refine ⟨between, by omega, second, List.forall_mem_cons.mpr ⟨fun covers => ?_, free⟩, head⟩
    have := covers.2
    dsimp only at this
    omega

end Step

/-! ## The whole search -/

section Search

variable {group below : List (List Char)} {name line : List Char} {start last : Nat}

theorem getElem?_of_drop (rest : group.drop start = line :: below) : group[start]? = some line ∧ group.drop (start + 1) = below := by
  constructor
  · rw [← List.head?_drop, rest, List.head?_cons]
  · rw [← List.tail_drop, rest, List.tail_cons]

theorem isTestOf_iff (there : group[start]? = some line) : isTestOf name (trim line) = true ↔ IsTestHead name group start := by
  unfold isTestOf IsTestHead
  rw [there]
  cases head : testHead? (trim line) with
  | none =>
    refine iff_of_false (by simp) ?_
    rintro ⟨_, test, ⟨⟩, named, _⟩
    rw [head] at named
    cases named
  | some test =>
    dsimp only
    rw [occurs_iff]
    constructor
    · exact fun contained => ⟨line, test, rfl, head, contained⟩
    · rintro ⟨_, other, ⟨⟩, named, contained⟩
      cases head.symm.trans named
      exact contained

theorem isFunctionHead_iff (there : group[start]? = some line) : (functionHead? (trim line)).isSome ↔ IsFunctionHead group start := by
  unfold IsFunctionHead
  rw [there]
  simp

theorem closedTest_of_found (rest : group.drop start = line :: below)
    (found : (if isTestOf name (trim line) then Bracket.blockEnd? (line :: below) else none) = some last) :
    IsTestHead name group start ∧ blockEndAt? group start = some (start + last) := by
  rw [Option.ite_none_right_eq_some] at found
  refine ⟨(isTestOf_iff (getElem?_of_drop rest).1).mp found.1, ?_⟩
  rw [blockEndAt?, rest, found.2, Option.map_some]

theorem not_closedTest_of_missing (rest : group.drop start = line :: below)
    (missing : (if isTestOf name (trim line) then Bracket.blockEnd? (line :: below) else none) = none) :
    ¬ (IsTestHead name group start ∧ (blockEndAt? group start).isSome) := by
  rintro ⟨test, closed⟩
  rw [if_pos ((isTestOf_iff (getElem?_of_drop rest).1).mpr test)] at missing
  rw [blockEndAt?, rest, missing] at closed
  cases closed

/-- What is found from a line on are the blocks of the tests there. -/
theorem exists_attachedFrom (group : List (List Char)) (name : List Char) (start : Nat) :
    ∃ ranges, tests name (group.drop start) = ranges.map (·.linesIn group) ∧ AttachedFrom group name start ranges := by
  generalize rest : group.drop start = remaining
  fun_induction tests name remaining generalizing start with
  | case1 => exact ⟨[], rfl, attachedFrom_nil (List.drop_eq_nil_iff.mp rest)⟩
  | case2 line below last found ih =>
    obtain ⟨test, closed⟩ := closedTest_of_found rest found
    have onward : group.drop (start + last + 1) = below.drop last := by
      rw [← (getElem?_of_drop rest).2, List.drop_drop]
      congr 1
      omega
    obtain ⟨ranges, blocks, later⟩ := ih _ onward
    refine ⟨⟨start, start + last⟩ :: ranges, ?_, later.take test closed⟩
    have size : start + last + 1 - start = last + 1 := by omega
    rw [List.map_cons, blocks, LineRange.linesIn, rest, size]
  | case3 line below missing head =>
    have here := (isFunctionHead_iff (getElem?_of_drop rest).1).mp head
    exact ⟨[], rfl, .stop (not_closedTest_of_missing rest missing) here⟩
  | case4 line below missing noHead ih =>
    obtain ⟨there, onward⟩ := getElem?_of_drop rest
    obtain ⟨ranges, blocks, later⟩ := ih _ onward
    exact ⟨ranges, blocks, later.skip (not_closedTest_of_missing rest missing) ((isFunctionHead_iff there).not.mp noHead)⟩

end Search

/-! ## No other tests -/

section Unique

variable {group : List (List Char)} {name : List Char} {start : Nat} {ranges others : List LineRange} {range : LineRange}

/-- No head of a function stands above the first test. -/
theorem AttachedFrom.notHead_above {index : Nat} (attached : AttachedFrom group name start (range :: ranges)) (beyond : start ≤ index)
    (above : index < range.first) : ¬ IsFunctionHead group index := by
  intro head
  obtain ⟨earlier, member, ends, covers⟩ := attached.unparted range List.mem_cons_self index beyond above head
  have forward := attached.first_le_last member
  have firstForward := attached.first_le_last List.mem_cons_self
  rcases List.mem_cons.mp member with rfl | later
  · omega
  · have := (List.pairwise_cons.mp attached.ordered).1 earlier later
    omega

theorem AttachedFrom.tail (attached : AttachedFrom group name start (range :: ranges)) :
    AttachedFrom group name (range.last + 1) ranges := by
  obtain ⟨behind, ordered⟩ := List.pairwise_cons.mp attached.ordered
  have forward := attached.first_le_last List.mem_cons_self
  have start_le := attached.below range List.mem_cons_self
  refine ⟨ordered, behind, (List.forall_mem_cons.mp attached.headed).2, (List.forall_mem_cons.mp attached.closed).2, ?_, ?_⟩
  · intro next member index beyond above head
    obtain ⟨earlier, listed, ends, covers⟩ :=
      attached.unparted next (List.mem_cons_of_mem _ member) index (by omega) above head
    rcases List.mem_cons.mp listed with rfl | later
    · have := covers.2
      omega
    · exact ⟨earlier, later, ends, covers⟩
  · intro index beyond test closed uncovered
    have outside : ¬ range.Covers index := fun covers => by have := covers.2; omega
    obtain ⟨between, first, second, free, head⟩ :=
      attached.complete index (by omega) test closed (List.forall_mem_cons.mpr ⟨outside, uncovered⟩)
    obtain ⟨outsideToo, freeLater⟩ := List.forall_mem_cons.mp free
    have notAbove : range.first ≤ between := Nat.le_of_not_lt fun above => attached.notHead_above first above head
    have past : range.last < between := Nat.lt_of_not_le fun inside => outsideToo ⟨notAbove, inside⟩
    exact ⟨between, past, second, freeLater, head⟩

/-- Of two lists of tests from one line on, neither begins above the other. -/
theorem AttachedFrom.exists_first (attached : AttachedFrom group name start (range :: ranges))
    (attachedToo : AttachedFrom group name start others) : ∃ first more, others = first :: more ∧ first.first ≤ range.first := by
  by_contra missing
  have uncovered : Uncovered others range.first := by
    intro other member covers
    cases others with
    | nil => cases member
    | cons first more =>
      refine missing ⟨first, more, rfl, ?_⟩
      rcases List.mem_cons.mp member with rfl | later
      · exact covers.1
      · have behind := (List.pairwise_cons.mp attachedToo.ordered).1 other later
        have forward := attachedToo.first_le_last List.mem_cons_self
        have := covers.1
        omega
  have closed := attached.closed range List.mem_cons_self
  obtain ⟨between, beyond, above, _, head⟩ := attachedToo.complete range.first (attached.below range List.mem_cons_self)
    (attached.headed range List.mem_cons_self) (by rw [closed]; rfl) uncovered
  exact attached.notHead_above beyond above head

theorem AttachedFrom.unique (attached : AttachedFrom group name start ranges) (attachedToo : AttachedFrom group name start others) :
    ranges = others := by
  induction ranges generalizing start others with
  | nil =>
    cases others with
    | nil => rfl
    | cons first more =>
      obtain ⟨_, _, same, _⟩ := attachedToo.exists_first attached
      cases same
  | cons range ranges ih =>
    obtain ⟨first, more, rfl, notBelow⟩ := attached.exists_first attachedToo
    obtain ⟨_, _, same, notAbove⟩ := attachedToo.exists_first attached
    cases same
    obtain ⟨top, bottom⟩ := range
    obtain ⟨topToo, bottomToo⟩ := first
    obtain rfl : top = topToo := Nat.le_antisymm notAbove notBelow
    have closed := attached.closed _ List.mem_cons_self
    have closedToo := attachedToo.closed _ List.mem_cons_self
    obtain rfl : bottom = bottomToo := Option.some.inj (closed.symm.trans closedToo)
    rw [ih attached.tail attachedToo.tail]

end Unique

/-! ## In a file -/

/-- Below the body of a function, whether that is closed or not. -/
theorem drop_bodyLine {group below : List (List Char)} {line : List Char} {head : Nat} (rest : group.drop head = line :: below) :
    group.drop (bodyLine group head + 1) = below.drop ((Bracket.blockEnd? (line :: below)).getD 0) := by
  have ends : bodyLine group head = head + (Bracket.blockEnd? (line :: below)).getD 0 := by
    rw [bodyLine, blockEndAt?, rest]
    cases Bracket.blockEnd? (line :: below) <;> rfl
  rw [ends, Nat.add_assoc, ← List.drop_drop, rest, List.drop_succ_cons]

/-- The tests of a function are the texts of its test blocks below its body, and there is one way only to choose these. -/
theorem scan_attachesTests {origin : Origin} {text : String} {f : Function} (listed : f ∈ (scan origin text).functions) :
    let group := lines text.toList
    let start := bodyLine group (f.line - 1) + 1
    ∃ ranges, AttachedFrom group f.name.toList start ranges ∧ (∀ others, AttachedFrom group f.name.toList start others → others = ranges) ∧
      f.tests = ranges.map (·.textIn group) := by
  intro group start
  obtain ⟨front, line, below, length, split, introduced⟩ :=
    introduced_of_mem ((Outline.mem_declarations (.function f)).mpr listed)
  obtain ⟨head, _, same, _⟩ := introduced
  have named : f.name.toList = head.name := by rw [same, functionAt, String.toList_ofList]
  have place : f.line - 1 = front.length := by rw [same, functionAt, Nat.add_sub_cancel, List.length_reverse]
  have rest : group.drop (f.line - 1) = line :: below := by
    show (lines text.toList).drop (f.line - 1) = line :: below
    rw [place, split, List.drop_left]
  obtain ⟨ranges, blocks, attached⟩ := exists_attachedFrom group f.name.toList start
  refine ⟨ranges, attached, fun others attachedToo => attachedToo.unique attached, ?_⟩
  have collected : f.tests = (tests head.name (group.drop start)).map fun block => String.ofList (unlines block) := by
    rw [drop_bodyLine rest, same]
    rfl
  rw [collected, ← named, blocks, List.map_map]
  rfl

/-- A test without a closing brace and the test of another function are passed over, and the search ends at the next function. -/
theorem scan_attachesTests_twice :
    let text := "\n".intercalate ["fn add() \x7b", "\x7d", "test add_open() \x7b", "test add_one() \x7b", "\x7d", "test sub() \x7b", "\x7d",
      "test Add_two() \x7b \x7d", "fn sub() \x7b", "\x7d", "test add_late() \x7b", "\x7d"]
    ∃ f ∈ (scan ⟨"p", false⟩ text).functions, f.name = "add" ∧
      f.tests = ["test add_one() \x7b\n\x7d", "test Add_two() \x7b \x7d"] ∧
      ∃ ranges, ranges.length = 2 ∧ AttachedFrom (lines text.toList) "add".toList 2 ranges := by
  intro text
  obtain ⟨f, listed, named, place, found⟩ : ∃ f ∈ (scan ⟨"p", false⟩ text).functions, f.name = "add" ∧ f.line = 1 ∧
      f.tests = ["test add_one() \x7b\n\x7d", "test Add_two() \x7b \x7d"] := by decide +kernel
  obtain ⟨ranges, attached, _, texts⟩ := scan_attachesTests listed
  have start : bodyLine (lines text.toList) 0 + 1 = 2 := by decide +kernel
  rw [named, place, start] at attached
  refine ⟨f, listed, named, found, ranges, ?_, attached⟩
  rw [found] at texts
  simpa using (congrArg List.length texts).symm

end DeclIndex.Aiken
