import DeclIndex.Proofs.AikenScan

/-!
# The lines of a signature

A function reads the lines below its head until it has seen a closing parenthesis and, from there on, an opening brace. Unlike a
type or a constant it does not stop at the head of another declaration: a head that stands above these two is taken for a part of
the signature, and what it declares is lost.
-/

namespace DeclIndex.Aiken
open DeclIndex.Text

/-! ## Searching for a character -/

/-- A character stands on the line with an index. -/
def HasAt (sought : Char) (group : List (List Char)) (index : Nat) : Prop :=
  ∃ line, group[index]? = some line ∧ sought ∈ line

theorem hasAt_zero {sought : Char} {line : List Char} {below : List (List Char)} :
    HasAt sought (line :: below) 0 ↔ sought ∈ line := by
  simp [HasAt]

theorem hasAt_succ {sought : Char} {line : List Char} {below : List (List Char)} {index : Nat} :
    HasAt sought (line :: below) (index + 1) ↔ HasAt sought below index := by
  simp [HasAt]

theorem hasAt_append_left {sought : Char} {group : List (List Char)} {index : Nat} (inside : index < group.length)
    (rest : List (List Char)) : HasAt sought (group ++ rest) index ↔ HasAt sought group index := by
  rw [HasAt, HasAt, List.getElem?_append_left inside]

theorem hasAt_append_right {sought : Char} (front group : List (List Char)) (index : Nat) :
    HasAt sought (front ++ group) (front.length + index) ↔ HasAt sought group index := by
  rw [HasAt, HasAt, List.getElem?_append_right (Nat.le_add_right _ _), Nat.add_sub_cancel_left]

theorem hasAt_drop {sought : Char} (group : List (List Char)) (start index : Nat) :
    HasAt sought (group.drop start) index ↔ HasAt sought group (start + index) := by
  simp [HasAt]

theorem linesTo_le_length (sought : Char) (line : List Char) (below : List (List Char)) :
    linesTo sought line below ≤ below.length := by
  induction below generalizing line with
  | nil => exact Nat.le_refl 0
  | cons next below ih =>
    rw [linesTo]
    split
    · exact Nat.zero_le _
    · exact Nat.succ_le_succ (ih next)

/-- A search ends above a line exactly if what it looks for stands above it. -/
theorem linesTo_lt_iff {sought : Char} {line : List Char} {below : List (List Char)} {count : Nat}
    (inside : count ≤ below.length) :
    linesTo sought line below < count ↔ ∃ index < count, HasAt sought (line :: below) index := by
  induction below generalizing line count with
  | nil =>
    obtain rfl : count = 0 := Nat.le_zero.mp inside
    simp
  | cons next below ih =>
    cases count with
    | zero => simp
    | succ count =>
      have smaller : count ≤ below.length := Nat.le_of_succ_le_succ inside
      rw [linesTo, Nat.exists_lt_succ_left, hasAt_zero]
      simp only [hasAt_succ]
      by_cases found : sought ∈ line
      · simp [found]
      · simp [found, ih smaller]

/-! ## How far a signature is read -/

/-- A trimmed head that shows its closing parenthesis and either a brace or an arrow. -/
def ShowsEnd (head : List Char) : Bool :=
  head.contains ')' && (head.contains '{' || occurs ['-', '>'] head)

/-- The signature that begins on line `head` ends above line `index`: the head line shows that it ends there, or there are a
closing parenthesis and, on its line or below it, an opening brace. -/
def EndsAbove (group : List (List Char)) (head index : Nat) : Prop :=
  (∃ line, group[head]? = some line ∧ ShowsEnd (trim line)) ∨
    ∃ paren brace, head ≤ paren ∧ paren ≤ brace ∧ brace < index ∧ HasAt ')' group paren ∧ HasAt '{' group brace

theorem endsAbove_append (front : List (List Char)) (line : List Char) (below : List (List Char)) (index : Nat) :
    EndsAbove (front ++ line :: below) front.length (front.length + index) ↔ EndsAbove (line :: below) 0 index := by
  refine or_congr (by simp) ⟨?_, ?_⟩
  · rintro ⟨paren, brace, first, second, third, closes, opens⟩
    obtain ⟨paren, rfl⟩ := Nat.exists_eq_add_of_le first
    obtain ⟨brace, rfl⟩ := Nat.exists_eq_add_of_le (Nat.le_trans first second)
    rw [hasAt_append_right] at closes opens
    exact ⟨paren, brace, Nat.zero_le _, by omega, by omega, closes, opens⟩
  · rintro ⟨paren, brace, first, second, third, closes, opens⟩
    refine ⟨front.length + paren, front.length + brace, by omega, by omega, by omega, ?_, ?_⟩
    · rwa [hasAt_append_right]
    · rwa [hasAt_append_right]

section Length

variable {line : List Char} {below : List (List Char)}

theorem signatureLength_of_showsEnd (shown : ShowsEnd (trim line)) : signatureLength line below = 0 :=
  if_pos shown

theorem signatureLength_of_open (hidden : ¬ ShowsEnd (trim line)) (below : List (List Char)) :
    ∃ last beyond, (line :: below).drop (linesTo ')' line below) = last :: beyond ∧
      signatureLength line below = linesTo ')' line below + linesTo '{' last beyond := by
  have bound : linesTo ')' line below < (line :: below).length := Nat.lt_succ_of_le (linesTo_le_length ')' line below)
  obtain ⟨last, beyond, split⟩ := List.exists_cons_of_ne_nil (List.drop_eq_nil_iff.not.mpr (Nat.not_le.mpr bound))
  refine ⟨last, beyond, split, ?_⟩
  rw [ShowsEnd] at hidden
  unfold signatureLength
  dsimp only
  rw [if_neg hidden, split]

theorem signatureLength_le_length : signatureLength line below ≤ below.length := by
  by_cases shown : ShowsEnd (trim line)
  · rw [signatureLength_of_showsEnd shown]
    exact Nat.zero_le _
  · obtain ⟨last, beyond, split, length⟩ := signatureLength_of_open shown below
    have left := congrArg List.length split
    rw [List.length_drop, List.length_cons, List.length_cons] at left
    have further := linesTo_le_length '{' last beyond
    omega

/-- A line of the file is below the signature exactly if the signature ends above it. -/
theorem signatureLength_lt_iff {count : Nat} (positive : 0 < count) (inside : count ≤ below.length) :
    signatureLength line below < count ↔ EndsAbove (line :: below) 0 count := by
  by_cases shown : ShowsEnd (trim line)
  · rw [signatureLength_of_showsEnd shown]
    exact iff_of_true positive (Or.inl ⟨line, rfl, shown⟩)
  · obtain ⟨last, beyond, split, length⟩ := signatureLength_of_open shown below
    have left := congrArg List.length split
    rw [List.length_drop, List.length_cons, List.length_cons] at left
    have notShown : ¬ ∃ other, (line :: below)[0]? = some other ∧ ShowsEnd (trim other) := by
      rintro ⟨other, there, shownThere⟩
      cases there
      exact shown shownThere
    rw [length, EndsAbove, or_iff_right notShown]
    constructor
    · intro ends
      -- the first search stops at a parenthesis, the second at a brace from there on
      obtain ⟨paren, early, closes⟩ := (linesTo_lt_iff (by omega)).mp (Nat.lt_succ_self (linesTo ')' line below))
      have rest : linesTo '{' last beyond < count - linesTo ')' line below := by omega
      obtain ⟨brace, late, opens⟩ := (linesTo_lt_iff (by omega)).mp rest
      rw [← split, hasAt_drop] at opens
      exact ⟨paren, linesTo ')' line below + brace, Nat.zero_le _, by omega, by omega, closes, opens⟩
    · rintro ⟨paren, brace, -, order, early, closes, opens⟩
      have first : linesTo ')' line below < paren + 1 :=
        (linesTo_lt_iff (by omega)).mpr ⟨paren, Nat.lt_succ_self paren, closes⟩
      obtain ⟨more, rfl⟩ := Nat.exists_eq_add_of_le (show linesTo ')' line below ≤ brace by omega)
      rw [← hasAt_drop, split] at opens
      have second : linesTo '{' last beyond < more + 1 :=
        (linesTo_lt_iff (by omega)).mpr ⟨more, Nat.lt_succ_self more, opens⟩
      omega

/-- No head is read along exactly if the signature ends above every head below it. -/
theorem plain_signature_iff :
    Plain (below.take (signatureLength line below)) ↔
      ∀ index other, below[index]? = some other → isHead (trim other) → EndsAbove (line :: below) 0 (index + 1) := by
  constructor
  · intro plain index other there head
    have bound : index < below.length := (List.getElem?_eq_some_iff.mp there).1
    refine (signatureLength_lt_iff (Nat.succ_pos index) bound).mp (Nat.lt_succ_of_le (Nat.le_of_not_lt fun inside => ?_))
    have taken : other ∈ below.take (signatureLength line below) :=
      List.mem_of_getElem? (by rw [List.getElem?_take_of_lt inside, there])
    exact absurd head (Bool.eq_false_iff.mp (plain other taken))
  · intro ends other member
    refine Bool.eq_false_iff.mpr fun head => ?_
    obtain ⟨index, there⟩ := List.mem_iff_getElem?.mp member
    rw [List.getElem?_take, Option.ite_none_right_eq_some] at there
    obtain ⟨inside, there⟩ := there
    have bound : index < below.length := (List.getElem?_eq_some_iff.mp there).1
    have beyond := (signatureLength_lt_iff (Nat.succ_pos index) bound).mpr (ends index other there head)
    omega

end Length

/-! ## Functions of a file -/

/-- The lines below its head that the signature of a function reads. -/
def linesRead (text : String) (f : Function) : List (List Char) :=
  let below := (lines text.toList).drop f.line
  below.take (((lines text.toList)[f.line - 1]?.map fun line => signatureLength line below).getD 0)

/-- A declaration is numbered by the line that it was read from. -/
theorem line_eq_of_mem {origin : Origin} {text : List Char} {s : Sighting} (member : s ∈ sightings origin text) :
    s.declaration.line = s.head + 1 := by
  obtain ⟨front, line, below, length, _, found, place, _⟩ := mem_sightingsFrom member
  have numbered := (declarationAt?_introduces found).line_eq
  rw [List.length_append, List.length_reverse, List.length_nil] at numbered
  rw [List.length_nil] at place
  omega

/-- What a function was read from, and how far. -/
theorem exists_function_lines {origin : Origin} {text : String} {s : Sighting} {f : Function}
    (member : s ∈ sightings origin text.toList) (isFunction : s.declaration = .function f) :
    ∃ front line below head, lines text.toList = front ++ line :: below ∧ f.line = front.length + 1 ∧
      f = functionAt origin.source front.reverse head line below ∧
      linesRead text f = below.take (signatureLength line below) ∧ s.last = s.head + signatureLength line below := by
  obtain ⟨front, line, below, length, split, found, place, last⟩ := mem_sightingsFrom member
  have number := line_eq_of_mem member
  rw [isFunction] at found number
  rw [List.length_nil, Nat.zero_add] at place
  rw [List.append_nil] at found
  have numbered : f.line = front.length + 1 := by rwa [place] at number
  obtain ⟨head, _, same, taken⟩ := declarationAt?_introduces found
  have here : (lines text.toList)[f.line - 1]? = some line := by
    rw [numbered, split]
    simp
  have rest : (lines text.toList).drop f.line = below := by
    rw [numbered, split]
    simp
  refine ⟨front, line, below, head, split, numbered, same, ?_, ?_⟩
  · rw [linesRead, here, rest]
    rfl
  · rw [last, taken]

/-- No declaration begins on a line that a signature reads. -/
theorem not_declared_in_signature {origin : Origin} {text : String} {f : Function} {declaration : Declaration}
    (member : f ∈ (scan origin text).functions) (other : declaration ∈ (scan origin text).declarations) :
    ¬ (f.line < declaration.line ∧ declaration.line ≤ f.line + (linesRead text f).length) := by
  rintro ⟨above, below⟩
  obtain ⟨s, seen, same⟩ := mem_ofSightings.mp ((Outline.mem_declarations (.function f)).mpr member)
  obtain ⟨t, seenToo, rfl⟩ := mem_ofSightings.mp other
  obtain ⟨front, line, rest, head, split, number, _, read, last⟩ := exists_function_lines seen same
  have first := line_eq_of_mem seen
  have second := line_eq_of_mem seenToo
  have forward := (mem_sightingsFrom seen).head_le_last
  have forwardToo := (mem_sightingsFrom seenToo).head_le_last
  rw [same] at first
  change f.line = s.head + 1 at first
  rw [read, List.length_take, Nat.min_eq_left signatureLength_le_length] at below
  rcases apart_of_pairwise (sightingsFrom_pairwise origin [] (lines text.toList)) seen seenToo with rfl | before | after
  · omega
  · omega
  · omega

/-- A signature is put together from the head line of its function and the lines it reads below, and no declaration of the outline
begins on those. None of them is a head exactly if the signature ends above every head that follows. -/
theorem signature_readsNoHead_iff {origin : Origin} {text : String} {f : Function} (member : f ∈ (scan origin text).functions) :
    (∃ line, (lines text.toList)[f.line - 1]? = some line ∧
      f.signature = String.ofList (signature (line :: linesRead text f))) ∧
    (∀ declaration ∈ (scan origin text).declarations,
      ¬ (f.line < declaration.line ∧ declaration.line ≤ f.line + (linesRead text f).length)) ∧
    (Plain (linesRead text f) ↔ ∀ index line, f.line ≤ index → (lines text.toList)[index]? = some line →
      isHead (trim line) → EndsAbove (lines text.toList) (f.line - 1) index) := by
  obtain ⟨s, seen, same⟩ := mem_ofSightings.mp ((Outline.mem_declarations (.function f)).mpr member)
  obtain ⟨front, line, below, head, split, number, built, read, _⟩ := exists_function_lines seen same
  have place : f.line - 1 = front.length := by omega
  refine ⟨⟨line, ?_, ?_⟩, fun declaration => not_declared_in_signature member, ?_⟩
  · rw [split, place]
    simp
  · rw [read, built]
    rfl
  · rw [read, plain_signature_iff, split, place]
    constructor
    · intro ends index other behind there isHead
      obtain ⟨more, rfl⟩ := Nat.exists_eq_add_of_le behind
      have position : f.line + more = front.length + (more + 1) := by omega
      rw [position, List.getElem?_append_right (Nat.le_add_right _ _), Nat.add_sub_cancel_left, List.getElem?_cons_succ] at there
      rw [position, endsAbove_append]
      exact ends more other there isHead
    · intro ends index other there isHead
      rw [← endsAbove_append front]
      refine ends (front.length + (index + 1)) other (by omega) ?_ isHead
      rw [List.getElem?_append_right (Nat.le_add_right _ _), Nat.add_sub_cancel_left, List.getElem?_cons_succ, there]

instance (group : List (List Char)) : Decidable (Plain group) :=
  inferInstanceAs (Decidable (∀ line ∈ group, _))

/-- A function whose parameter list is not closed above the next head. -/
def unclosedHead : String :=
  "pub fn broken(\n  a: Int,\n\npub fn after() -> Int \x7b\n  1\n\x7d\n"

/-- The head of the second function is read along with the first, and only the first is found. -/
theorem signature_readsHead_unclosed :
    (scan ⟨"stdlib", false⟩ unclosedHead).functions.map (fun f => (f.name, f.signature, decide (Plain (linesRead unclosedHead f)))) =
      [("broken", "pub fn broken( a: Int, pub fn after() -> Int \x7b", false)] := by
  decide +kernel

/-- A signature on four lines, in which the closing parenthesis and the brace come last, with a head below. -/
theorem signature_readsNoHead_iff_foldl :
    let text := "pub fn foldl(\n  self: List<a>,\n  with: fn(a, b) -> b,\n) -> b \x7b\n  todo\n\x7d\n\nconst limit = 3"
    ∃ f ∈ (scan ⟨"stdlib", false⟩ text).functions, (linesRead text f).length = 3 ∧
      EndsAbove (lines text.toList) (f.line - 1) 7 := by
  intro text
  let f := (scan ⟨"stdlib", false⟩ text).functions.get ⟨0, by decide +kernel⟩
  have member : f ∈ (scan ⟨"stdlib", false⟩ text).functions := List.get_mem _ _
  have plain : Plain (linesRead text f) := by decide +kernel
  refine ⟨f, member, by decide +kernel, ?_⟩
  exact (signature_readsNoHead_iff member).2.2.mp plain 7 "const limit = 3".toList (by decide +kernel) (by decide +kernel)
    (by decide +kernel)

end DeclIndex.Aiken
