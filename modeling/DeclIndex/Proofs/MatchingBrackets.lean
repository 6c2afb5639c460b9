import DeclIndex.Proofs.AttachedTests
import DeclIndex.Proofs.FunctionText
import DeclIndex.Proofs.PairedBrackets

/-!
# Matching brackets

A bracket is matched by counting, but what is found has a grammar: the pair of parentheses with a paired word inside of it, and the
shortest word with paired braces.
-/

namespace DeclIndex.Bracket
open DeclIndex.Text

/-! ## Parentheses -/

/-- What is told of a pair of parentheses: the text inside of it and where it is closed. -/
theorem map_parens?_eq_some_iff {text inner : List Char} {close : Nat} :
    (parens? text).map (fun parens => (parens.inner, parens.close)) = some (inner, close) ↔
      ∃ before after, CutAtParens text before inner after ∧ close = (before ++ '(' :: inner).length := by
  have closed (parens : Parens) : parens.close = (parens.before ++ '(' :: parens.inner).length := by
    simp [Parens.close]
    omega
  rw [Option.map_eq_some_iff]
  constructor
  · rintro ⟨parens, found, same⟩
    cases same
    exact ⟨parens.before, parens.after, parens?_eq_some_iff.mp found, closed parens⟩
  · rintro ⟨before, after, cut, rfl⟩
    exact ⟨⟨before, inner, after⟩, parens?_eq_some_iff.mpr cut, Prod.ext rfl (closed _)⟩

/-! ## Braces -/

namespace Depth

/-- Inside of some braces and one more. -/
def within (level : Nat) : Depth :=
  ⟨level + 1, true⟩

variable {depth : Depth} {level : Nat} {c : Char} {text word : List Char}

theorem read?_opening (level : Nat) (rest : List Char) : (within level).read? ('{' :: rest) = (within (level + 1)).read? rest := by
  simp [within, read?]

theorem read?_closing (level : Nat) (rest : List Char) : (within (level + 1)).read? ('}' :: rest) = (within level).read? rest := by
  have deeper : ¬ ((level : Int) + 1 + 1 = 1) := by omega
  simp [within, read?, deeper]

theorem read?_last (rest : List Char) : (within 0).read? ('}' :: rest) = none := by
  simp [within, read?]

theorem read?_other (notOpening : c ≠ '{') (notClosing : c ≠ '}') (depth : Depth) (rest : List Char) :
    depth.read? (c :: rest) = depth.read? rest := by
  simp [read?, notOpening, notClosing]

theorem read?_append (depth : Depth) (front back : List Char) : depth.read? (front ++ back) = (depth.read? front).bind (·.read? back) := by
  fun_induction read? depth front with
  | case1 => rfl
  | case2 depth rest ih => simp [read?, ih]
  | case3 depth rest last => simp_all [read?]
  | case4 depth rest stays _ ih => simp_all [read?]
  | case5 depth c rest notOpening notClosing ih => simp [read?, notOpening, notClosing, ih]

theorem read?_free (unopened : '{' ∉ text) (unclosed : '}' ∉ text) (depth : Depth) : depth.read? text = some depth := by
  induction text with
  | nil => rfl
  | cons c rest ih =>
    simp only [List.mem_cons, not_or] at unopened unclosed
    rw [read?_other (Ne.symm unopened.1) (Ne.symm unclosed.1), ih unopened.2 unclosed.2]

/-- A paired word is passed at any level. -/
theorem read?_paired (paired : Paired '{' '}' word) (level : Nat) (text : List Char) :
    (within level).read? (word ++ text) = (within level).read? text := by
  induction paired generalizing level text with
  | nil => rfl
  | other notOpening notClosing _ ih => rw [List.cons_append, read?_other notOpening notClosing, ih]
  | pair _ _ ihInside ihBehind =>
    rw [List.cons_append, read?_opening, List.append_assoc, ihInside, List.cons_append, read?_closing, ihBehind]

theorem closes_of_read? (read : (within level).read? text = some (within 0)) : Closes '{' '}' level text := by
  induction text generalizing level with
  | nil =>
    have same : level = 0 := by
      simp only [read?, within, Option.some.injEq, Depth.mk.injEq] at read
      omega
    exact same ▸ Paired.nil
  | cons c rest ih =>
    by_cases closing : c = '}'
    · subst closing
      cases level with
      | zero => simp [read?_last] at read
      | succ level => exact (ih (read?_closing level rest ▸ read)).cons_closing
    · by_cases opening : c = '{'
      · subst opening
        exact (ih (read?_opening level rest ▸ read)).cons_opening
      · exact (ih (read?_other opening closing _ rest ▸ read)).cons_other opening closing

theorem eq_within_of_atLast (last : depth.AtLast) : depth = within 0 := by
  obtain ⟨level, opened⟩ := depth
  obtain ⟨rfl, rfl⟩ := last
  rfl

/-- A text closes a block exactly if it has a closing brace where one brace is open. -/
theorem read?_eq_none_iff : depth.read? text = none ↔ ∃ front back, text = front ++ '}' :: back ∧ depth.read? front = some (within 0) := by
  constructor
  · intro closed
    rcases depth.read?_spec text with ⟨read, _⟩ | ⟨_, front, back, split, stays, last⟩
    · simp [read] at closed
    · refine ⟨front, back, split, ?_⟩
      rcases depth.read?_spec front with ⟨read, _⟩ | ⟨_, early, late, splitFront, _, earlier⟩
      · rw [read, eq_within_of_atLast last]
      · exact absurd earlier (stays early late splitFront)
  · rintro ⟨front, back, rfl, read⟩
    rw [read?_append, read, Option.bind_some, read?_last]

end Depth

/-! ## Blocks -/

/-- No brace is closed before the first one is opened, if any is. -/
def OpensFirst (text : List Char) : Prop :=
  ∀ before rest, text = before ++ '{' :: rest → '{' ∉ before → '}' ∉ before

/-- The shortest word with paired braces that begins at the first opening brace of a text, with what is before it. -/
structure FirstBlock (text before word : List Char) : Prop where
  begins : before ++ word <+: text
  unopened : '{' ∉ before
  opens : word.head? = some '{'
  paired : Paired '{' '}' word
  shortest : ∀ other, before ++ other <+: text → other.head? = some '{' → Paired '{' '}' other → word.length ≤ other.length

/-- The last character of a text that begins with the line `start` stands on the line `last`. -/
def EndsOn (group : List (List Char)) (start last : Nat) (text : List Char) : Prop :=
  start ≤ last ∧ ∃ line front, group[last]? = some line ∧ front <+: line ∧ front ≠ [] ∧
    text = ((group.take last).drop start).flatten ++ front

section Blocks

variable {depth : Depth} {text more before word : List Char} {group : List (List Char)} {start last : Nat}

theorem opensFirst_iff : OpensFirst text ↔ ('{' ∈ text → '}' ∉ text.takeWhile (· != '{')) := by
  have cut {before : List Char} (rest : List Char) (unopened : '{' ∉ before) : (before ++ '{' :: rest).takeWhile (· != '{') = before := by
    rw [List.takeWhile_append_of_pos (passes_of_notMem unopened)]
    simp
  constructor
  · intro opensFirst opened
    obtain ⟨before, rest, rfl, unopened⟩ := List.eq_append_cons_of_mem opened
    rw [cut rest unopened]
    exact opensFirst before rest rfl unopened
  · rintro unclosed before rest rfl unopened
    rw [← cut rest unopened]
    exact unclosed (by simp)

instance (text : List Char) : Decidable (OpensFirst text) :=
  decidable_of_iff _ opensFirst_iff.symm

theorem OpensFirst.of_append (opensFirst : OpensFirst (text ++ more)) : OpensFirst text := by
  rintro before rest rfl
  exact opensFirst before (rest ++ more) (by simp)

/-- One brace is open behind a text exactly if the text goes on from its first opening brace with a paired word. -/
theorem read?_eq_within_iff (opensFirst : OpensFirst text) :
    ({} : Depth).read? text = some (.within 0) ↔
      ∃ before inner, text = before ++ '{' :: inner ∧ '{' ∉ before ∧ Paired '{' '}' inner := by
  -- up to its first brace a text leaves the depth as it was
  have entered {before : List Char} (inner : List Char) (split : text = before ++ '{' :: inner) (unopened : '{' ∉ before) :
      ({} : Depth).read? text = (Depth.within 0).read? inner := by
    rw [split, Depth.read?_append, Depth.read?_free unopened (opensFirst before inner split unopened), Option.bind_some]
    rfl
  constructor
  · intro read
    have opened : '{' ∈ text := by
      rcases ({} : Depth).read?_spec text with ⟨after, _⟩ | ⟨closed, _⟩
      · have same : ({} : Depth).after text = .within 0 := Option.some.inj (after.symm.trans read)
        simpa using (Depth.opened_after {} text).mp (by rw [same]; rfl)
      · rw [closed] at read
        cases read
    obtain ⟨before, inner, split, unopened⟩ := List.eq_append_cons_of_mem opened
    have closes : Closes '{' '}' 0 inner := Depth.closes_of_read? (entered inner split unopened ▸ read)
    exact ⟨before, inner, split, unopened, closes⟩
  · rintro ⟨before, inner, split, unopened, paired⟩
    have passed := Depth.read?_paired paired 0 []
    rw [List.append_nil] at passed
    rw [entered inner split unopened, passed]
    rfl

theorem closingLine?_eq_some_iff :
    closingLine? depth group = some last ↔
      ∃ line deeper, group[last]? = some line ∧ depth.read? (group.take last).flatten = some deeper ∧ deeper.read? line = none := by
  induction group generalizing depth last with
  | nil => simp [closingLine?]
  | cons line below ih =>
    rw [closingLine?]
    cases read : depth.read? line with
    | none =>
      cases last with
      | zero => simp [Depth.read?, read]
      | succ last => simp [Depth.read?_append, read]
    | some deeper =>
      cases last with
      | zero => simp [Depth.read?, read]
      | succ last => simp [Depth.read?_append, read, ih]

theorem closingLine?_eq_none_iff : closingLine? depth group = none ↔ depth.read? group.flatten ≠ none := by
  induction group generalizing depth with
  | nil => simp [closingLine?, Depth.read?]
  | cons line below ih =>
    rw [closingLine?, List.flatten_cons, Depth.read?_append]
    cases depth.read? line with
    | none => simp
    | some deeper => simp [ih]

/-- The shortest word is the first pair. -/
theorem firstBlock_iff :
    FirstBlock text before word ↔
      ∃ inner after, text = before ++ '{' :: (inner ++ '}' :: after) ∧ '{' ∉ before ∧ Paired '{' '}' inner ∧
        word = '{' :: (inner ++ ['}']) := by
  constructor
  · rintro ⟨⟨after, joined⟩, unopened, opens, paired, shortest⟩
    obtain ⟨inner, rest, rfl, inside⟩ := paired.exists_pair opens
    -- the first pair alone would do, so nothing is behind it
    have pair : Paired '{' '}' ('{' :: (inner ++ ['}'])) := .pair inside .nil
    have least := shortest ('{' :: (inner ++ ['}'])) ⟨rest ++ after, by simp [← joined]⟩ rfl pair
    obtain rfl : rest = [] := by simpa using least
    exact ⟨inner, after, by simp [← joined], unopened, inside, rfl⟩
  · rintro ⟨inner, after, rfl, unopened, inside, rfl⟩
    refine ⟨⟨after, by simp⟩, unopened, rfl, .pair inside .nil, ?_⟩
    rintro other ⟨behind, joined⟩ opens paired
    obtain ⟨otherInner, rest, rfl, otherInside⟩ := paired.exists_pair opens
    have same : inner ++ '}' :: after = otherInner ++ '}' :: (rest ++ behind) := by simpa using joined.symm
    obtain rfl := inside.unique (by decide) otherInside same
    simp

theorem endsOn_drop_iff {further : Nat} : EndsOn (group.drop start) 0 further text ↔ EndsOn group start (start + further) text := by
  simp [EndsOn, List.take_drop]

/-- The brace that closes the block ends the shortest word. -/
theorem read?_eq_within_iff_firstBlock {front back : List Char} (opensFirst : OpensFirst (front ++ '}' :: back)) :
    ({} : Depth).read? front = some (.within 0) ↔
      ∃ before word, FirstBlock (front ++ '}' :: back) before word ∧ before ++ word = front ++ ['}'] := by
  rw [read?_eq_within_iff opensFirst.of_append]
  constructor
  · rintro ⟨before, inner, rfl, unopened, paired⟩
    exact ⟨before, _, firstBlock_iff.mpr ⟨inner, back, by simp, unopened, paired, rfl⟩, by simp⟩
  · rintro ⟨before, word, block, same⟩
    obtain ⟨inner, _, _, unopened, paired, rfl⟩ := firstBlock_iff.mp block
    have ended : front ++ ['}'] = (before ++ '{' :: inner) ++ ['}'] := by simp [← same]
    exact ⟨before, inner, List.append_cancel_right ended, unopened, paired⟩

theorem flatten_of_getElem? {line : List Char} (there : group[last]? = some line) :
    group.flatten = (group.take last).flatten ++ (line ++ (group.drop (last + 1)).flatten) := by
  obtain ⟨inside, rfl⟩ := List.getElem?_eq_some_iff.mp there
  rw [← List.flatten_cons, ← List.drop_eq_getElem_cons inside, ← List.flatten_append, List.take_append_drop]

theorem blockEnd?_eq_some_iff (opensFirst : OpensFirst group.flatten) :
    blockEnd? group = some last ↔ ∃ before word, FirstBlock group.flatten before word ∧ EndsOn group 0 last (before ++ word) := by
  -- the text around a closing brace on the line
  have around {front back : List Char} (there : group[last]? = some (front ++ '}' :: back)) :
      group.flatten = ((group.take last).flatten ++ front) ++ '}' :: (back ++ (group.drop (last + 1)).flatten) := by
    simp [flatten_of_getElem? there]
  rw [blockEnd?, closingLine?_eq_some_iff]
  constructor
  · rintro ⟨line, deeper, there, above, closed⟩
    obtain ⟨front, back, rfl, read⟩ := Depth.read?_eq_none_iff.mp closed
    have reached : ({} : Depth).read? ((group.take last).flatten ++ front) = some (.within 0) := by
      rw [Depth.read?_append, above, Option.bind_some, read]
    rw [around there] at opensFirst ⊢
    obtain ⟨before, word, block, same⟩ := (read?_eq_within_iff_firstBlock opensFirst).mp reached
    exact ⟨before, word, block, Nat.zero_le _, _, front ++ ['}'], there, ⟨back, by simp⟩, by simp, by simp [same]⟩
  · rintro ⟨before, word, block, _, line, taken, there, ⟨back, rfl⟩, nonempty, same⟩
    obtain ⟨front, c, rfl⟩ := (List.eq_nil_or_concat taken).resolve_left nonempty
    rw [List.concat_eq_append] at there same
    obtain rfl : c = '}' := by
      obtain ⟨inner, _, _, _, _, rfl⟩ := firstBlock_iff.mp block
      have ended : ((group.take last).flatten ++ front) ++ [c] = (before ++ '{' :: inner) ++ ['}'] := by simpa using same.symm
      exact List.singleton_inj.mp (List.append_inj' ended rfl).2
    rw [List.append_assoc] at there
    rw [around there] at opensFirst block
    have reached := (read?_eq_within_iff_firstBlock opensFirst).mpr ⟨before, word, block, by simpa using same⟩
    rw [Depth.read?_append] at reached
    obtain ⟨deeper, above, read⟩ := Option.bind_eq_some_iff.mp reached
    exact ⟨_, deeper, there, above, Depth.read?_eq_none_iff.mpr ⟨front, back, rfl, read⟩⟩

theorem blockEnd?_eq_none_iff (opensFirst : OpensFirst group.flatten) :
    blockEnd? group = none ↔ ¬ ∃ before word, FirstBlock group.flatten before word := by
  rw [blockEnd?, closingLine?_eq_none_iff, ne_eq, not_iff_not, Depth.read?_eq_none_iff]
  constructor
  · rintro ⟨front, back, split, read⟩
    rw [split] at opensFirst ⊢
    obtain ⟨before, word, block, _⟩ := (read?_eq_within_iff_firstBlock opensFirst).mp read
    exact ⟨before, word, block⟩
  · rintro ⟨before, word, block⟩
    obtain ⟨inner, after, joined, unopened, paired, _⟩ := firstBlock_iff.mp block
    have split : group.flatten = (before ++ '{' :: inner) ++ '}' :: after := by simp [joined]
    rw [split] at opensFirst
    exact ⟨_, after, split, (read?_eq_within_iff opensFirst.of_append).mpr ⟨before, inner, rfl, unopened, paired⟩⟩

theorem blockEndAt?_eq_some_iff (opensFirst : OpensFirst (group.drop start).flatten) :
    Aiken.blockEndAt? group start = some last ↔
      ∃ before word, FirstBlock (group.drop start).flatten before word ∧ EndsOn group start last (before ++ word) := by
  rw [Aiken.blockEndAt?, Option.map_eq_some_iff]
  constructor
  · rintro ⟨further, found, rfl⟩
    obtain ⟨before, word, block, ends⟩ := (blockEnd?_eq_some_iff opensFirst).mp found
    exact ⟨before, word, block, endsOn_drop_iff.mp ends⟩
  · rintro ⟨before, word, block, ends⟩
    obtain ⟨further, rfl⟩ := Nat.exists_eq_add_of_le ends.1
    exact ⟨further, (blockEnd?_eq_some_iff opensFirst).mpr ⟨before, word, block, endsOn_drop_iff.mpr ends⟩, rfl⟩

end Blocks

/-- Brackets are matched exactly. In a text, the first opening parenthesis is found together with the one behind a word with paired
parentheses, and nothing is found if there is no such word. In lines, from one of them on, the line is found with the brace that ends
the shortest word with paired braces at the first opening one, and none is found if there is no such word, as long as no brace is closed
before the first is opened. -/
theorem brackets_matched (text : List Char) (group : List (List Char)) (start : Nat) :
    (∀ inner close, (parens? text).map (fun parens => (parens.inner, parens.close)) = some (inner, close) ↔
      ∃ before after, CutAtParens text before inner after ∧ close = (before ++ '(' :: inner).length) ∧
    (parens? text = none ↔ ¬ ∃ before inner after, CutAtParens text before inner after) ∧
    (OpensFirst (group.drop start).flatten →
      (∀ last, Aiken.blockEndAt? group start = some last ↔
        ∃ before word, FirstBlock (group.drop start).flatten before word ∧ EndsOn group start last (before ++ word)) ∧
      (Aiken.blockEndAt? group start = none ↔ ¬ ∃ before word, FirstBlock (group.drop start).flatten before word)) := by
  refine ⟨fun inner close => map_parens?_eq_some_iff, parens?_eq_none_iff, fun opensFirst => ⟨fun last => ?_, ?_⟩⟩
  · exact blockEndAt?_eq_some_iff opensFirst
  · rw [Aiken.blockEndAt?, Option.map_eq_none_iff, blockEnd?_eq_none_iff opensFirst]

/-- Pairs inside of pairs, on one line and below a line that closes a brace. -/
theorem brackets_matched_nested :
    let text := "f(g(x), y) -> (Int".toList
    let group := ["\x7d", "fn f() \x7b", "  \x7b \x7b \x7d", "\x7d \x7d \x7d"].map String.toList
    (∃ before after, CutAtParens text before "g(x), y".toList after ∧ 9 = (before ++ '(' :: "g(x), y".toList).length) ∧
      OpensFirst (group.drop 1).flatten ∧
      ∃ before word, FirstBlock (group.drop 1).flatten before word ∧ EndsOn group 1 3 (before ++ word) := by
  intro text group
  have matched := brackets_matched text group 1
  have parens : (parens? text).map (fun parens => (parens.inner, parens.close)) = some ("g(x), y".toList, 9) := by decide +kernel
  have opensFirst : OpensFirst (group.drop 1).flatten := by decide +kernel
  have block : Aiken.blockEndAt? group 1 = some 3 := by decide +kernel
  exact ⟨(matched.1 _ _).mp parens, opensFirst, ((matched.2.2 opensFirst).1 3).mp block⟩

end DeclIndex.Bracket
