import DeclIndex.Proofs.DeclaredNames
import DeclIndex.Proofs.Trimming

/-!
# Where the text of a function ends

The text of a function is cut by lines, but the brace that closes its first block is found by characters. Up to that brace there
are as many opening braces as closing ones; what follows it on its line, such as the body behind a pattern in a parameter list,
belongs to the text too and decides alone whether the whole is balanced.
-/

namespace DeclIndex
open DeclIndex.Text

theorem Text.lineFeed_notMem_of_mem_lines {text line : List Char} (member : line ∈ lines text) : '\n' ∉ line := by
  induction text generalizing line with
  | nil =>
    rw [lines, List.splitOn_nil, List.mem_singleton] at member
    simp [member]
  | cons c rest ih =>
    rw [lines, List.splitOn_cons_eq_if_modifyHead] at member
    obtain ⟨first, more, split⟩ := List.exists_cons_of_ne_nil (List.splitOn_ne_nil '\n' rest)
    have singleFirst : '\n' ∉ first := ih (by rw [lines, split]; exact List.mem_cons_self)
    split at member
    · rcases List.mem_cons.mp member with rfl | later
      · exact List.not_mem_nil
      · exact ih later
    · next other =>
      rw [split, List.modifyHead_cons] at member
      rcases List.mem_cons.mp member with rfl | later
      · intro inside
        rcases List.mem_cons.mp inside with rfl | inFirst
        · exact other (by decide)
        · exact singleFirst inFirst
      · exact ih (by rw [lines, split]; exact List.mem_cons_of_mem _ later)

namespace Bracket

/-! ## Depth, character by character -/

/-- The depth after one more character, whether or not it closes the block. -/
def Depth.step (depth : Depth) (c : Char) : Depth :=
  if c = '{' then ⟨depth.level + 1, true⟩ else if c = '}' then ⟨depth.level - 1, depth.opened⟩ else depth

/-- The depth after a text. -/
def Depth.after (depth : Depth) (text : List Char) : Depth :=
  text.foldl Depth.step depth

/-- Exactly one brace is open, so that a closing one closes the block. -/
def Depth.AtLast (depth : Depth) : Prop :=
  depth.opened = true ∧ depth.level = 1

/-- No closing brace of a text closes the block. -/
def Depth.StaysOpen (depth : Depth) (text : List Char) : Prop :=
  ∀ front back, text = front ++ '}' :: back → ¬ (depth.after front).AtLast

@[simp] theorem Depth.after_cons (depth : Depth) (c : Char) (rest : List Char) :
    depth.after (c :: rest) = (depth.step c).after rest := rfl

@[simp] theorem Depth.after_append (depth : Depth) (front back : List Char) :
    depth.after (front ++ back) = (depth.after front).after back :=
  List.foldl_append

theorem Depth.level_after (depth : Depth) (text : List Char) :
    (depth.after text).level = depth.level + text.count '{' - text.count '}' := by
  induction text generalizing depth with
  | nil => simp [Depth.after]
  | cons c rest ih =>
    rw [Depth.after_cons, ih, Depth.step]
    by_cases opens : c = '{'
    · subst opens
      simp
      omega
    · by_cases closes : c = '}'
      · subst closes
        simp
        omega
      · simp [opens, closes]

theorem Depth.opened_after (depth : Depth) (text : List Char) :
    (depth.after text).opened = true ↔ depth.opened = true ∨ '{' ∈ text := by
  induction text generalizing depth with
  | nil => simp [Depth.after]
  | cons c rest ih =>
    rw [Depth.after_cons, ih, Depth.step]
    by_cases opens : c = '{'
    · simp [opens]
    · by_cases closes : c = '}' <;> simp [opens, closes, Ne.symm opens]

theorem Depth.staysOpen_cons {depth : Depth} {c : Char} {rest : List Char} (here : c = '}' → ¬ depth.AtLast)
    (below : (depth.step c).StaysOpen rest) : depth.StaysOpen (c :: rest) := by
  intro front back split
  cases front with
  | nil =>
    obtain ⟨closes, _⟩ := List.cons.inj split
    exact here closes
  | cons d more =>
    obtain ⟨rfl, splitRest⟩ := List.cons.inj split
    exact below more back splitRest

theorem Depth.staysOpen_append {depth : Depth} {front back : List Char} (first : depth.StaysOpen front)
    (second : (depth.after front).StaysOpen back) : depth.StaysOpen (front ++ back) := by
  induction front generalizing depth with
  | nil => exact second
  | cons c rest ih =>
    refine Depth.staysOpen_cons (fun closes => ?_) (ih (fun early late split => ?_) second)
    · subst closes
      exact first [] rest rfl
    · exact first (c :: early) late (by rw [split, List.cons_append])

/-- What reading a line says: either no brace of it closes the block, or the first that does is found. -/
theorem Depth.read?_spec (depth : Depth) (line : List Char) :
    (depth.read? line = some (depth.after line) ∧ depth.StaysOpen line) ∨
      (depth.read? line = none ∧ ∃ front back, line = front ++ '}' :: back ∧ depth.StaysOpen front ∧
        (depth.after front).AtLast) := by
  induction line generalizing depth with
  | nil => exact Or.inl ⟨rfl, by simp [StaysOpen]⟩
  | cons c rest ih =>
    -- a brace that closes the block ends the line; every other character takes one step
    by_cases ends : c = '}' ∧ depth.AtLast
    · obtain ⟨rfl, opened, level⟩ := ends
      refine Or.inr ⟨by simp [read?, opened, level], [], rest, rfl, by simp [StaysOpen], opened, level⟩
    · have stepped : depth.read? (c :: rest) = (depth.step c).read? rest := by
        rw [read?, step]
        by_cases closes : c = '}'
        · have goesOn : ¬ (depth.opened && depth.level == 1) = true := by
            intro both
            simp only [Bool.and_eq_true, beq_iff_eq] at both
            exact ends ⟨closes, both⟩
          simp [closes, goesOn]
        · by_cases opens : c = '{' <;> simp [opens, closes]
      have here : c = '}' → ¬ depth.AtLast := fun closes last => ends ⟨closes, last⟩
      rw [stepped, after_cons]
      rcases ih (depth.step c) with ⟨read, stays⟩ | ⟨read, front, back, split, stays, last⟩
      · exact Or.inl ⟨read, staysOpen_cons here stays⟩
      · exact Or.inr ⟨read, c :: front, back, by rw [split, List.cons_append], staysOpen_cons here stays, last⟩

/-! ## Blocks -/

/-- A text has as many opening braces as closing ones. -/
def Balanced (text : List Char) : Prop :=
  text.count '{' = text.count '}'

instance (text : List Char) : Decidable (Balanced text) :=
  inferInstanceAs (Decidable (_ = _))

theorem balanced_append {front : List Char} (balanced : Balanced front) (back : List Char) :
    Balanced (front ++ back) ↔ Balanced back := by
  unfold Balanced at *
  rw [List.count_append, List.count_append]
  omega

/-- A text that ends with the brace that closes its first block: it opens a brace, it is balanced, and it is not so at a closing
brace before, once one was opened. -/
structure IsBlock (text : List Char) : Prop where
  opens : '{' ∈ text
  balanced : Balanced text
  ends : text.getLast? = some '}'
  first : ∀ front back, text = front ++ '}' :: back → '{' ∈ front → Balanced (front ++ ['}']) → back = []

theorem atLast_iff (front : List Char) :
    (({} : Depth).after front).AtLast ↔ '{' ∈ front ∧ Balanced (front ++ ['}']) := by
  unfold Depth.AtLast Balanced
  rw [Depth.opened_after, Depth.level_after, List.count_append, List.count_append]
  simp
  omega

theorem isBlock_of_staysOpen {front : List Char} (stays : ({} : Depth).StaysOpen front)
    (last : (({} : Depth).after front).AtLast) : IsBlock (front ++ ['}']) := by
  obtain ⟨opens, balanced⟩ := (atLast_iff front).mp last
  refine ⟨List.mem_append_left _ opens, balanced, List.getLast?_concat, ?_⟩
  intro early back split opened closed
  rcases List.eq_nil_or_concat back with rfl | ⟨more, c, rfl⟩
  · rfl
  -- a closing brace further up is one that `front` has
  · rw [List.concat_eq_append, ← List.cons_append, ← List.append_assoc] at split
    obtain ⟨inside, _⟩ := List.append_inj' split rfl
    exact absurd ((atLast_iff early).mpr ⟨opened, closed⟩) (stays early more inside)

/-- A text is made of the first of some lines, and `rest` is what follows in it behind the brace that closes its first block. -/
structure CutBehind (group : List (List Char)) (code rest : List Char) : Prop where
  whole : ∃ count, code = unlines (group.take count)
  block : ∃ block, code = block ++ rest ∧ IsBlock block
  sameLine : '\n' ∉ rest

theorem closingLine?_spec {depth : Depth} {group : List (List Char)} {last : Nat}
    (found : closingLine? depth group = some last) (single : ∀ line ∈ group, '\n' ∉ line) :
    ∃ front back, unlines (group.take (last + 1)) = front ++ '}' :: back ∧ depth.StaysOpen front ∧
      (depth.after front).AtLast ∧ '\n' ∉ back := by
  induction group generalizing depth last with
  | nil => cases found
  | cons line below ih =>
    obtain ⟨singleLine, singleBelow⟩ := List.forall_mem_cons.mp single
    rw [closingLine?] at found
    rcases depth.read?_spec line with ⟨read, stays⟩ | ⟨read, front, back, split, stays, atLast⟩
    · rw [read] at found
      obtain ⟨further, foundBelow, rfl⟩ := Option.map_eq_some_iff.mp found
      obtain ⟨front, back, split, staysBelow, atLast, sameLine⟩ := ih foundBelow singleBelow
      -- the line feed between the lines is no brace
      have feed : (depth.after line).step '\n' = depth.after line := rfl
      refine ⟨line ++ '\n' :: front, back, ?_, ?_, ?_, sameLine⟩
      · have more : below.take (further + 1) ≠ [] := by
          intro none
          rw [none] at split
          simp [unlines] at split
        obtain ⟨next, rest, taken⟩ := List.exists_cons_of_ne_nil more
        rw [List.take_succ_cons, taken]
        rw [taken] at split
        simp only [unlines, List.intercalate_cons_cons] at split ⊢
        rw [split]
        simp
      · refine Depth.staysOpen_append stays (Depth.staysOpen_cons (fun same => absurd same (by decide)) ?_)
        rw [feed]
        exact staysBelow
      · rw [Depth.after_append, Depth.after_cons, feed]
        exact atLast
    · rw [read] at found
      cases found
      refine ⟨front, back, ?_, stays, atLast, ?_⟩
      · simp [unlines, split]
      · rw [split] at singleLine
        intro inside
        exact singleLine (List.mem_append_right _ (List.mem_cons_of_mem _ inside))

/-- The lines of a block are cut behind the brace that closes it. -/
theorem block?_cutBehind {group lines : List (List Char)} (found : block? group = some lines)
    (single : ∀ line ∈ group, '\n' ∉ line) : ∃ rest, CutBehind group (unlines lines) rest := by
  obtain ⟨last, closed, rfl⟩ := Option.map_eq_some_iff.mp found
  obtain ⟨front, back, split, stays, atLast, sameLine⟩ := closingLine?_spec closed single
  refine ⟨back, ⟨last + 1, rfl⟩, ⟨front ++ ['}'], ?_, isBlock_of_staysOpen stays atLast⟩, sameLine⟩
  rw [split, List.append_assoc]
  rfl

theorem CutBehind.balanced_iff {group : List (List Char)} {code rest : List Char} (cut : CutBehind group code rest) :
    Balanced code ↔ Balanced rest := by
  obtain ⟨block, rfl, isBlock⟩ := cut.block
  exact balanced_append isBlock.balanced rest

end Bracket

/-! ## Functions of either language -/

theorem Bracket.cutBehind_of_lines {text line : List Char} {front below group : List (List Char)}
    (split : lines text = front ++ line :: below) (closed : block? (line :: below) = some group) :
    ∃ rest, CutBehind ((lines text).drop front.length) (unlines group) rest := by
  rw [split, List.drop_left]
  refine block?_cutBehind closed fun other inside => ?_
  have inText : other ∈ lines text := by
    rw [split]
    exact List.mem_append_right front inside
  exact lineFeed_notMem_of_mem_lines inText

theorem Aiken.implementation_cutBehind {origin : Origin} {text code : String} {f : Function}
    (member : f ∈ (scan origin text).functions) (shown : f.implementation = some code) :
    ∃ rest, Bracket.CutBehind ((lines text.toList).drop (f.line - 1)) code.toList rest := by
  obtain ⟨front, line, below, length, split, introduced⟩ :=
    introduced_of_mem ((Outline.mem_declarations (.function f)).mpr member)
  obtain ⟨head, _, rfl, _⟩ := introduced
  obtain ⟨group, closed, rfl⟩ := Option.map_eq_some_iff.mp shown
  have cut := Bracket.cutBehind_of_lines split closed
  simpa [functionAt] using cut

namespace TypeScript

/-- A function is one line that ends with a semicolon and opens no brace. -/
structure OnOneLine (group : List (List Char)) (code : List Char) : Prop where
  whole : group.head? = some code
  opensNone : '{' ∉ code
  ends : endsWith (trim code) ";"

theorem OnOneLine.balanced_iff {group : List (List Char)} {code : List Char} (single : OnOneLine group code) :
    Bracket.Balanced code ↔ '}' ∉ code := by
  rw [Bracket.Balanced, List.count_eq_zero_of_not_mem single.opensNone, eq_comm, List.count_eq_zero]

theorem implementation_cutBehind {source text code : String} {f : Function} (member : f ∈ (scan source text).functions)
    (shown : f.implementation = some code) :
    (∃ rest, Bracket.CutBehind ((lines text.toList).drop (f.line - 1)) code.toList rest) ∨
      OnOneLine ((lines text.toList).drop (f.line - 1)) code.toList := by
  obtain ⟨front, line, below, length, split, introduced⟩ :=
    introduced_of_mem ((Outline.mem_declarations (.function f)).mpr member)
  obtain ⟨name, _, rfl, _⟩ := introduced
  obtain ⟨group, found, rfl⟩ := Option.map_eq_some_iff.mp shown
  unfold implementation? at found
  split at found
  · next short =>
    cases found
    rw [Bool.and_eq_true, Bool.not_eq_true', List.contains_eq_mem, decide_eq_false_iff_not] at short
    obtain ⟨closed, ends⟩ := short
    right
    simp only [unlines, List.intercalate_singleton, String.toList_ofList]
    refine ⟨?_, fun opens => closed (mem_trim_of_mem opens (by decide)), ends⟩
    simp [functionAt, split]
  · have cut := Bracket.cutBehind_of_lines split found
    left
    simpa [functionAt] using cut

end TypeScript

/-- A function that takes its parameter apart: the braces of the pattern close on the line where the body opens. -/
def Aiken.patternParameter : String :=
  "fn total(Item \x7b price, count \x7d: Item) -> Int \x7b\n  price * count\n\x7d"

@[inherit_doc Aiken.patternParameter]
def TypeScript.patternParameter : String :=
  "export function total(\x7b price, count \x7d: Item): number \x7b\n  return price * count;\n\x7d"

namespace Bracket

/-- The text of a function goes up to the line that closes its first block, and it is balanced only if what follows there is; a
function on one line without a brace to open is balanced if it has none to close. -/
theorem balanced_implementation_iff (text code : String) (f : Function) (shown : f.implementation = some code) :
    (∀ origin, f ∈ (Aiken.scan origin text).functions →
      ∃ rest, CutBehind ((lines text.toList).drop (f.line - 1)) code.toList rest ∧
        (Balanced code.toList ↔ Balanced rest)) ∧
    (∀ source, f ∈ (TypeScript.scan source text).functions →
      (∃ rest, CutBehind ((lines text.toList).drop (f.line - 1)) code.toList rest ∧
        (Balanced code.toList ↔ Balanced rest)) ∨
      (TypeScript.OnOneLine ((lines text.toList).drop (f.line - 1)) code.toList ∧
        (Balanced code.toList ↔ '}' ∉ code.toList))) := by
  constructor
  · intro origin member
    obtain ⟨rest, cut⟩ := Aiken.implementation_cutBehind member shown
    exact ⟨rest, cut, cut.balanced_iff⟩
  · intro source member
    rcases TypeScript.implementation_cutBehind member shown with ⟨rest, cut⟩ | single
    · exact Or.inl ⟨rest, cut, cut.balanced_iff⟩
    · exact Or.inr ⟨single, single.balanced_iff⟩

/-- Of a function that takes its parameter apart, only the head is kept. -/
theorem implementation_of_patternParameter :
    (Aiken.scan ⟨"stdlib", false⟩ Aiken.patternParameter).functions.map (·.implementation) =
        [some "fn total(Item \x7b price, count \x7d: Item) -> Int \x7b"] ∧
      ¬ Balanced "fn total(Item \x7b price, count \x7d: Item) -> Int \x7b".toList ∧
    (TypeScript.scan "ts" TypeScript.patternParameter).functions.map (·.implementation) =
        [some "export function total(\x7b price, count \x7d: Item): number \x7b"] ∧
      ¬ Balanced "export function total(\x7b price, count \x7d: Item): number \x7b".toList := by
  decide +kernel

theorem balanced_implementation_iff_patternParameter :
    ∃ f ∈ (TypeScript.scan "ts" TypeScript.patternParameter).functions, ∃ code, f.implementation = some code ∧
      ∃ rest, CutBehind ((lines TypeScript.patternParameter.toList).drop (f.line - 1)) code.toList rest ∧
        ¬ Balanced rest := by
  let f := (TypeScript.scan "ts" TypeScript.patternParameter).functions.head (by decide +kernel)
  let code := "export function total(\x7b price, count \x7d: Item): number \x7b"
  have member : f ∈ (TypeScript.scan "ts" TypeScript.patternParameter).functions := List.head_mem _
  have shown : f.implementation = some code := by decide +kernel
  refine ⟨f, member, code, shown, ?_⟩
  rcases (balanced_implementation_iff TypeScript.patternParameter code f shown).2 "ts" member with
    ⟨rest, cut, same⟩ | ⟨single, _⟩
  · exact ⟨rest, cut, fun balanced => absurd (same.mpr balanced) (by decide)⟩
  · exact absurd single.opensNone (by decide)

end Bracket

end DeclIndex
