import DeclIndex.Aiken.Head
import Mathlib.Data.List.TakeWhile

/-!
# What the head of an Aiken declaration begins with

The first letter of a line, after the word `pub`, tells the kind of its head. So no line is a head of two kinds, and a comment
is a head of none.
-/

namespace DeclIndex

namespace Text

theorem head?_of_dropFront? {c : Char} {front text rest : List Char} (read : dropFront? (c :: front) text = some rest) :
    text.head? = some c := by
  cases text with
  | nil => cases read
  | cons d more =>
    unfold dropFront? at read
    split at read
    · next same => rw [same, List.head?_cons]
    · cases read

theorem head?_of_dropKeyword? {word : String} {c : Char} {front text rest : List Char} (spelled : word.toList = c :: front)
    (read : dropKeyword? word text = some rest) : text.head? = some c := by
  obtain ⟨behind, dropped, _⟩ := Option.bind_eq_some_iff.mp read
  rw [spelled] at dropped
  exact head?_of_dropFront? dropped

theorem takeKeyword_of_none {word : String} {text : List Char} (missing : dropKeyword? word text = none) :
    takeKeyword word text = (false, text) := by
  simp only [takeKeyword, missing]

/-- A name that an alphabet spells: one that could be read as an identifier. -/
def Alphabet.Spells (alphabet : Alphabet) (name : List Char) : Prop :=
  ∃ c rest, name = c :: rest ∧ alphabet.first c ∧ ∀ d ∈ rest, alphabet.later d

theorem Alphabet.spells_ident? {alphabet : Alphabet} {text name left : List Char}
    (read : alphabet.ident? text = some (name, left)) : alphabet.Spells name := by
  cases text with
  | nil => cases read
  | cons c rest =>
    simp only [Alphabet.ident?] at read
    split at read
    · next first =>
      cases read
      exact ⟨c, _, rfl, first, fun d member => List.mem_takeWhile_imp member⟩
    · cases read

/-- A character that an alphabet does not have is in no identifier. -/
theorem Alphabet.Spells.notMem {alphabet : Alphabet} {name : List Char} {c : Char} (spelled : alphabet.Spells name)
    (notFirst : alphabet.first c = false) (notLater : alphabet.later c = false) : c ∉ name := by
  obtain ⟨d, rest, rfl, first, later⟩ := spelled
  intro member
  rcases List.mem_cons.mp member with rfl | inside
  · rw [notFirst] at first; cases first
  · have read := later c inside
    rw [notLater] at read; cases read

end Text

namespace Aiken
open DeclIndex.Text

/-- The letter that tells the kind of a head: the first one after the word `pub`. -/
def opening (line : List Char) : Option Char :=
  (takeKeyword "pub" line).2.head?

theorem opening_of_head? {line : List Char} {c : Char} (first : line.head? = some c) (other : c ≠ 'p') :
    opening line = some c := by
  cases read : dropKeyword? "pub" line with
  | none => rw [opening, takeKeyword_of_none read, first]
  | some rest =>
    have marked : line.head? = some 'p' := head?_of_dropKeyword? rfl read
    rw [first] at marked
    exact absurd (Option.some.inj marked) other

theorem opening_of_useHead? {line : List Char} {head : UseHead} (read : useHead? line = some head) :
    opening line = some 'u' := by
  obtain ⟨rest, dropped, _⟩ := Option.bind_eq_some_iff.mp read
  exact opening_of_head? (head?_of_dropKeyword? rfl dropped) (by decide)

theorem opening_of_testHead? {line name : List Char} (read : testHead? line = some name) : opening line = some 't' := by
  obtain ⟨rest, dropped, _⟩ := Option.bind_eq_some_iff.mp read
  exact opening_of_head? (head?_of_dropKeyword? rfl dropped) (by decide)

theorem opening_of_functionHead? {line : List Char} {head : FunctionHead} (read : functionHead? line = some head) :
    opening line = some 'f' := by
  obtain ⟨rest, dropped, _⟩ := Option.bind_eq_some_iff.mp read
  exact head?_of_dropKeyword? rfl dropped

theorem opening_of_constantHead? {line : List Char} {head : ConstantHead} (read : constantHead? line = some head) :
    opening line = some 'c' := by
  obtain ⟨rest, dropped, _⟩ := Option.bind_eq_some_iff.mp read
  exact head?_of_dropKeyword? rfl dropped

theorem opening_of_typeHead? {line : List Char} {head : TypeHead} (read : typeHead? line = some head) :
    opening line = some 'o' ∨ opening line = some 't' := by
  obtain ⟨rest, dropped, _⟩ := Option.bind_eq_some_iff.mp read
  cases marked : dropKeyword? "opaque" (takeKeyword "pub" line).2 with
  | some behind => exact Or.inl (head?_of_dropKeyword? rfl marked)
  | none =>
    change dropKeyword? "type" (takeKeyword "opaque" (takeKeyword "pub" line).2).2 = some rest at dropped
    rw [takeKeyword_of_none marked] at dropped
    exact Or.inr (head?_of_dropKeyword? rfl dropped)

/-- A head is on a line. -/
def Reads (line : List Char) : Head → Prop
  | .use head => useHead? line = some head
  | .function head => functionHead? line = some head
  | .type head => typeHead? line = some head
  | .constant head => constantHead? line = some head

/-- The letters that a head of each kind may begin with. -/
def Head.openings : Head → List Char
  | .use _ => ['u']
  | .function _ => ['f']
  | .type _ => ['o', 't']
  | .constant _ => ['c']

theorem Reads.opening {line : List Char} {head : Head} (read : Reads line head) :
    ∃ c ∈ head.openings, Aiken.opening line = some c := by
  cases head with
  | use head => exact ⟨'u', by simp [Head.openings], opening_of_useHead? read⟩
  | function head => exact ⟨'f', by simp [Head.openings], opening_of_functionHead? read⟩
  | type head =>
    rcases opening_of_typeHead? read with first | second
    · exact ⟨'o', by simp [Head.openings], first⟩
    · exact ⟨'t', by simp [Head.openings], second⟩
  | constant head => exact ⟨'c', by simp [Head.openings], opening_of_constantHead? read⟩

/-- A line is at most one head. -/
theorem Reads.unique {line : List Char} {head other : Head} (read : Reads line head) (again : Reads line other) :
    head = other := by
  obtain ⟨c, letter, opened⟩ := read.opening
  obtain ⟨d, otherLetter, openedAgain⟩ := again.opening
  obtain rfl : c = d := Option.some.inj (opened.symm.trans openedAgain)
  cases head <;> cases other
  case use.use => rw [Option.some.inj (read.symm.trans again)]
  case function.function => rw [Option.some.inj (read.symm.trans again)]
  case type.type => rw [Option.some.inj (read.symm.trans again)]
  case constant.constant => rw [Option.some.inj (read.symm.trans again)]
  -- heads of two kinds have no letter in common
  all_goals
    simp only [Head.openings, List.mem_cons, List.not_mem_nil, or_false] at letter otherLetter
    rcases letter with rfl | rfl <;> simp at otherLetter

theorem reads_of_head? {line : List Char} {head : Head} (found : head? line = some head) : Reads line head := by
  unfold head? at found
  cases use : useHead? line with
  | some _ => rw [use] at found; cases found; exact use
  | none =>
    cases function : functionHead? line with
    | some _ => rw [use, function] at found; cases found; exact function
    | none =>
      cases type : typeHead? line with
      | some _ => rw [use, function, type] at found; cases found; exact type
      | none =>
        cases constant : constantHead? line with
        | some _ => rw [use, function, type, constant] at found; cases found; exact constant
        | none => rw [use, function, type, constant] at found; cases found

/-- The order in which the kinds of heads are tried plays no role. -/
theorem head?_eq_some_iff {line : List Char} {head : Head} : head? line = some head ↔ Reads line head := by
  refine ⟨reads_of_head?, fun read => ?_⟩
  cases found : head? line with
  | some other => rw [(reads_of_head? found).unique read]
  | none =>
    have missing : useHead? line = none ∧ functionHead? line = none ∧ typeHead? line = none ∧
        constantHead? line = none := by
      simpa [head?] using found
    obtain ⟨use, function, type, constant⟩ := missing
    cases head with
    | use _ => rw [Reads, use] at read; cases read
    | function _ => rw [Reads, function] at read; cases read
    | type _ => rw [Reads, type] at read; cases read
    | constant _ => rw [Reads, constant] at read; cases read

/-- What the head of an import says. -/
def Head.use? : Head → Option UseHead
  | .use head => some head
  | _ => none

/-- What the head of a function says. -/
def Head.function? : Head → Option FunctionHead
  | .function head => some head
  | _ => none

/-- What the head of a type says. -/
def Head.type? : Head → Option TypeHead
  | .type head => some head
  | _ => none

/-- What the head of a constant says. -/
def Head.constant? : Head → Option ConstantHead
  | .constant head => some head
  | _ => none

private theorem reader_eq {α : Type} {line : List Char} {read : Option α} {kind : α → Head} {pick : Head → Option α}
    (reads : ∀ a, read = some a ↔ Reads line (kind a)) (picks : ∀ head a, pick head = some a ↔ head = kind a) :
    read = (head? line).bind pick := by
  ext a
  rw [reads, ← head?_eq_some_iff, Option.bind_eq_some_iff]
  constructor
  · exact fun found => ⟨kind a, found, (picks _ a).mpr rfl⟩
  · rintro ⟨head, found, picked⟩
    rw [found, (picks head a).mp picked]

/-- What each reader says of a line follows from the head on it. -/
theorem readers_eq (line : List Char) :
    useHead? line = (head? line).bind Head.use? ∧ functionHead? line = (head? line).bind Head.function? ∧
      typeHead? line = (head? line).bind Head.type? ∧ constantHead? line = (head? line).bind Head.constant? := by
  refine ⟨@reader_eq _ line _ .use Head.use? (fun _ => Iff.rfl) ?_,
    @reader_eq _ line _ .function Head.function? (fun _ => Iff.rfl) ?_,
    @reader_eq _ line _ .type Head.type? (fun _ => Iff.rfl) ?_,
    @reader_eq _ line _ .constant Head.constant? (fun _ => Iff.rfl) ?_⟩ <;>
    intro head a <;> cases head <;> simp [Head.use?, Head.function?, Head.type?, Head.constant?]

theorem isHead_eq (line : List Char) : isHead line = ((head? line).isSome || (testHead? line).isSome) := by
  unfold isHead head?
  cases useHead? line <;> cases functionHead? line <;> cases typeHead? line <;> cases constantHead? line <;> simp

/-- A comment begins no declaration. -/
theorem isHead_of_isComment {line : List Char} (comment : isComment line) : isHead line = false := by
  have slash : line.head? = some '/' := by
    obtain ⟨rest, rfl⟩ := List.isPrefixOf_iff_prefix.mp comment
    rfl
  have opened : opening line = some '/' := opening_of_head? slash (by decide)
  have noHead : head? line = none := by
    cases found : head? line with
    | none => rfl
    | some head =>
      obtain ⟨c, letter, openedAgain⟩ := (reads_of_head? found).opening
      obtain rfl : c = '/' := Option.some.inj (openedAgain.symm.trans opened)
      cases head <;> simp [Head.openings] at letter
  have noTest : testHead? line = none := by
    cases read : testHead? line with
    | none => rfl
    | some name =>
      have other := opening_of_testHead? read
      simp [opened] at other
  rw [isHead_eq, noHead, noTest]
  rfl

theorem spells_functionHead? {line : List Char} {head : FunctionHead} (read : functionHead? line = some head) :
    alphabet.Spells head.name := by
  obtain ⟨rest, _, read⟩ := Option.bind_eq_some_iff.mp read
  obtain ⟨name, called, read⟩ := Option.bind_eq_some_iff.mp read
  obtain ⟨⟨spelled, left⟩, found, called⟩ := Option.bind_eq_some_iff.mp called
  cases read
  dsimp only at called
  split at called
  · cases called
    exact Alphabet.spells_ident? found
  · cases called

end Aiken
end DeclIndex
