import DeclIndex.Proofs.CommentedExports
import DeclIndex.Proofs.FunctionLines

/-!
# Lines that a scan lists

A scan of a TypeScript file lists what the pattern of a line describes, on each line outside of comments that is not read along with a
type. Only what begins with the letters of `import` is taken for an import, whatever follows them, and a method that is called so is
lost.
-/

namespace DeclIndex.TypeScript
open DeclIndex.Text

/-! ## From lines to declarations and back -/

section Lines

variable {source text : String} {index length : Nat} {line : List Char} {declaration : Declaration}

/-- What a line introduces is found if the line is neither in a comment nor read along. -/
theorem mem_declarations_of_declarationAt? (there : (lines text.toList)[index]? = some line)
    (free : isTaken (sightings source text.toList) index = false) (outside : isCommented source text index = false)
    (found : declarationAt? source ((exports source text.toList).map (·.name)) ((lines text.toList).take index).reverse line
      ((lines text.toList).drop (index + 1)) = some (declaration, length)) :
    declaration ∈ (scan source text).declarations ∧ declaration.line = index + 1 := by
  have bound := (List.getElem?_eq_some_iff.mp there).1
  obtain ⟨before, reached⟩ := exists_reachedAt (Nat.le_of_lt bound) free
  rw [← sightings] at reached
  have looked : ¬ (isOpenAt (sightings source text.toList) (lines text.toList) index || startsWith (trim line) "/*") := by
    rw [isCommented, free, opensComment, there, Option.any_some] at outside
    simpa using outside
  have place := ReachedAt.length_above there
  constructor
  · refine mem_ofSightings.mpr ⟨⟨index, index + length, declaration⟩, ?_, rfl⟩
    rw [sightings, reached.split, ReachedAt.drop_eq there, sightingsFrom_some looked found, place]
    exact List.mem_append_right _ List.mem_cons_self
  · rw [(declarationAt?_introduces found).line_eq, place]

/-- What is found on a line was introduced by it. -/
theorem declarationAt?_of_mem (there : (lines text.toList)[index]? = some line)
    (member : declaration ∈ (scan source text).declarations) (here : declaration.line = index + 1) :
    ∃ length, declarationAt? source ((exports source text.toList).map (·.name)) ((lines text.toList).take index).reverse line
      ((lines text.toList).drop (index + 1)) = some (declaration, length) := by
  obtain ⟨s, seen, rfl⟩ := mem_ofSightings.mp member
  obtain ⟨front, other, below, length, split, found, _, _⟩ := mem_sightingsFrom seen
  rw [List.append_nil] at found
  have numbered := (declarationAt?_introduces found).line_eq
  obtain rfl : front.length = index := by
    rw [List.length_reverse] at numbered
    omega
  obtain rfl : other = line := by simpa [split] using there
  refine ⟨length, ?_⟩
  simpa [split] using found

end Lines

/-! ## Lines that begin with the letters of `import` -/

section Import

variable {line : List Char}

theorem typeLine_of_import (begins : startsWith line "import") (name : List Char) : line ∉ TypeLine name := by
  intro member
  obtain ⟨rest, rfl⟩ := List.isPrefixOf_iff_prefix.mp begins
  obtain ⟨head, read⟩ := exists_typeHead? member
  cases read

theorem constantLine_of_import (begins : startsWith line "import") (name : List Char) : line ∉ ConstantLine name := by
  intro member
  obtain ⟨rest, rfl⟩ := List.isPrefixOf_iff_prefix.mp begins
  obtain ⟨head, read, _⟩ := constantHead?_name_iff.mpr member
  cases read

/-- The letters of `import` are no modifier. -/
theorem stripped_of_import (begins : startsWith line "import") : stripped modifiers line = [line] := by
  obtain ⟨rest, rfl⟩ := List.isPrefixOf_iff_prefix.mp begins
  rfl

theorem functionLine_of_import (begins : startsWith line "import") (name : List Char) : line ∉ FunctionLine name := by
  rw [mem_functionLine_iff, stripped_of_import begins]
  rintro ⟨_, kept, declared⟩
  rw [List.mem_singleton.mp kept] at declared
  have letters : Opens (Declared name) (· ≠ 'i') := opens_declared (by decide) (by decide) (by decide)
  obtain ⟨rest, rfl⟩ := List.isPrefixOf_iff_prefix.mp begins
  exact letters _ declared 'i' rfl rfl

theorem startsWith_of_methodLine {name : List Char} (begins : startsWith line "import") (method : line ∈ MethodLine name) :
    startsWith name "import" := by
  rw [mem_methodLine_iff, stripped_of_import begins] at method
  obtain ⟨_, kept, method⟩ := method
  rw [List.mem_singleton.mp kept, ← methodName?_eq_some_iff, methodName?_eq] at method
  obtain ⟨called, named, method⟩ := Option.bind_eq_some_iff.mp method
  obtain ⟨after, _, method⟩ := Option.bind_eq_some_iff.mp method
  obtain ⟨_, same⟩ := Option.ite_none_right_eq_some.mp method
  obtain ⟨rest, rfl⟩ := List.isPrefixOf_iff_prefix.mp begins
  cases named
  cases same
  rfl

end Import

/-! ## All lines -/

/-- An outline lists a line as what its pattern says: a type, or else a function whose name is no keyword, or else a constant. -/
structure Lists (outline : Outline) (index : Nat) (line : List Char) : Prop where
  type : ∀ name, line ∈ TypeLine name → ∃ t ∈ outline.types, t.line = index + 1 ∧ line ∈ TypeLine t.baseName.toList
  function : (∀ other, line ∉ TypeLine other) → ∀ name, Calls line name → String.ofList name ∉ notFunctions →
    ∃ f ∈ outline.functions, f.line = index + 1 ∧ f.name = String.ofList name
  constant : (∀ other, line ∉ TypeLine other) → (∀ name, Calls line name → String.ofList name ∈ notFunctions) →
    ∀ name, line ∈ ConstantLine name → ∃ c ∈ outline.constants, c.line = index + 1 ∧ c.name = String.ofList name

theorem typeHead?_eq_none {line : List Char} (noType : ∀ name, line ∉ TypeLine name) : typeHead? line = none :=
  Option.eq_none_iff_forall_ne_some.mpr fun head read => noType head.name (mem_typeLine read)

theorem namedFunction?_eq_some_iff {line name : List Char} :
    namedFunction? line = some name ↔ Calls line name ∧ String.ofList name ∉ notFunctions := by
  rw [namedFunction?, Option.filter_eq_some_iff, functionHead?_eq_some_iff]
  simp

section Lists

variable {source text : String} {index : Nat} {line : List Char}

theorem lists_of_not_import (there : (lines text.toList)[index]? = some line)
    (free : isTaken (sightings source text.toList) index = false) (outside : isCommented source text index = false)
    (other : ¬ startsWith (trim line) "import") : Lists (scan source text) index (trim line) := by
  have single : '\n' ∉ trim line := fun feed => lineFeed_notMem_of_mem_lines (List.mem_of_getElem? there) (mem_of_mem_trim feed)
  constructor
  case type =>
    intro name member
    obtain ⟨head, read⟩ := exists_typeHead? member
    obtain ⟨declared, here⟩ := mem_declarations_of_declarationAt? there free outside (by
      rw [declarationAt?, if_neg other, read])
    refine ⟨_, (Outline.mem_declarations (.type _)).mp declared, here, ?_⟩
    rw [TypeDef.baseName, typeAt, String.toList_ofList, String.toList_ofList, withoutGenerics_typeHead? single read]
    exact mem_typeLine read
  case function =>
    intro noType name calls noKeyword
    have read := namedFunction?_eq_some_iff.mpr ⟨calls, noKeyword⟩
    obtain ⟨declared, here⟩ := mem_declarations_of_declarationAt? there free outside (by
      rw [declarationAt?, if_neg other, typeHead?_eq_none noType, read])
    exact ⟨_, (Outline.mem_declarations (.function _)).mp declared, here, rfl⟩
  case constant =>
    intro noType noFunction name member
    obtain ⟨head, read, rfl⟩ := constantHead?_name_iff.mpr member
    have noName : namedFunction? (trim line) = none := by
      refine Option.eq_none_iff_forall_ne_some.mpr fun name called => ?_
      obtain ⟨calls, noKeyword⟩ := namedFunction?_eq_some_iff.mp called
      exact noKeyword (noFunction name calls)
    obtain ⟨declared, here⟩ := mem_declarations_of_declarationAt? there free outside (by
      rw [declarationAt?, if_neg other, typeHead?_eq_none noType, noName, constantAt?, read, Option.map_some, Option.map_some])
    exact ⟨_, (Outline.mem_declarations (.constant _)).mp declared, here, rfl⟩

/-- A scan lists what the pattern of a line describes, on each line that is neither in a comment nor read along with a type, exactly
if the line is no method that begins with the letters of `import`. -/
theorem lists_iff_not_importMethod (there : (lines text.toList)[index]? = some line)
    (free : isTaken (sightings source text.toList) index = false) (outside : isCommented source text index = false) :
    Lists (scan source text) index (trim line) ↔ ¬ (startsWith (trim line) "import" ∧ ∃ name, trim line ∈ MethodLine name) := by
  constructor
  · rintro lists ⟨begins, name, method⟩
    have noKeyword : String.ofList name ∉ notFunctions := by
      intro keyword
      have others : ∀ word ∈ notFunctions, startsWith word.toList "import" = false := by decide
      have named := startsWith_of_methodLine begins method
      rw [← String.toList_ofList (l := name), others _ keyword] at named
      cases named
    obtain ⟨f, listed, here, _⟩ :=
      lists.function (typeLine_of_import begins) name (Or.inr ⟨method, functionLine_of_import begins⟩) noKeyword
    -- such a line is an import or nothing
    obtain ⟨length, found⟩ := declarationAt?_of_mem there ((Outline.mem_declarations (.function f)).mpr listed) here
    rw [declarationAt?, if_pos begins] at found
    obtain ⟨_, _, same⟩ := Option.map_eq_some_iff.mp found
    cases same
  · intro noMethod
    by_cases begins : startsWith (trim line) "import"
    · constructor
      case type => exact fun name member => absurd member (typeLine_of_import begins name)
      case function =>
        rintro _ name (function | ⟨method, _⟩) _
        · exact absurd function (functionLine_of_import begins name)
        · exact absurd ⟨begins, name, method⟩ noMethod
      case constant => exact fun _ _ name member => absurd member (constantLine_of_import begins name)
    · exact lists_of_not_import there free outside begins

end Lists

/-- A class with a method that begins with the letters of `import`. -/
def importingStore : String :=
  "class Store \x7b\n  importAll(rows: Row[]): void \x7b\n    this.rows = rows;\n  \x7d\n\x7d"

/-- The method is not listed, though its line is in no comment and not read along. -/
theorem importAll_not_listed :
    (lines importingStore.toList)[1]? = some "  importAll(rows: Row[]): void \x7b".toList ∧
      isTaken (sightings "ts" importingStore.toList) 1 = false ∧ isCommented "ts" importingStore 1 = false ∧
      ¬ Lists (scan "ts" importingStore) 1 "importAll(rows: Row[]): void \x7b".toList := by
  refine ⟨by decide +kernel, by decide +kernel, by decide +kernel, fun lists => ?_⟩
  have calls : Calls "importAll(rows: Row[]): void \x7b".toList "importAll".toList :=
    functionHead?_eq_some_iff.mp (by decide +kernel)
  obtain ⟨f, listed, _⟩ := lists.function (typeLine_of_import (by decide +kernel)) _ calls (by decide +kernel)
  have nothing : (scan "ts" importingStore).functions = [] := by decide +kernel
  rw [nothing] at listed
  cases listed

/-- A type in a comment, a type that takes lines along, and a generic function below them. -/
def rowLoader : String :=
  "/* type Old = \x7b */\ntype Row = \x7b\n  load(): void \x7b\x7d\n\x7d;\nexport function load<T>(rows: T[]): void \x7b\n\x7d"

theorem lists_iff_not_importMethod_load :
    (lines rowLoader.toList)[4]? = some "export function load<T>(rows: T[]): void \x7b".toList ∧
      isTaken (sightings "ts" rowLoader.toList) 4 = false ∧ isCommented "ts" rowLoader 4 = false ∧
      Lists (scan "ts" rowLoader) 4 (trim "export function load<T>(rows: T[]): void \x7b".toList) := by
  have there : (lines rowLoader.toList)[4]? = some "export function load<T>(rows: T[]): void \x7b".toList := by decide +kernel
  have free : isTaken (sightings "ts" rowLoader.toList) 4 = false := by decide +kernel
  have outside : isCommented "ts" rowLoader 4 = false := by decide +kernel
  refine ⟨there, free, outside, (lists_iff_not_importMethod there free outside).mpr ?_⟩
  rintro ⟨begins, _⟩
  exact absurd begins (by decide +kernel)

end DeclIndex.TypeScript
