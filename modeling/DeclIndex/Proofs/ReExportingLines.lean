import DeclIndex.Library.Alias
import DeclIndex.Proofs.AikenScan
import DeclIndex.Proofs.Readers

/-!
# Lines that re-export a function

The alias pass looks for re-exports on single lines, the scan for constants whose value names a member of a module, on however many
lines it stands. Every line that the first one reads is listed by the second, under the same name and with the same function at the
front of its value, unless the signature of a function takes the line.
-/

namespace DeclIndex
open DeclIndex.Text

namespace Text

/-- A front part that neither begins nor ends with a blank is still there when a text is trimmed. -/
theorem prefix_trim {front text : List Char} (begins : front <+: text) (visible : Visible front)
    (ends : ∀ c ∈ front.getLast?, isBlank c = false) (nonempty : front ≠ []) : front <+: trim text := by
  obtain ⟨more, rfl⟩ := begins
  have visibleAll : Visible (front ++ more) := by
    intro c first
    rw [List.head?_append_of_ne_nil _ nonempty] at first
    exact visible c first
  have stopped : front.reverse.dropWhile isBlank = front.reverse := by
    refine trimLeft_of_visible fun c first => ends c ?_
    rwa [List.head?_reverse] at first
  rw [trim, trimLeft_of_visible visibleAll, trimRight, List.reverse_append, List.dropWhile_append, stopped]
  split
  · rw [List.reverse_reverse]
  · rw [List.reverse_append, List.reverse_reverse]
    exact List.prefix_append _ _

end Text

namespace Aiken

/-- A text stays at the front of what is gathered from the lines below it. -/
theorem prefix_gather (wants : List Char → List Char → Bool) (text : List Char) (below : List (List Char)) :
    text <+: (gather wants text below).text := by
  induction below generalizing text with
  | nil => exact List.prefix_rfl
  | cons line below ih =>
    rw [gather]
    dsimp only
    by_cases blank : (trim line).isEmpty
    · rw [if_pos blank]
      by_cases nothing : (gather wants text below).length = 0
      · rw [if_pos nothing]
        exact ih text
      · rw [if_neg nothing]
        exact ih text
    · rw [if_neg blank]
      by_cases goesOn : (!isHead (trim line) && wants text (trim line)) = true
      · rw [if_pos goesOn]
        exact (List.prefix_append text _).trans (ih _)
      · rw [if_neg goesOn]

theorem isQualified_of_prefix {module text : List Char} (spelled : alphabet.Spells module) (begins : module ++ ['.'] <+: text) :
    isQualified text = true := by
  obtain ⟨rest, rfl⟩ := begins
  have stops : alphabet.Stops ('.' :: rest) := by
    intro c first
    cases first
    decide
  simp [isQualified, Alphabet.ident?_append spelled stops]

/-- What the value of a constant begins with is at the front of the value that is read. -/
theorem exists_valueAfter? {front text : List Char} (begins : front <+: trimLeft text) (nonempty : front ≠ [])
    (visible : Nonblank front) : ∃ value, valueAfter? text = some value ∧ front <+: value := by
  have single : ∀ c ∈ front, (c != '\n') = true := by
    intro c member
    have shown := visible c member
    by_cases feed : c = '\n'
    · rw [feed] at shown
      cases shown
    · simpa using feed
  obtain ⟨more, split⟩ := begins
  refine ⟨trim ((trimLeft text).takeWhile (· != '\n')), ?_, prefix_trim ?_ ?_ ?_ nonempty⟩
  · unfold valueAfter?
    split
    · next empty =>
      rw [empty, List.append_eq_nil_iff] at split
      exact absurd split.1 nonempty
    · rfl
  · rw [← split, List.takeWhile_append_of_pos single]
    exact List.prefix_append _ _
  · exact fun c first => visible c (List.mem_of_head? first)
  · exact fun c last => visible c (List.mem_of_getLast? last)

/-- The line of a re-export is the head of a public constant without a type, whose value begins with what is re-exported. -/
theorem constantHead?_of_reExportLine? {line : List Char} {r : ReExport} (read : reExportLine? line = some r) :
    ∃ value, constantHead? line = some ⟨true, r.exported, [], value⟩ ∧ r.module ++ '.' :: r.function <+: value ∧
      alphabet.Spells r.module := by
  obtain ⟨behindPub, isPublic, read⟩ := Option.bind_eq_some_iff.mp read
  obtain ⟨behindConst, isConstant, read⟩ := Option.bind_eq_some_iff.mp read
  obtain ⟨⟨exported, left⟩, called, read⟩ := Option.bind_eq_some_iff.mp read
  dsimp only at read
  split at read
  · next right valued =>
    obtain ⟨⟨module, behindModule⟩, inModule, read⟩ := Option.bind_eq_some_iff.mp read
    dsimp only at read
    split at read
    · next member =>
      obtain ⟨⟨function, beyond⟩, named, same⟩ := Option.bind_eq_some_iff.mp read
      cases same
      have spelledModule := Alphabet.spells_ident? inModule
      have spelledFunction := Alphabet.spells_ident? named
      have begins : module ++ '.' :: function <+: trimLeft right :=
        ⟨beyond, by rw [← append_of_ident? inModule, ← append_of_ident? named, List.append_assoc, List.cons_append]⟩
      have visible : Nonblank (module ++ '.' :: function) := by
        intro c inside
        rcases List.mem_append.mp inside with before | after
        · exact nonblank_of_spells spelledModule c before
        · rcases List.mem_cons.mp after with rfl | behind
          · rfl
          · exact nonblank_of_spells spelledFunction c behind
      obtain ⟨value, given, first⟩ := exists_valueAfter? begins (by simp) visible
      refine ⟨value, ?_, first, spelledModule⟩
      simp [constantHead?, takeKeyword, isPublic, isConstant, called, valued, given]
    · cases read
  · cases read

/-- The constant whose head is on a line outside of all signatures is found. -/
theorem mem_constants_of_constantHead? {origin : Origin} {text : String} {index : Nat} {line : List Char} {head : ConstantHead}
    (there : (lines text.toList)[index]? = some line) (outside : ¬ InSignature origin text index)
    (read : constantHead? (trim line) = some head) :
    (constantAt origin.reExports origin.source index head line ((lines text.toList).drop (index + 1))).1 ∈
      (scan origin text).constants := by
  have bound : index < (lines text.toList).length := (List.getElem?_eq_some_iff.mp there).1
  have place : ((lines text.toList).take index).reverse.length = index := by
    rw [List.length_reverse, List.length_take]
    omega
  have introduced : head? (trim line) = some (.constant head) := head?_eq_some_iff.mpr read
  generalize met : constantAt origin.reExports origin.source index head line ((lines text.toList).drop (index + 1)) = found
  refine (Outline.mem_declarations (.constant found.1)).mp (@mem_declarations_of_declarationAt? _ _ _ found.2 _ _ there outside ?_)
  rw [declarationAt?, introduced, place]
  dsimp only
  rw [met]

/-- A line outside of all signatures that the alias pass reads as a re-export is, in a package that re-exports, a constant of the
outline: public, a re-export, called as the line says, and with the function it refers to at the front of its value. -/
theorem scan_listsReExport {origin : Origin} {text : String} {index : Nat} {line : List Char} {r : ReExport}
    (aggregates : origin.reExports = true) (there : (lines text.toList)[index]? = some line)
    (read : reExportLine? (trim line) = some r) (outside : ¬ InSignature origin text index) :
    ∃ c ∈ (scan origin text).constants, c.line = index + 1 ∧ c.name = String.ofList r.exported ∧ c.isPublic = true ∧
      c.isReExport = true ∧ r.target.toList <+: c.value.toList := by
  obtain ⟨value, head, begins, spelled⟩ := constantHead?_of_reExportLine? read
  have member := mem_constants_of_constantHead? there outside head
  have front : r.module ++ '.' :: r.function <+:
      (gather (fun text _ => Bracket.hasOpen text) value ((lines text.toList).drop (index + 1))).text :=
    begins.trans (prefix_gather _ value _)
  refine ⟨_, member, rfl, rfl, rfl, ?_, ?_⟩
  · have qualified : r.module ++ ['.'] <+: r.module ++ '.' :: r.function := ⟨r.function, by simp⟩
    simp only [constantAt, aggregates, Bool.true_and]
    exact isQualified_of_prefix spelled (qualified.trans front)
  · rw [ReExport.target, constantAt, String.toList_ofList, String.toList_ofList]
    exact front

/-- A re-export below a type with an open brace, with the arguments of a call on the lines below it. -/
theorem scan_listsReExport_openType :
    let text := "type Pair \x7b\n  left: Int,\n  pub const compare = address.compare_by(\n    0,\n  )\nconst limit = 3"
    reExportLine? (trim "  pub const compare = address.compare_by(".toList) =
        some ⟨"address".toList, "compare_by".toList, "compare".toList⟩ ∧ ¬ InSignature ⟨"vodka", true⟩ text 2 ∧
      ∃ c ∈ (scan ⟨"vodka", true⟩ text).constants, c.line = 3 ∧ c.name = "compare" ∧ c.isPublic = true ∧ c.isReExport = true ∧
        "address.compare_by".toList <+: c.value.toList := by
  intro text
  have read : reExportLine? (trim "  pub const compare = address.compare_by(".toList) =
      some ⟨"address".toList, "compare_by".toList, "compare".toList⟩ := by decide +kernel
  have outside : ¬ InSignature ⟨"vodka", true⟩ text 2 := by decide +kernel
  exact ⟨read, outside, scan_listsReExport rfl (by decide +kernel) read outside⟩

end Aiken

end DeclIndex
