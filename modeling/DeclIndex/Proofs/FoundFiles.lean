import DeclIndex.Proofs.Loading
import DeclIndex.Proofs.ReorderedTrees
import DeclIndex.Proofs.Substrings
import Mathlib.Data.List.Sort

/-!
# What a search finds

A search of a folder finds the source files in it and in the folders below that are entered: all of them, nothing else, each once, in
the order of their paths. The order in which folders list their entries does not matter.
-/

namespace DeclIndex
namespace Discovery
open DeclIndex.Text

/-! ## Names -/

/-- A folder is entered unless its name begins with a dot or is one of a few. -/
def Entered (name : String) : Prop :=
  ¬ ".".toList <+: name.toList ∧ name ∉ skippedFolders

instance (name : String) : Decidable (Entered name) :=
  inferInstanceAs (Decidable (_ ∧ _))

/-- A name is that of a source file. -/
structure Named (language : SourceLanguage) (includeTests : Bool) (name : String) : Prop where
  suffix : ∃ suffix ∈ suffixes language, suffix.toList <:+ name.toList
  noDeclarations : ¬ ".d.ts".toList <:+ name.toList
  noTest : includeTests = false → ¬ ".test.".toList <:+: name.toList

theorem isSkipped_eq_false_iff {name : String} : isSkipped name = false ↔ Entered name := by
  simp [isSkipped, Entered, startsWith, ← List.isPrefixOf_iff_prefix]

theorem isWanted_iff {language : SourceLanguage} {includeTests : Bool} {name : String} :
    isWanted language includeTests name = true ↔ Named language includeTests name := by
  have ends (back : String) : endsWith name.toList back = true ↔ back.toList <:+ name.toList := List.isSuffixOf_iff_suffix
  have tests : (includeTests || !occurs ".test.".toList name.toList) = true ↔
      (includeTests = false → ¬ ".test.".toList <:+: name.toList) := by
    rw [← occurs_iff]
    cases includeTests <;> simp
  rw [isWanted, Bool.and_eq_true, Bool.and_eq_true, List.any_eq_true, Bool.not_eq_true', ← Bool.not_eq_true, tests]
  simp only [ends]
  exact ⟨fun ⟨⟨suffix, noDeclarations⟩, noTest⟩ => ⟨suffix, noDeclarations, noTest⟩,
    fun named => ⟨⟨named.suffix, named.noDeclarations⟩, named.noTest⟩⟩

/-! ## Files -/

/-- A file is a source file of a folder. -/
structure IsSource (tree : Node) (folder : List String) (language : SourceLanguage) (includeTests : Bool) (file : SourceFile) : Prop where
  named : ∃ name, file.path.getLast? = some name ∧ Named language includeTests name
  /-- The folders that lead to it are entered. -/
  entered : ∀ name ∈ file.path.dropLast, Entered name
  /-- It is an entry of a folder that is reached without links, and no folder itself. -/
  entry : ∃ node, tree.get? (folder ++ file.path) = some node ∧ isFolderNode node = false
  /-- Its path leads to a file, through further links if the entry is one. -/
  content : ∃ bytes, tree.find (folder ++ file.path) = .ok (.file bytes) ∧ file.size = bytes.size
  small : file.size ≤ 1048576

section Files

variable {tree : Node} {folder : List String} {language : SourceLanguage} {includeTests : Bool} {file : SourceFile}

theorem mem_filesAt_iff {paths : List (List String)} : file ∈ filesAt tree folder paths ↔
    file.path ∈ paths ∧ ∃ bytes, tree.find (folder ++ file.path) = .ok (.file bytes) ∧ file.size = bytes.size := by
  simp only [filesAt, List.mem_filterMap, ← Node.read_ok_iff]
  constructor
  · rintro ⟨path, member, found⟩
    cases read : tree.read (folder ++ path) with
    | error error => simp [read] at found
    | ok bytes =>
      rw [read] at found
      cases found
      exact ⟨member, bytes, read, rfl⟩
  · rintro ⟨member, bytes, read, size⟩
    exact ⟨file.path, member, by simp [read, ← size]⟩

theorem wanted_leaf_iff {node : Node} {path : List String} :
    IsLeaf node path ∧ isWanted language includeTests (path.getLast?.getD "") = true ↔
      (∃ name, path.getLast? = some name ∧ Named language includeTests name) ∧ (∀ name ∈ path.dropLast, Entered name) ∧
        ∃ child, node.get? path = some child ∧ isFolderNode child = false := by
  simp only [IsLeaf, isSkipped_eq_false_iff, isWanted_iff]
  constructor
  · rintro ⟨⟨nonempty, entered, entry⟩, named⟩
    rw [List.getLast?_eq_some_getLast nonempty] at named
    exact ⟨⟨_, List.getLast?_eq_some_getLast nonempty, named⟩, entered, entry⟩
  · rintro ⟨⟨name, last, named⟩, entered, entry⟩
    have nonempty : path ≠ [] := by
      rintro rfl
      cases last
    exact ⟨⟨nonempty, entered, entry⟩, by rwa [last]⟩

/-- The source files of a folder are found, and nothing else. -/
theorem mem_files_iff (formed : tree.WellFormed) :
    file ∈ (files tree folder language includeTests).1 ↔ IsSource tree folder language includeTests file := by
  rw [perm_files.mem_iff, List.mem_filter, candidates]
  cases found : tree.get? folder with
  | none =>
    refine ⟨fun ⟨member, _⟩ => (List.not_mem_nil member).elim, fun source => ?_⟩
    obtain ⟨node, there, _⟩ := source.entry
    rw [Node.get?_append, found] at there
    cases there
  | some node =>
    have leaf : file.path ∈ leaves [] node ↔ IsLeaf node file.path := by
      rw [mem_leaves_iff (formed.of_get? found).1]
      simp
    have below : tree.get? (folder ++ file.path) = node.get? file.path := by
      rw [Node.get?_append, found]
      rfl
    rw [mem_filesAt_iff, List.mem_filter, leaf, wanted_leaf_iff, ← below, Bool.not_eq_true', decide_eq_false_iff_not, Nat.not_lt]
    exact ⟨fun ⟨⟨⟨named, entered, entry⟩, content⟩, small⟩ => ⟨named, entered, entry, content, small⟩,
      fun source => ⟨⟨⟨source.named, source.entered, source.entry⟩, source.content⟩, source.small⟩⟩

/-- Files are found in the order of their paths, each once. -/
theorem pairwise_lt_files (formed : tree.WellFormed) :
    (files tree folder language includeTests).1.Pairwise fun a b => a.path < b.path := by
  have distinct := List.pairwise_map.mp (@nodup_files tree folder language includeTests formed)
  refine ((pairwise_files tree folder language includeTests).and distinct).imp fun {a b} ⟨before, differ⟩ => ?_
  exact ((Path.isBefore_iff a.path b.path).mp before).resolve_left differ

end Files

/-! ## Order of entries -/

section Reordered

variable {tree other : Node}

theorem isFolderNode_alike {node : Node} (alike : Node.Alike node other) : isFolderNode other = isFolderNode node := by
  cases node <;> cases other <;> cases alike <;> rfl

theorem entry_reordered (order : tree.Reordered other) (formed : tree.WellFormed) (path : List String) :
    (∃ node, other.get? path = some node ∧ isFolderNode node = false) ↔
      ∃ node, tree.get? path = some node ∧ isFolderNode node = false := by
  have same := order.samePlaces formed
  cases found : tree.get? path with
  | none => simp [same.missing found]
  | some node =>
    obtain ⟨nodeToo, there, alike⟩ := same.found found
    simp [there, isFolderNode_alike alike]

theorem isSource_reordered {folder : List String} {language : SourceLanguage} {includeTests : Bool} {file : SourceFile}
    (order : tree.Reordered other) (formed : tree.WellFormed) :
    IsSource other folder language includeTests file ↔ IsSource tree folder language includeTests file := by
  have entry := entry_reordered order formed (folder ++ file.path)
  have content (bytes : ByteArray) : other.find (folder ++ file.path) = .ok (.file bytes) ↔
      tree.find (folder ++ file.path) = .ok (.file bytes) := by
    rw [← Node.read_ok_iff, ← Node.read_ok_iff, order.read formed]
  constructor
  · rintro ⟨named, entered, there, found, small⟩
    exact ⟨named, entered, entry.mp there, by simpa only [content] using found, small⟩
  · rintro ⟨named, entered, there, found, small⟩
    exact ⟨named, entered, entry.mpr there, by simpa only [content] using found, small⟩

theorem files_reordered (order : tree.Reordered other) (formed : tree.WellFormed) (folder : List String) (language : SourceLanguage)
    (includeTests : Bool) : (files other folder language includeTests).1 = (files tree folder language includeTests).1 := by
  have formedToo := order.wellFormed formed
  have irreflexive : Std.Irrefl fun a b : SourceFile => a.path < b.path := ⟨fun a => lt_irrefl a.path⟩
  have antisymmetric : Std.Antisymm fun a b : SourceFile => a.path < b.path := ⟨fun a b less greater => (lt_asymm less greater).elim⟩
  -- both are sorted and have the same members
  refine (pairwise_lt_files formedToo).eq_of_mem_iff (pairwise_lt_files formed) fun file => ?_
  rw [mem_files_iff formedToo, mem_files_iff formed, isSource_reordered order formed]

theorem folderAt_reordered (order : tree.Reordered other) (formed : tree.WellFormed) (path : Path) :
    folderAt other path = folderAt tree path := by
  unfold folderAt
  rw [order.resolve formed]
  cases tree.resolve path.parts with
  | error error => rfl
  | ok folder =>
    simp only [Except.mapError, bind, Except.bind]
    rcases order.find formed folder with ⟨error, found, foundToo⟩ | ⟨node, nodeToo, found, foundToo, alike⟩
    · rw [found, foundToo]
    · rw [found, foundToo]
      cases node <;> cases nodeToo <;> cases alike <;> rfl

end Reordered

/-! ## The search -/

/-- A source file, a test file, and a file that was built. -/
def builtLibrary : Node :=
  .folder [("lib", .folder [("y.ts", .file .empty), ("x.test.ts", .file .empty)]), ("build", .folder [("z.ts", .file .empty)])]

/-- The same files, listed in another order. -/
def relistedLibrary : Node :=
  .folder [("build", .folder [("z.ts", .file .empty)]), ("lib", .folder [("x.test.ts", .file .empty), ("y.ts", .file .empty)])]

end Discovery
end DeclIndex
