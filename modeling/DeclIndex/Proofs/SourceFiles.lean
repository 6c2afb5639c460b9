import DeclIndex.Proofs.FileTree
import Mathlib.Data.List.Lex
import Mathlib.Data.String.Basic

/-!
# The paths of source files

In a tree whose folders have no two entries of one name, discovery meets every path once. So the source files of a package have
distinct paths, and what leads to them are names without slashes.
-/

namespace DeclIndex

/-! ## Well-formed trees -/

namespace Node

mutual

/-- No folder has two entries of one name, and no name has a slash. -/
def WellFormed : Node → Prop
  | .folder entries => (entries.map (·.1)).Nodup ∧ WellFormedIn entries
  | _ => True

/-- Entries have names without slashes, and what they hold is well-formed. -/
def WellFormedIn : List (String × Node) → Prop
  | [] => True
  | (name, node) :: rest => '/' ∉ name.toList ∧ node.WellFormed ∧ WellFormedIn rest

end

theorem wellFormedIn_iff {entries : List (String × Node)} :
    WellFormedIn entries ↔ ∀ entry ∈ entries, '/' ∉ entry.1.toList ∧ entry.2.WellFormed := by
  induction entries with
  | nil => simp [WellFormedIn]
  | cons entry rest ih => simp [WellFormedIn, ih, and_assoc]

theorem WellFormedIn.of_mem {entries : List (String × Node)} {name : String} {child : Node} (formed : WellFormedIn entries)
    (member : (name, child) ∈ entries) : '/' ∉ name.toList ∧ child.WellFormed :=
  wellFormedIn_iff.mp formed _ member

/-- Whatever a well-formed tree has under some names is well-formed, and the names have no slashes. -/
theorem WellFormed.of_get? {node child : Node} {path : List String} (formed : node.WellFormed)
    (found : node.get? path = some child) : child.WellFormed ∧ ∀ name ∈ path, '/' ∉ name.toList := by
  induction path generalizing node with
  | nil =>
    cases found
    exact ⟨formed, by simp⟩
  | cons name rest ih =>
    cases node with
    | file bytes => cases found
    | link target => cases found
    | folder entries =>
      rw [get?] at found
      cases entry : valueAt? name entries with
      | none => rw [entry] at found; cases found
      | some next =>
        rw [entry] at found
        obtain ⟨plain, whole⟩ := formed.2.of_mem (mem_of_valueAt? entry)
        obtain ⟨wholeToo, plainToo⟩ := ih whole found
        exact ⟨wholeToo, List.forall_mem_cons.mpr ⟨plain, plainToo⟩⟩

end Node

/-! ## The order of files -/

/-- Paths are ordered name by name. -/
theorem Path.isBefore_iff (a b : List String) : isBefore a b = true ↔ a = b ∨ a < b := by
  induction a generalizing b with
  | nil => cases b <;> simp [isBefore]
  | cons x xs ih =>
    cases b with
    | nil => simp [isBefore]
    | cons y ys =>
      rw [isBefore, List.cons_lt_cons_iff, List.cons.injEq]
      by_cases same : x = y
      · simp [same, ih]
      · simp [same]

theorem Path.isBefore_trans {a b c : List String} (first : isBefore a b = true) (second : isBefore b c = true) :
    isBefore a c = true := by
  rw [isBefore_iff] at first second ⊢
  rcases first with rfl | less
  · exact second
  · rcases second with rfl | lessToo
    · exact .inr less
    · exact .inr (less.trans lessToo)

theorem Path.isBefore_total (a b : List String) : isBefore a b = true ∨ isBefore b a = true := by
  rw [isBefore_iff, isBefore_iff]
  rcases lt_trichotomy a b with less | same | greater
  · exact .inl (.inr less)
  · exact .inl (.inl same)
  · exact .inr (.inr greater)

/-- A file has a name, and no name on the way to it has a slash. -/
def SourceFile.Reachable (file : SourceFile) : Prop :=
  file.path ≠ [] ∧ ∀ name ∈ file.path, '/' ∉ name.toList

namespace Discovery

/-! ## Leaves -/

/-- A path leads to an entry that is no folder, through folders that are entered. -/
def IsLeaf (node : Node) (path : List String) : Prop :=
  path ≠ [] ∧ (∀ name ∈ path.dropLast, isSkipped name = false) ∧ ∃ child, node.get? path = some child ∧ isFolderNode child = false

theorem isLeaf_cons {entries : List (String × Node)} {name : String} {rest : List String} :
    IsLeaf (.folder entries) (name :: rest) ↔ ∃ child, valueAt? name entries = some child ∧
      (rest = [] ∧ isFolderNode child = false ∨ isSkipped name = false ∧ IsLeaf child rest) := by
  unfold IsLeaf
  rw [Node.get?]
  cases valueAt? name entries with
  | none => simp
  | some child =>
    cases rest with
    | nil => simp [Node.get?]
    | cons next more => simp [and_assoc]

theorem not_isLeaf (node : Node) (noFolder : isFolderNode node = false) (path : List String) : ¬ IsLeaf node path := by
  rintro ⟨named, _, child, found, _⟩
  obtain ⟨name, rest, rfl⟩ := List.exists_cons_of_ne_nil named
  cases node with
  | folder entries => cases noFolder
  | file bytes => cases found
  | link target => cases found

mutual

/-- Every leaf is met, and nothing else. -/
theorem mem_leaves_iff {above path : List String} :
    ∀ {node : Node}, node.WellFormed → (path ∈ leaves above node ↔ ∃ rest, path = above.reverse ++ rest ∧ IsLeaf node rest)
  | .file bytes, _ => by simp [leaves, not_isLeaf (.file bytes) rfl]
  | .link target, _ => by simp [leaves, not_isLeaf (.link target) rfl]
  | .folder entries, formed => by
    rw [leaves, List.mem_append, mem_leavesBelow_iff formed.2]
    constructor
    · rintro (direct | ⟨name, child, rest, entry, entered, rfl, leaf⟩)
      · obtain ⟨⟨name, child⟩, kept, rfl⟩ := List.mem_map.mp direct
        obtain ⟨entry, noFolder⟩ := List.mem_filter.mp kept
        refine ⟨[name], by simp, isLeaf_cons.mpr ⟨child, valueAt?_of_mem formed.1 entry, .inl ⟨rfl, by simpa using noFolder⟩⟩⟩
      · exact ⟨name :: rest, rfl, isLeaf_cons.mpr ⟨child, valueAt?_of_mem formed.1 entry, .inr ⟨entered, leaf⟩⟩⟩
    · rintro ⟨rest, rfl, leaf⟩
      obtain ⟨name, rest, rfl⟩ := List.exists_cons_of_ne_nil leaf.1
      obtain ⟨child, found, ⟨rfl, noFolder⟩ | ⟨entered, deeper⟩⟩ := isLeaf_cons.mp leaf
      · refine .inl (List.mem_map.mpr ⟨(name, child), List.mem_filter.mpr ⟨mem_of_valueAt? found, by simpa using noFolder⟩, by simp⟩)
      · exact .inr ⟨name, child, rest, mem_of_valueAt? found, entered, rfl, deeper⟩

theorem mem_leavesBelow_iff {above path : List String} :
    ∀ {entries : List (String × Node)}, Node.WellFormedIn entries → (path ∈ leavesBelow above entries ↔
      ∃ name child rest, (name, child) ∈ entries ∧ isSkipped name = false ∧ path = above.reverse ++ name :: rest ∧ IsLeaf child rest)
  | [], _ => by simp [leavesBelow]
  | (name, node) :: others, ⟨_, formed, formedToo⟩ => by
    rw [leavesBelow, List.mem_append, mem_leavesBelow_iff formedToo]
    have here : path ∈ (if isSkipped name then [] else leaves (name :: above) node) ↔
        isSkipped name = false ∧ ∃ rest, path = above.reverse ++ name :: rest ∧ IsLeaf node rest := by
      split
      · next skipped => simp [skipped]
      · next entered => simp [mem_leaves_iff formed, entered]
    rw [here]
    constructor
    · rintro (⟨entered, rest, same, leaf⟩ | ⟨other, child, rest, entry, found⟩)
      · exact ⟨name, node, rest, List.mem_cons_self, entered, same, leaf⟩
      · exact ⟨other, child, rest, List.mem_cons_of_mem _ entry, found⟩
    · rintro ⟨other, child, rest, entry, entered, same, leaf⟩
      rcases List.mem_cons.mp entry with first | later
      · cases first
        exact .inl ⟨entered, rest, same, leaf⟩
      · exact .inr ⟨other, child, rest, later, entered, same, leaf⟩

end

mutual

/-- No path is met twice. -/
theorem nodup_leaves (above : List String) : ∀ {node : Node}, node.WellFormed → (leaves above node).Nodup
  | .file _, _ => by simp [leaves]
  | .link _, _ => by simp [leaves]
  | .folder entries, formed => by
    rw [leaves, List.nodup_append]
    refine ⟨?_, nodup_leavesBelow above formed.1 formed.2, ?_⟩
    · have names : ((entries.filter (!isFolderNode ·.2)).map (·.1)).Nodup :=
        formed.1.sublist (List.filter_sublist.map _)
      refine List.pairwise_map.mpr ((List.pairwise_map.mp names).imp fun {a b} differ same => differ ?_)
      simpa using same
    · rintro path direct other below rfl
      obtain ⟨entry, _, rfl⟩ := List.mem_map.mp direct
      obtain ⟨name, _, rest, _, _, same, leaf⟩ := (mem_leavesBelow_iff formed.2).mp below
      -- what is below has one more name at least
      simp [leaf.1] at same

theorem nodup_leavesBelow (above : List String) :
    ∀ {entries : List (String × Node)}, (entries.map (·.1)).Nodup → Node.WellFormedIn entries →
      (leavesBelow above entries).Nodup
  | [], _, _ => by simp [leavesBelow]
  | (name, node) :: others, distinct, ⟨_, formed, formedToo⟩ => by
    rw [List.map_cons, List.nodup_cons] at distinct
    rw [leavesBelow, List.nodup_append]
    refine ⟨?_, nodup_leavesBelow above distinct.2 formedToo, ?_⟩
    · split
      · exact List.nodup_nil
      · exact nodup_leaves (name :: above) formed
    · rintro path first other later rfl
      split at first
      · cases first
      · obtain ⟨rest, rfl, _⟩ := (mem_leaves_iff formed).mp first
        obtain ⟨other, child, _, entry, _, same, _⟩ := (mem_leavesBelow_iff formedToo).mp later
        have same : name = other := by simp at same; exact same.1
        exact distinct.1 (List.mem_map.mpr ⟨_, entry, same.symm⟩)

end

/-! ## Files -/

section Files

variable {tree : Node} {folder : List String} {language : SourceLanguage} {includeTests : Bool}

theorem paths_filesAt (tree : Node) (folder : List String) (paths : List (List String)) :
    ((filesAt tree folder paths).map SourceFile.path).Sublist paths := by
  induction paths with
  | nil => simp [filesAt]
  | cons path rest ih =>
    rw [filesAt, List.filterMap_cons]
    cases tree.read (folder ++ path) with
    | ok bytes => exact ih.cons_cons path
    | error error => exact ih.cons path

/-- The files that are found are candidates that are not too large. -/
theorem perm_files : (files tree folder language includeTests).1.Perm
    ((candidates tree folder language includeTests).filter fun file => !decide (sizeLimit < file.size)) := by
  simp only [files, List.partition_eq_filter_filter]
  exact List.mergeSort_perm _ _

theorem mem_leaves_of_mem_files {file : SourceFile} (member : file ∈ (files tree folder language includeTests).1) :
    ∃ node, tree.get? folder = some node ∧ file.path ∈ leaves [] node ∧
      isWanted language includeTests (file.path.getLast?.getD "") = true := by
  have candidate : file ∈ candidates tree folder language includeTests :=
    (List.mem_filter.mp (perm_files.mem_iff.mp member)).1
  unfold candidates at candidate
  cases found : tree.get? folder with
  | none => simp [found] at candidate
  | some node =>
    rw [found] at candidate
    have path := (paths_filesAt _ _ _).subset (List.mem_map_of_mem candidate)
    exact ⟨node, rfl, List.mem_filter.mp path⟩

theorem nodup_candidates (formed : tree.WellFormed) :
    ((candidates tree folder language includeTests).map SourceFile.path).Nodup := by
  unfold candidates
  cases found : tree.get? folder with
  | none => simp
  | some node =>
    exact ((nodup_leaves [] (formed.of_get? found).1).filter _).sublist (paths_filesAt _ _ _)

/-- No file is found twice. -/
theorem nodup_files (formed : tree.WellFormed) :
    ((files tree folder language includeTests).1.map SourceFile.path).Nodup := by
  rw [(perm_files.map SourceFile.path).nodup_iff]
  exact (nodup_candidates formed).sublist (List.filter_sublist.map _)

/-- Files are found in the order of their paths. -/
theorem pairwise_files (tree : Node) (folder : List String) (language : SourceLanguage) (includeTests : Bool) :
    (files tree folder language includeTests).1.Pairwise fun a b => Path.isBefore a.path b.path = true := by
  refine List.pairwise_mergeSort ?_ ?_ _
  · intro a b c first second
    exact Path.isBefore_trans first second
  · intro a b
    rw [Bool.or_eq_true]
    exact Path.isBefore_total a.path b.path

theorem reachable_of_mem_files {file : SourceFile} (formed : tree.WellFormed)
    (member : file ∈ (files tree folder language includeTests).1) : file.Reachable := by
  obtain ⟨node, found, leaf, _⟩ := mem_leaves_of_mem_files member
  obtain ⟨whole, _⟩ := formed.of_get? found
  obtain ⟨rest, same, named, _, child, there, _⟩ := (mem_leaves_iff whole).mp leaf
  rw [List.reverse_nil, List.nil_append] at same
  unfold SourceFile.Reachable
  rw [same]
  exact ⟨named, (whole.of_get? there).2⟩

end Files

theorem folderAt_names {tree : Node} {path : Path} {entries : List (String × Node)}
    (names : tree.NamesOf (.folder entries) path.parts) : folderAt tree path = .ok path.parts := by
  simp [folderAt, names.resolve, names.find, Except.mapError, bind, Except.bind]

end Discovery

end DeclIndex
