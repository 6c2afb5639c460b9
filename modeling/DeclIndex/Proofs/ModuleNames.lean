import DeclIndex.Proofs.Aliases
import DeclIndex.Proofs.DeclaredNames
import DeclIndex.Proofs.Loading
import DeclIndex.Proofs.ReplacedModules
import DeclIndex.Proofs.SourceFiles
import DeclIndex.Proofs.Trimming
import Mathlib.Data.List.Nodup
import Mathlib.Data.List.TakeWhile

/-!
# Module names of source files

The name of a module forgets the suffix of its file and what stood between names on the way to it, a slash or a dot. So files
share a name exactly if their paths have the same pieces, and of files that share one in a package the last is the module of the
library.
-/

namespace DeclIndex

/-! ## Names without suffixes -/

/-- A name is its stem, or behind the stem stand a dot and a suffix without dots. -/
theorem Path.stem_cases (name : List Char) : stem name = name ∨ ∃ suffix, '.' ∉ suffix ∧ name = stem name ++ '.' :: suffix := by
  by_cases dotted : '.' ∈ name
  -- the last dot is the first one from behind
  · obtain ⟨back, front, split, free⟩ := List.eq_append_cons_of_mem (List.mem_reverse.mpr dotted)
    have whole : name = front.reverse ++ '.' :: back.reverse := by
      simpa using congrArg List.reverse split
    have behind : name.reverse.takeWhile (· != '.') = back := by
      rw [split, List.takeWhile_append_of_pos (by grind)]
      simp
    unfold stem
    rw [behind]
    dsimp only
    split
    · have before : name.length - back.length - 1 = front.reverse.length := by
        simp [whole]
        omega
      have kept : name.take front.reverse.length = front.reverse := by
        rw [whole, List.take_left]
      rw [before, kept]
      exact .inr ⟨back.reverse, by simpa using free, whole⟩
    · exact .inl rfl
  · have behind : name.reverse.takeWhile (· != '.') = name.reverse :=
      List.takeWhile_eq_self_iff.mpr (by grind)
    simp [stem, behind]

theorem Path.mem_of_mem_stem {name : List Char} {c : Char} (member : c ∈ stem name) : c ∈ name := by
  rcases stem_cases name with same | ⟨suffix, _, split⟩
  · exact same ▸ member
  · rw [split]
    exact List.mem_append_left _ member

theorem Path.stem_inj {name other : List Char} {suffix : List Char} (plain : '.' ∉ suffix)
    (ends : ('.' :: suffix) <:+ name) (endsToo : ('.' :: suffix) <:+ other) (bare : '.' ∉ stem name)
    (same : stem name = stem other) : name = other := by
  have stands {name : List Char} (ends : ('.' :: suffix) <:+ name) (bare : '.' ∉ stem name) :
      name = stem name ++ '.' :: suffix := by
    obtain ⟨front, split⟩ := ends
    rcases stem_cases name with whole | ⟨other, plainToo, splitToo⟩
    · rw [whole, ← split] at bare
      simp at bare
    · obtain ⟨_, rfl⟩ := split_at_dot plain plainToo (split.trans splitToo)
      exact splitToo
  rw [stands ends bare, stands endsToo (same ▸ bare), same]

theorem splitOn_intercalate_flatMap {c : Char} {names : List (List Char)} (nonempty : names ≠ []) :
    ([c].intercalate names).splitOn c = names.flatMap (·.splitOn c) := by
  induction names with
  | nil => exact absurd rfl nonempty
  | cons name rest ih =>
    cases rest with
    | nil => simp
    | cons next more =>
      rw [List.intercalate_cons_cons, List.append_assoc, List.singleton_append, List.splitOn_append_cons_self, ih (by simp)]
      rfl

namespace SourceFile

/-- The names on the way to a file, its own without the suffix. -/
def bareNames (file : SourceFile) : List (List Char) :=
  file.path.dropLast.map String.toList ++ [Path.stem (file.path.getLast?.getD "").toList]

/-- What stands between the dots and slashes of a path without its suffix. -/
def pieces (file : SourceFile) : List (List Char) :=
  file.bareNames.flatMap (·.splitOn '.')

/-- No folder on the way to a file has a dot in its name, nor has the file before its suffix. -/
def Undotted (file : SourceFile) : Prop :=
  ∀ name ∈ file.bareNames, '.' ∉ name

theorem toList_moduleName {file : SourceFile} (reachable : file.Reachable) :
    file.moduleName.toList = ['.'].intercalate file.bareNames := by
  obtain ⟨named, plain⟩ := reachable
  obtain ⟨path, size⟩ := file
  obtain rfl | ⟨front, last, rfl⟩ := List.eq_nil_or_concat path
  · exact absurd rfl named
  have text : (moduleName ⟨front.concat last, size⟩).toList =
      (['/'].intercalate (front.map String.toList ++ [Path.stem last.toList])).map fun c => if c = '/' then '.' else c := by
    simp [moduleName, relative, Path.moduleName?, Path.text, String.toList_intercalate]
  have names : bareNames ⟨front.concat last, size⟩ = front.map String.toList ++ [Path.stem last.toList] := by
    simp [bareNames]
  rw [text, names, Text.intercalate_replaced]
  intro name member
  rcases List.mem_append.mp member with above | own
  · obtain ⟨folder, inside, rfl⟩ := List.mem_map.mp above
    exact plain folder (by simp [inside])
  · rw [List.mem_singleton.mp own]
    exact fun slash => plain last (by simp) (Path.mem_of_mem_stem slash)

theorem splitOn_moduleName {file : SourceFile} (reachable : file.Reachable) :
    file.moduleName.toList.splitOn '.' = file.pieces := by
  rw [toList_moduleName reachable, splitOn_intercalate_flatMap (by simp [bareNames])]
  rfl

theorem moduleName_eq_iff {a b : SourceFile} (reachable : a.Reachable) (reachableToo : b.Reachable) :
    a.moduleName = b.moduleName ↔ a.pieces = b.pieces := by
  rw [← splitOn_moduleName reachable, ← splitOn_moduleName reachableToo]
  constructor
  · intro same
    rw [same]
  · intro same
    -- joined by dots, the pieces are the name again
    have joined := congrArg (['.'].intercalate ·) same
    simp only [List.intercalate_splitOn] at joined
    exact String.toList_inj.mp joined

theorem Undotted.pieces_eq {file : SourceFile} (undotted : file.Undotted) : file.pieces = file.bareNames := by
  unfold pieces
  rw [List.flatMap_congr fun name member => List.splitOn_eq_singleton (undotted name member)]
  simp

theorem path_eq_of_bareNames {a b : SourceFile} {suffix : List Char} (plain : '.' ∉ suffix) (named : a.path ≠ [])
    (namedToo : b.path ≠ []) (ends : ('.' :: suffix) <:+ (a.path.getLast?.getD "").toList)
    (endsToo : ('.' :: suffix) <:+ (b.path.getLast?.getD "").toList) (undotted : a.Undotted) (same : a.bareNames = b.bareNames) :
    a.path = b.path := by
  obtain ⟨folders, stems⟩ := List.append_inj' same rfl
  have names := Path.stem_inj plain ends endsToo (undotted _ (by simp [bareNames])) (List.singleton_inj.mp stems)
  have folders : a.path.dropLast = b.path.dropLast := List.map_injective_iff.mpr (fun _ _ => String.toList_inj.mp) folders
  have whole {path : List String} (named : path ≠ []) : path.dropLast ++ [path.getLast?.getD ""] = path := by
    rw [List.getLast?_eq_some_getLast named]
    exact List.dropLast_append_getLast named
  rw [← whole named, ← whole namedToo, folders, String.toList_inj.mp names]

end SourceFile

namespace Discovery

/-- Aiken files whose names have no other dots than those of their suffixes have distinct module names. -/
theorem nodup_moduleNames {tree : Node} {folder : List String} {includeTests : Bool} (formed : tree.WellFormed)
    (undotted : ∀ file ∈ (files tree folder .aiken includeTests).1, file.Undotted) :
    ((files tree folder .aiken includeTests).1.map SourceFile.moduleName).Nodup := by
  have paths := List.pairwise_map.mp (@nodup_files tree folder .aiken includeTests formed)
  refine List.pairwise_map.mpr (paths.imp_of_mem fun {a b} inFirst inSecond differ same => differ ?_)
  have reachable {file : SourceFile} := @reachable_of_mem_files tree folder .aiken includeTests file formed
  have ends {file : SourceFile} (member : file ∈ (files tree folder .aiken includeTests).1) :
      ['.', 'a', 'k'] <:+ (file.path.getLast?.getD "").toList := by
    obtain ⟨_, _, _, wanted⟩ := mem_leaves_of_mem_files member
    simp only [isWanted, suffixes, List.any_cons, List.any_nil, Bool.or_false, Bool.and_eq_true] at wanted
    exact List.isSuffixOf_iff_suffix.mp wanted.1.1
  rw [SourceFile.moduleName_eq_iff (reachable inFirst) (reachable inSecond), (undotted a inFirst).pieces_eq,
    (undotted b inSecond).pieces_eq] at same
  exact SourceFile.path_eq_of_bareNames (by decide) (reachable inFirst).1 (reachable inSecond).1 (ends inFirst) (ends inSecond)
    (undotted a inFirst) same

end Discovery

/-! ## Keys -/

theorem Module.keyOf_inj {source other name otherName : String} (plain : ':' ∉ source.toList) (plainToo : ':' ∉ other.toList)
    (same : keyOf source name = keyOf other otherName) : source = other ∧ name = otherName := by
  have texts : source.toList ++ ':' :: name.toList = other.toList ++ ':' :: otherName.toList := by
    simpa [keyOf] using congrArg String.toList same
  have cut {front back : List Char} (free : ':' ∉ front) : (front ++ ':' :: back).takeWhile (· != ':') = front := by
    rw [List.takeWhile_append_of_pos (by grind)]
    simp
  have sources : source.toList = other.toList := by
    rw [← cut plain, texts, cut plainToo]
  rw [sources] at texts
  exact ⟨String.toList_inj.mp sources, String.toList_inj.mp (List.cons.inj (List.append_cancel_left texts)).2⟩

/-- No type of a module, public or private, has a dot in its name. -/
def Module.PlainTypes (m : Module) : Prop :=
  ∀ t ∈ m.types ++ m.privateTypes, '.' ∉ t.name.toList

namespace Library

section Build

variable {registry : Registry} {includePrivate : Bool} {lastUpdated : String} {modules : List Module}

/-- There are as many modules in the library as were put in exactly if their keys are distinct. -/
theorem size_modules_build_iff :
    (build registry includePrivate lastUpdated modules).1.modules.size = modules.length ↔ (modules.map Module.key).Nodup := by
  have put : ((blank lastUpdated (registry.packages.map (·.id))).addModules includePrivate modules).modules =
      Table.empty.insertAll (modules.map fun m => (m.key, m)) := by
    rw [addModules_eq]
    rfl
  have size : (build registry includePrivate lastUpdated modules).1.modules.size =
      (Table.lastEntries (modules.map fun m => (m.key, m))).length := by
    rw [build, resolveAliases_eq_changeFunctions, changeFunctions, put, ← (Table.perm_lastEntries _).length_eq]
    exact List.length_map _
  have counted := @Table.countP_lastEntries_eq_iff _ (fun _ => true) (modules.map fun m => (m.key, m))
  simp only [List.countP_true, List.length_map, forall_const] at counted
  rw [size, counted, List.pairwise_map]
  exact List.pairwise_map.symm

/-- Of the files whose modules have one key the library has the last. -/
theorem path_modules_build_iff {key path : String} :
    (∃ m, (build registry includePrivate lastUpdated modules).1.modules.get? key = some m ∧ m.path = path) ↔
      ∃ before m after, modules = before ++ m :: after ∧ m.key = key ∧ m.path = path ∧ key ∉ after.map Module.key := by
  rw [build, resolveAliases_eq_changeFunctions, changeFunctions]
  simp only [Table.get?_map, Option.map_eq_some_iff]
  constructor
  · rintro ⟨_, ⟨m, found, rfl⟩, atPath⟩
    obtain ⟨before, after, split, same, last⟩ := get?_modules_addModules.mp found
    exact ⟨before, m, after, split, same, atPath, last⟩
  · rintro ⟨before, m, after, split, same, atPath, last⟩
    exact ⟨_, ⟨m, get?_modules_addModules.mpr ⟨before, after, split, same, last⟩, rfl⟩, atPath⟩

end Build

end Library

namespace Project

section Package

variable (tree : Node) (settings : Settings) (root : Path) (package : Package)

/-- The source files of a package that can be read. -/
def filesRead : List SourceFile :=
  (sourceFiles tree settings root package).filter fun file => (moduleIn? tree settings root package file).isSome

variable {tree settings root package}

theorem moduleIn?_eq_some {file : SourceFile} {m : Module} (read : moduleIn? tree settings root package file = some m) :
    ∃ path content, m = moduleOf settings.registry package path file.moduleName content := by
  unfold moduleIn? at read
  dsimp only at read
  split at read
  · exact ⟨_, _, (Option.some.inj read).symm⟩
  · cases read

theorem key_moduleOf (registry : Registry) (package : Package) (path name content : String) :
    (moduleOf registry package path name content).key = Module.keyOf package.id name := by
  unfold moduleOf
  split <;> rfl

theorem keys_modulesIn : (modulesIn tree settings root package).map Module.key =
    (filesRead tree settings root package).map fun file => Module.keyOf package.id file.moduleName := by
  unfold modulesIn filesRead
  induction sourceFiles tree settings root package with
  | nil => rfl
  | cons file rest ih =>
    cases read : moduleIn? tree settings root package file with
    | none => simpa [read] using ih
    | some m =>
      obtain ⟨path, content, rfl⟩ := moduleIn?_eq_some read
      simpa [read, key_moduleOf] using ih

theorem reachable_of_mem_sourceFiles {file : SourceFile} (formed : tree.WellFormed)
    (member : file ∈ sourceFiles tree settings root package) : file.Reachable := by
  unfold sourceFiles at member
  split at member
  · exact Discovery.reachable_of_mem_files formed member
  · cases member

theorem nodup_keys_modulesIn_iff (formed : tree.WellFormed) : ((modulesIn tree settings root package).map Module.key).Nodup ↔
    ((filesRead tree settings root package).map SourceFile.pieces).Nodup := by
  rw [keys_modulesIn, List.Nodup, List.Nodup, List.pairwise_map, List.pairwise_map]
  have reachable : ∀ file ∈ filesRead tree settings root package, file.Reachable :=
    fun file member => reachable_of_mem_sourceFiles formed (List.mem_filter.mp member).1
  refine List.Pairwise.iff_of_mem fun {a b} inFirst inSecond => not_congr ?_
  rw [← SourceFile.moduleName_eq_iff (reachable a inFirst) (reachable b inSecond)]
  exact String.append_right_inj _

end Package

/-! ## Projects -/

theorem nodup_ids_of_select {registry : Registry} {ids : List String} {packages : List Package}
    (chosen : registry.select ids = .ok packages) : (packages.map (·.id)).Nodup := by
  have inside : packages.Sublist registry.packages := by
    unfold Registry.select at chosen
    split at chosen
    · cases chosen
      exact List.filter_sublist
    · split at chosen
      · cases chosen
        exact List.filter_sublist.trans List.filter_sublist
      · cases chosen
  exact registry.distinct.sublist (inside.map _)

section Project

variable {tree : Node} {settings : Settings} {root : Path} {packages : List Package}

/-- The keys of the modules of packages are distinct exactly if the files of each package have distinct pieces. -/
theorem nodup_keys_modulesRead_iff (formed : tree.WellFormed) (distinct : (packages.map (·.id)).Nodup)
    (plain : ∀ package ∈ packages, ':' ∉ package.id.toList) : ((modulesRead tree settings root packages).map Module.key).Nodup ↔
      ∀ package ∈ packages, ((filesRead tree settings root package).map SourceFile.pieces).Nodup := by
  rw [modulesRead, List.map_flatMap, List.nodup_flatMap]
  simp only [nodup_keys_modulesIn_iff formed]
  refine and_iff_left ((List.pairwise_map.mp distinct).imp_of_mem fun {p q} inFirst inSecond differ => ?_)
  intro key first second
  dsimp only at first second
  rw [keys_modulesIn] at first second
  obtain ⟨file, _, rfl⟩ := List.mem_map.mp first
  obtain ⟨other, _, same⟩ := List.mem_map.mp second
  exact differ (Module.keyOf_inj (plain q inSecond) (plain p inFirst) same).1.symm

theorem exists_of_mem_modulesRead {m : Module} (member : m ∈ modulesRead tree settings root packages) :
    ∃ package path name content, m = moduleOf settings.registry package path name content := by
  obtain ⟨package, _, read⟩ := List.mem_flatMap.mp member
  obtain ⟨file, _, read⟩ := List.mem_filterMap.mp read
  obtain ⟨path, content, rfl⟩ := moduleIn?_eq_some read
  exact ⟨package, path, file.moduleName, content, rfl⟩

/-- What modules with distinct keys declare has distinct keys, except for types that have dots in their names. -/
theorem apart_modulesRead (distinct : ((modulesRead tree settings root packages).map Module.key).Nodup) (kind : Collection)
    (plain : kind = .types ∨ kind = .privateTypes → ∀ m ∈ modulesRead tree settings root packages, m.PlainTypes) :
    (modulesRead tree settings root packages).Pairwise (Apart (·.declaredFor kind)) := by
  have functions : ∀ m ∈ modulesRead tree settings root packages, m.PlainNames := by
    intro m member
    obtain ⟨package, path, name, content, rfl⟩ := exists_of_mem_modulesRead member
    exact plainNames_moduleOf _ _ _ _ _
  have constants : ∀ m ∈ modulesRead tree settings root packages, m.PlainConstants := by
    intro m member
    obtain ⟨package, path, name, content, rfl⟩ := exists_of_mem_modulesRead member
    exact plainConstants_moduleOf _ _ _ _ _
  cases kind with
  | modules =>
    refine (List.pairwise_map.mp distinct).imp fun {m n} differ key first second => differ ?_
    simp only [Module.declaredFor, List.map_singleton, List.mem_singleton] at first second
    exact first.symm.trans second
  | functions =>
    exact Library.apart_declared distinct fun m member f inside => functions m member f (List.mem_append_left _ inside)
  | atoms =>
    exact Library.apart_declared distinct fun m member f inside => functions m member f (List.mem_append_right _ inside)
  | types =>
    exact Library.apart_declared distinct fun m member t inside => plain (.inl rfl) m member t (List.mem_append_left _ inside)
  | privateTypes =>
    exact Library.apart_declared distinct fun m member t inside => plain (.inr rfl) m member t (List.mem_append_right _ inside)
  | constants =>
    exact Library.apart_declared distinct fun m member c inside => constants m member c (List.mem_append_left _ inside)
  | privateConstants =>
    exact Library.apart_declared distinct fun m member c inside => constants m member c (List.mem_append_right _ inside)

end Project

-- a dot in the name of a type can stand for the one behind the name of a module
example :
    let package : Package := { id := "lib", name := "Library", path := "." }
    let first := moduleOf .default package "m.ak" "m" "pub type T<a.U<b> \x7b\n  X\n\x7d\n"
    let second := moduleOf .default package "m.T<a.ak" "m.T<a" "pub type U<b> \x7b\n  Y\n\x7d\n"
    first.key ≠ second.key ∧ ¬ Apart (·.declaredFor .types) first second := by
  intro package first second
  exact ⟨by decide +kernel, fun apart => apart "lib:m.T<a.U<b>" (by decide +kernel) (by decide +kernel)⟩

/-- Two files of a package give one module name exactly if their paths without suffixes have the same pieces between dots and
slashes, which no two Aiken files do if no name has a dot but for the suffix. A project has one module for each file that was read
exactly if no two keys are the same. For ids without colons that says that within each package no two files that were read have
the same pieces. Of files whose modules have one key the library has the last. With distinct keys no declaration takes the place
of one of another file, types with dots in their names apart. -/
theorem oneModulePerFile_iff (tree : Node) (formed : tree.WellFormed) :
    (∀ path language includeTests files, (Discovery.search tree path language includeTests).outcome.1 = .ok files →
      (∀ a ∈ files, ∀ b ∈ files, a.moduleName = b.moduleName ↔ a.pieces = b.pieces) ∧
      (language = "aiken" → (∀ file ∈ files, file.Undotted) → (files.map SourceFile.moduleName).Nodup)) ∧
    ∀ settings now library, (Project.library tree settings now).outcome.1 = .ok library →
      ∃ root packages, tree.resolve settings.projectDir.parts = .ok root ∧
        settings.registry.select settings.sources = .ok packages ∧
        let read := modulesRead tree settings ⟨"/", root⟩ packages
        (library.modules.size = read.length ↔ (read.map Module.key).Nodup) ∧
        ((∀ package ∈ packages, ':' ∉ package.id.toList) → ((read.map Module.key).Nodup ↔
          ∀ package ∈ packages, ((filesRead tree settings ⟨"/", root⟩ package).map SourceFile.pieces).Nodup)) ∧
        (∀ key path, (∃ m, library.modules.get? key = some m ∧ m.path = path) ↔
          ∃ before m after, read = before ++ m :: after ∧ m.key = key ∧ m.path = path ∧ key ∉ after.map Module.key) ∧
        ((read.map Module.key).Nodup → ∀ kind, (kind = .types ∨ kind = .privateTypes → ∀ m ∈ read, m.PlainTypes) →
          read.Pairwise (Apart (·.declaredFor kind))) := by
  constructor
  · intro path language includeTests files found
    obtain ⟨folder, spoken, named, rfl⟩ := Discovery.exists_of_search_ok found
    have reachable {file : SourceFile} := @Discovery.reachable_of_mem_files tree folder spoken includeTests file formed
    refine ⟨fun a inside b insideToo => SourceFile.moduleName_eq_iff (reachable inside) (reachable insideToo), ?_⟩
    rintro rfl undotted
    cases named
    exact Discovery.nodup_moduleNames formed undotted
  · intro settings now library loaded
    obtain ⟨root, packages, resolved, chosen, rfl⟩ := exists_of_library_ok loaded
    refine ⟨root, packages, resolved, chosen, Library.size_modules_build_iff, fun plain => ?_, fun key path => ?_, ?_⟩
    · exact nodup_keys_modulesRead_iff formed (nodup_ids_of_select chosen) plain
    · exact Library.path_modules_build_iff
    · exact fun distinct kind plain => apart_modulesRead distinct kind plain

/-! ### A tree that is one package -/

/-- The package that has the folder of the project. -/
def wholePackage : Package :=
  { id := "lib", name := "Library", path := "." }

def wholeSettings : Settings where
  projectDir := ⟨"/", []⟩
  registry := ⟨[wholePackage], by simp⟩

private theorem folderOf_whole : folderOf ⟨"/", []⟩ wholePackage = ⟨"/", []⟩ := by
  decide +kernel

section Whole

variable (entries : List (String × Node))

theorem namesOf_root : (Node.folder entries).NamesOf (.folder entries) [] :=
  ⟨rfl, by simp, by decide, by decide, by decide⟩

theorem folderAt_whole : Discovery.folderAt (.folder entries) (folderOf ⟨"/", []⟩ wholePackage) = .ok [] := by
  rw [folderOf_whole]
  exact Discovery.folderAt_names (namesOf_root entries)

private theorem sourceFiles_whole {settings : Settings} (untested : settings.includeTests = false) :
    sourceFiles (.folder entries) settings ⟨"/", []⟩ wholePackage = (Discovery.files (.folder entries) [] .aiken false).1 := by
  unfold sourceFiles
  rw [folderAt_whole, ← untested]
  rfl

theorem files_whole {paths : List (List String)}
    (wanted : (Discovery.leaves [] (.folder entries)).filter
      (fun path => Discovery.isWanted .aiken false (path.getLast?.getD "")) = paths)
    (read : ∀ path ∈ paths, (Node.folder entries).read path = .ok .empty)
    (sorted : paths.Pairwise fun a b => Path.isBefore a b = true) :
    (Discovery.files (.folder entries) [] .aiken false).1 = paths.map (SourceFile.mk · 0) := by
  have found : Discovery.candidates (.folder entries) [] .aiken false = paths.map (SourceFile.mk · 0) := by
    simp only [Discovery.candidates, Node.get?, wanted, Discovery.filesAt]
    refine (List.filterMap_congr fun path member => ?_).trans (congrFun List.filterMap_eq_map paths)
    rw [List.nil_append, read path member]
    rfl
  have kept : (Discovery.files (.folder entries) [] .aiken false).1 =
      (paths.map (SourceFile.mk · 0)).mergeSort fun a b => Path.isBefore a.path b.path := by
    simp [Discovery.files, found, Discovery.sizeLimit, List.filter_map, Function.comp_def]
  rw [kept]
  exact List.mergeSort_of_pairwise (List.pairwise_map.mpr sorted)

private theorem moduleIn?_whole (settings : Settings) {file : SourceFile} {bytes : ByteArray}
    (read : (Node.folder entries).read file.path = .ok bytes) :
    moduleIn? (.folder entries) settings ⟨"/", []⟩ wholePackage file = some (moduleOf settings.registry wholePackage
      (Path.text ⟨"/", file.path⟩) file.moduleName (Text.sourceText bytes)) := by
  have path : (folderOf ⟨"/", []⟩ wholePackage).join file.relative = ⟨"/", file.path⟩ := by
    rw [folderOf_whole]
    rfl
  unfold moduleIn?
  rw [path]
  dsimp only
  rw [read]

private theorem library_whole (now : String) :
    (library (.folder entries) wholeSettings now).outcome.1 = .ok (Library.build wholeSettings.registry true now
      (modulesRead (.folder entries) wholeSettings ⟨"/", []⟩ [wholePackage])).1 := by
  have resolved : (Node.folder entries).resolve wholeSettings.projectDir.parts = .ok [] := (namesOf_root entries).resolve
  have free : [wholePackage].findSome? (obstacle? (.folder entries) ⟨"/", []⟩) = none := by
    unfold obstacle?
    simp [folderAt_whole]
  have chosen : wholeSettings.registry.select wholeSettings.sources = .ok [wholePackage] := rfl
  rw [(yields_library _ _ _).outcome, resolved, chosen]
  simp only [Except.mapError, bind, Except.bind, free]
  rfl

theorem modulesRead_wholePackage {settings : Settings} (untested : settings.includeTests = false) {files : List SourceFile}
    (found : (Discovery.files (.folder entries) [] .aiken false).1 = files)
    (read : ∀ file ∈ files, (Node.folder entries).read file.path = .ok .empty) :
    modulesRead (.folder entries) settings ⟨"/", []⟩ [wholePackage] = files.map fun file =>
      moduleOf settings.registry wholePackage (Path.text ⟨"/", file.path⟩) file.moduleName "" := by
  have empty : Text.sourceText .empty = "" := by decide +kernel
  rw [modulesRead, List.flatMap_singleton, modulesIn, sourceFiles_whole entries untested, found,
    List.filterMap_congr fun file member => moduleIn?_whole entries settings (read file member), empty]
  exact congrFun List.filterMap_eq_map files

private theorem modulesRead_whole {files : List SourceFile} (found : (Discovery.files (.folder entries) [] .aiken false).1 = files)
    (read : ∀ file ∈ files, (Node.folder entries).read file.path = .ok .empty) :
    modulesRead (.folder entries) wholeSettings ⟨"/", []⟩ [wholePackage] = files.map fun file =>
      moduleOf wholeSettings.registry wholePackage (Path.text ⟨"/", file.path⟩) file.moduleName "" :=
  modulesRead_wholePackage entries rfl found read

end Whole

/-- Two files with dots in their names, and with module names of their own. -/
def dottedFiles : List (String × Node) :=
  [("a.ak", .file .empty), ("a.b.ak", .file .empty)]

theorem oneModulePerFile_iff_dotted :
    (Node.folder dottedFiles).WellFormed ∧ ∃ result,
      (library (.folder dottedFiles) wholeSettings "2024").outcome.1 = .ok result ∧ result.modules.size = 2 := by
  have formed : (Node.folder dottedFiles).WellFormed := by
    simp [dottedFiles, Node.WellFormed, Node.WellFormedIn]
  have first : (Node.folder dottedFiles).read ["a.ak"] = .ok .empty :=
    Node.NamesOf.read ⟨rfl, by simp, by decide, by decide, by decide⟩
  have second : (Node.folder dottedFiles).read ["a.b.ak"] = .ok .empty :=
    Node.NamesOf.read ⟨rfl, by simp, by decide, by decide, by decide⟩
  have files : (Discovery.files (.folder dottedFiles) [] .aiken false).1 = [⟨["a.ak"], 0⟩, ⟨["a.b.ak"], 0⟩] := by
    have wanted : (Discovery.leaves [] (.folder dottedFiles)).filter
        (fun path => Discovery.isWanted .aiken false (path.getLast?.getD "")) = [["a.ak"], ["a.b.ak"]] := by
      decide +kernel
    exact files_whole dottedFiles wanted (by simp [first, second]) (by decide +kernel)
  obtain ⟨root, packages, resolved, chosen, size, _⟩ :=
    (oneModulePerFile_iff _ formed).2 wholeSettings "2024" _ (library_whole dottedFiles "2024")
  cases resolved.symm.trans (namesOf_root dottedFiles).resolve
  cases show Except.ok [wholePackage] = .ok packages from chosen
  have modules := modulesRead_whole dottedFiles files (by simp [first, second])
  refine ⟨formed, _, library_whole dottedFiles "2024", ?_⟩
  rw [modules] at size ⊢
  exact size.mpr (by decide +kernel)

/-- Two files that give one module name. -/
def clashingFiles : List (String × Node) :=
  [("a", .folder [("b.c.ak", .file .empty)]), ("a.b", .folder [("c.ak", .file .empty)])]

theorem moduleNames_clashing :
    (Discovery.search (.folder clashingFiles) ⟨"/", []⟩ "aiken" false).outcome.1 =
        .ok [⟨["a", "b.c.ak"], 0⟩, ⟨["a.b", "c.ak"], 0⟩] ∧
      SourceFile.moduleName ⟨["a", "b.c.ak"], 0⟩ = SourceFile.moduleName ⟨["a.b", "c.ak"], 0⟩ ∧
      ∃ result, (library (.folder clashingFiles) wholeSettings "2024").outcome.1 = .ok result ∧
        result.modules.keys = ["lib:a.b.c"] := by
  have first : (Node.folder clashingFiles).read ["a", "b.c.ak"] = .ok .empty :=
    Node.NamesOf.read ⟨rfl, by simp, by decide, by decide, by decide⟩
  have second : (Node.folder clashingFiles).read ["a.b", "c.ak"] = .ok .empty :=
    Node.NamesOf.read ⟨rfl, by simp, by decide, by decide, by decide⟩
  have files : (Discovery.files (.folder clashingFiles) [] .aiken false).1 =
      [⟨["a", "b.c.ak"], 0⟩, ⟨["a.b", "c.ak"], 0⟩] := by
    have wanted : (Discovery.leaves [] (.folder clashingFiles)).filter
        (fun path => Discovery.isWanted .aiken false (path.getLast?.getD "")) = [["a", "b.c.ak"], ["a.b", "c.ak"]] := by
      decide +kernel
    exact files_whole clashingFiles wanted (by simp [first, second]) (by decide +kernel)
  refine ⟨?_, by decide +kernel, _, library_whole clashingFiles "2024", ?_⟩
  · rw [(Discovery.yields_search _ _ _ _).outcome, Discovery.folderAt_names (namesOf_root clashingFiles), ← files]
    rfl
  · rw [modulesRead_whole clashingFiles files (by simp [first, second])]
    decide +kernel

end Project

end DeclIndex
