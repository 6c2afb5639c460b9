import DeclIndex.Proofs.ModuleNames
import DeclIndex.Proofs.ModuleOrder

/-!
# Packages that fail

A package without a folder is left out of the library, and the others are read as if it had not been asked for. A package with a
path that cannot be followed is not left out: it ends the work, and no library is built.
-/

namespace DeclIndex

/-! ## Packages that are asked for -/

namespace Registry

variable {registry : Registry} {ids others : List String}

/-- The enabled packages that some ids ask for, in the order of the registry. No ids ask for all of them. -/
def asked (registry : Registry) (ids : List String) : List Package :=
  registry.enabled.filter fun package => ids.isEmpty || ids.contains package.id

theorem asked_sublist (registry : Registry) (ids : List String) : (registry.asked ids).Sublist registry.packages :=
  List.filter_sublist.trans List.filter_sublist

theorem select_known (known : ∀ id ∈ ids, registry.contains id = true) : registry.select ids = .ok (registry.asked ids) := by
  have noneUnknown : ids.filter (!registry.contains ·) = [] := by
    rw [List.filter_eq_nil_iff]
    intro id member
    simp [known id member]
  cases ids with
  | nil => simp [select, asked]
  | cons id rest => simp [select, noneUnknown, asked]

theorem select_unknown {id : String} (member : id ∈ ids) (unknown : registry.contains id = false) :
    registry.select ids = .error (.unknown (ids.filter (!registry.contains ·))) := by
  have listed : id ∈ ids.filter (!registry.contains ·) := by simp [member, unknown]
  rw [select, if_neg (by simp [List.ne_nil_of_mem member])]
  split
  · next none => simp [none] at listed
  · rfl

theorem asked_congr (same : ∀ id, id ∈ ids ↔ id ∈ others) : registry.asked ids = registry.asked others := by
  have empty : ids.isEmpty = others.isEmpty := by
    rw [Bool.eq_iff_iff, List.isEmpty_iff, List.isEmpty_iff, List.eq_nil_iff_forall_not_mem, List.eq_nil_iff_forall_not_mem]
    simp [same]
  have members : ∀ id, ids.contains id = others.contains id := by
    intro id
    simp [same]
  simp only [asked, empty, members]

/-- Asking for some of the packages that were asked for, by their ids, gives these. -/
theorem asked_ids {keep : Package → Bool} (remains : (registry.asked ids).filter keep ≠ []) :
    registry.asked (((registry.asked ids).filter keep).map (·.id)) = (registry.asked ids).filter keep := by
  have listed : ∀ package ∈ registry.enabled,
      (((registry.asked ids).filter keep).map (·.id)).contains package.id = true ↔
        package ∈ (registry.asked ids).filter keep := by
    intro package member
    have inside : package ∈ registry.packages := List.filter_sublist.subset member
    rw [List.contains_iff_mem, List.mem_map]
    constructor
    · rintro ⟨other, kept, same⟩
      have insideToo := (asked_sublist registry ids).subset (List.mem_of_mem_filter kept)
      rwa [eq_of_id inside insideToo same.symm]
    · intro kept
      exact ⟨package, kept, rfl⟩
  have named : (((registry.asked ids).filter keep).map (·.id)).isEmpty = false := by
    rw [List.isEmpty_map, List.isEmpty_eq_false_iff]
    exact remains
  rw [asked, named]
  conv_rhs => rw [asked, List.filter_filter]
  refine List.filter_congr fun package member => ?_
  rw [Bool.false_or, Bool.eq_iff_iff, listed package member, List.mem_filter, asked, List.mem_filter]
  simp [member, and_comm]

theorem contains_of_mem {package : Package} (member : package ∈ registry.packages) : registry.contains package.id = true := by
  rw [contains, get?, List.find?_isSome]
  exact ⟨package, member, by simp⟩

end Registry

/-! ## Packages with folders -/

namespace Project

open Reporting

variable {tree : Node} {settings : Settings} {root : Path}

/-- Whether a package has a folder. -/
def hasFolder (tree : Node) (root : Path) (package : Package) : Bool :=
  (Discovery.folderAt tree (folderOf root package)).toBool

theorem obstacle?_of_hasFolder {package : Package} (present : hasFolder tree root package = true) :
    obstacle? tree root package = none := by
  unfold hasFolder at present
  unfold obstacle?
  cases folder : Discovery.folderAt tree (folderOf root package) with
  | ok place => rfl
  | error error => rw [folder] at present; cases present

theorem modulesIn_of_noFolder {package : Package} (absent : hasFolder tree root package = false) :
    modulesIn tree settings root package = [] := by
  unfold hasFolder at absent
  cases folder : Discovery.folderAt tree (folderOf root package) with
  | ok place => rw [folder] at absent; cases absent
  | error error => exact modulesIn_of_error folder

theorem modulesRead_hasFolder (packages : List Package) :
    modulesRead tree settings root (packages.filter (hasFolder tree root)) = modulesRead tree settings root packages := by
  induction packages with
  | nil => rfl
  | cons package rest ih =>
    have whole : modulesRead tree settings root (package :: rest) =
        modulesIn tree settings root package ++ modulesRead tree settings root rest := List.flatMap_cons
    rw [whole, ← ih]
    cases present : hasFolder tree root package with
    | true =>
      rw [List.filter_cons_of_pos present]
      exact List.flatMap_cons
    | false => rw [List.filter_cons_of_neg (by simp [present]), modulesIn_of_noFolder present, List.nil_append]

theorem pairwise_sourceFiles (tree : Node) (settings : Settings) (root : Path) (package : Package) :
    (sourceFiles tree settings root package).Pairwise fun a b => Path.isBefore a.path b.path = true := by
  unfold sourceFiles
  split
  · exact Discovery.pairwise_files _ _ _ _
  · exact .nil

/-- The packages that were asked for and have a folder. -/
def present (tree : Node) (settings : Settings) (root : Path) : List Package :=
  (settings.registry.asked settings.sources).filter (hasFolder tree root)

/-- The library of the packages that were asked for and have a folder. -/
def libraryOfPresent (tree : Node) (settings : Settings) (root : Path) (now : String) : Library :=
  (Library.build settings.registry settings.includePrivate now (modulesRead tree settings root (present tree settings root))).1

theorem modulesRead_sources (sources : List String) (packages : List Package) :
    modulesRead tree { settings with sources } root packages = modulesRead tree settings root packages := by
  unfold modulesRead modulesIn sourceFiles moduleIn?
  dsimp only

theorem library_sources_congr {sources : List String}
    (same : settings.registry.select sources = settings.registry.select settings.sources) (now : String) :
    library tree { settings with sources } now = library tree settings now := by
  -- the modules of a package do not depend on which packages are asked for
  have modules : modulesOrSkip tree { settings with sources } = modulesOrSkip tree settings := by
    funext root package
    unfold modulesOrSkip packageModules
    dsimp only
  unfold library
  dsimp only
  rw [same, modules]

theorem outcome_known {root : List String} (resolved : tree.resolve settings.projectDir.parts = .ok root)
    (known : ∀ id ∈ settings.sources, settings.registry.contains id = true) (now : String) :
    (library tree settings now).outcome.1 =
      valueUnless ((settings.registry.asked settings.sources).findSome? (obstacle? tree ⟨"/", root⟩))
        (libraryOfPresent tree settings ⟨"/", root⟩ now) := by
  rw [(yields_library tree settings now).outcome, resolved, Registry.select_known known, libraryOfPresent, present,
    modulesRead_hasFolder]
  rfl

theorem outcome_present {root : List String} (resolved : tree.resolve settings.projectDir.parts = .ok root)
    (remains : present tree settings ⟨"/", root⟩ ≠ []) (now : String) :
    (library tree { settings with sources := (present tree settings ⟨"/", root⟩).map (·.id) } now).outcome.1 =
      .ok (libraryOfPresent tree settings ⟨"/", root⟩ now) := by
  have onlyThese : settings.registry.asked ((present tree settings ⟨"/", root⟩).map (·.id)) = present tree settings ⟨"/", root⟩ :=
    Registry.asked_ids remains
  have known : ∀ id ∈ (present tree settings ⟨"/", root⟩).map (·.id), settings.registry.contains id = true := by
    intro id member
    obtain ⟨package, kept, rfl⟩ := List.mem_map.mp member
    exact Registry.contains_of_mem ((Registry.asked_sublist _ _).subset (List.mem_of_mem_filter kept))
  have free : (present tree settings ⟨"/", root⟩).findSome? (obstacle? tree ⟨"/", root⟩) = none := by
    rw [List.findSome?_eq_none_iff]
    intro package kept
    exact obstacle?_of_hasFolder (List.mem_filter.mp kept).2
  rw [(yields_library tree _ now).outcome]
  dsimp only
  rw [resolved, Registry.select_known known, onlyThese]
  simp only [Except.mapError, bind, Except.bind, free]
  rw [modulesRead_sources, libraryOfPresent]
  rfl

theorem outcome_unknown {root : List String} (resolved : tree.resolve settings.projectDir.parts = .ok root) {id : String}
    (member : id ∈ settings.sources) (unknown : settings.registry.contains id = false) (now : String) :
    (library tree settings now).outcome =
      (.error (.registry (.unknown (settings.sources.filter (!settings.registry.contains ·)))), []) := by
  unfold library
  rw [resolved, Registry.select_unknown member unknown]
  rfl

/-- A package that has a folder of its own. -/
def toolPackage : Package :=
  { id := "tool", name := "Tool", path := "tool" }

def pairSettings : Settings where
  projectDir := ⟨"/", []⟩
  registry := ⟨[wholePackage, toolPackage], by decide⟩

private theorem asked_pair : pairSettings.registry.asked pairSettings.sources = [wholePackage, toolPackage] :=
  rfl

private theorem folderOf_tool : folderOf ⟨"/", []⟩ toolPackage = ⟨"/", ["tool"]⟩ :=
  rfl

section Pair

variable {entries : List (String × Node)}

private theorem get?_tool : (Node.folder entries).get? ["tool"] = valueAt? "tool" entries := by
  simp only [Node.get?]
  cases valueAt? "tool" entries <;> rfl

private theorem place_tool : (Node.folder entries).place .present ["tool"] =
    (Node.folder entries).walk .present Node.linkLimit [] ["tool"] := by
  rw [Node.place, if_neg (by decide), if_neg (by decide)]

private theorem folderAt_missing (missing : valueAt? "tool" entries = none) :
    Discovery.folderAt (.folder entries) (folderOf ⟨"/", []⟩ toolPackage) = .error (.noFolder "/tool") := by
  have walked : (Node.folder entries).walk .present Node.linkLimit [] ["tool"] = .error .missing := by
    rw [Node.walk_name (by decide) (by decide) (by decide), List.reverse_singleton, get?_tool, missing]
  have followed : ((Node.folder entries).follow (Node.folder entries).linkCount [] [] ["tool"]).place = ["tool"] := by
    rw [Node.follow, if_neg (by decide), if_neg (by decide)]
    dsimp only
    rw [List.reverse_singleton, get?_tool, missing]
    simp [Node.follow]
  have resolved : (Node.folder entries).resolve ["tool"] = .ok ["tool"] := by
    rw [Node.resolve, if_neg (by decide), followed, List.reverse_singleton]
    dsimp only
    rw [place_tool, walked]
  have found : (Node.folder entries).find ["tool"] = .error .missing := by
    rw [Node.find, place_tool, walked]
    rfl
  rw [folderOf_tool, Discovery.folderAt, resolved]
  simp only [Except.mapError, bind, Except.bind, found]
  rfl

private theorem targetNames_tool : Node.targetNames "tool" = ["tool"] :=
  rfl

private theorem targetStart_tool : Node.targetStart "tool" [] = [] :=
  ite_self []

/-- A link that leads to itself is followed until the limit is reached. -/
private theorem walk_looping (loop : valueAt? "tool" entries = some (.link "tool")) (links : Nat) :
    (Node.folder entries).walk .present links [] ["tool"] = .error .loop := by
  induction links with
  | zero => rw [Node.walk_name (by decide) (by decide) (by decide), List.reverse_singleton, get?_tool, loop]
  | succ links ih =>
    rw [Node.walk_name (by decide) (by decide) (by decide), List.reverse_singleton, get?_tool, loop]
    dsimp only
    rw [targetStart_tool, targetNames_tool, List.append_nil]
    exact ih

private theorem follow_looping (loop : valueAt? "tool" entries = some (.link "tool")) (depth : Nat) :
    ((Node.folder entries).follow depth [] [] ["tool"]).place = ["tool"] := by
  have met : (Node.folder entries).follow (depth - 1) [(["tool"], none)] [] ["tool"] = ⟨["tool"], false, [(["tool"], none)]⟩ := by
    rw [Node.follow, if_neg (by decide), if_neg (by decide)]
    dsimp only
    rw [List.reverse_singleton, get?_tool, loop]
    rfl
  rw [Node.follow, if_neg (by decide), if_neg (by decide)]
  dsimp only
  rw [List.reverse_singleton, get?_tool, loop]
  cases depth with
  | zero => rfl
  | succ depth =>
    rw [Nat.add_sub_cancel] at met
    dsimp only [List.lookup]
    rw [targetStart_tool, targetNames_tool, met]
    rfl

private theorem folderAt_looping (loop : valueAt? "tool" entries = some (.link "tool")) :
    Discovery.folderAt (.folder entries) (folderOf ⟨"/", []⟩ toolPackage) = .error (.unusable ⟨⟨"/", ["tool"]⟩, .loop⟩) := by
  have resolved : (Node.folder entries).resolve ["tool"] = .error .loop := by
    rw [Node.resolve, if_neg (by decide), follow_looping loop, List.reverse_singleton]
    dsimp only
    rw [place_tool, walk_looping loop]
  rw [folderOf_tool, Discovery.folderAt, resolved]
  rfl

private theorem present_pair (absent : hasFolder (.folder entries) ⟨"/", []⟩ toolPackage = false) :
    present (.folder entries) pairSettings ⟨"/", []⟩ = [wholePackage] := by
  have whole : hasFolder (.folder entries) ⟨"/", []⟩ wholePackage = true := by
    rw [hasFolder, folderAt_whole]
    rfl
  rw [present, asked_pair, List.filter_cons_of_pos whole, List.filter_cons_of_neg (by simp [absent]), List.filter_nil]

/-- The one file of the package that is left has a module. -/
private theorem keys_pair (absent : hasFolder (.folder entries) ⟨"/", []⟩ toolPackage = false)
    (wanted : (Discovery.leaves [] (.folder entries)).filter
      (fun path => Discovery.isWanted .aiken false (path.getLast?.getD "")) = [["a.ak"]])
    (read : (Node.folder entries).read ["a.ak"] = .ok .empty) :
    (libraryOfPresent (.folder entries) pairSettings ⟨"/", []⟩ "2024").modules.keys = ["lib:a"] := by
  have files : (Discovery.files (.folder entries) [] .aiken false).1 = [⟨["a.ak"], 0⟩] :=
    files_whole entries wanted (by simp [read]) (by decide)
  rw [libraryOfPresent, present_pair absent, modulesRead_wholePackage entries rfl files (by simp [read])]
  decide +kernel

end Pair

/-- One source file, and nothing in the place of the other package. -/
def loneFile : List (String × Node) :=
  [("a.ak", .file .empty)]

/-- One source file, and in the place of the other package a link that leads to itself. -/
def fileAndLoop : List (String × Node) :=
  [("a.ak", .file .empty), ("tool", .link "tool")]

end Project

end DeclIndex
