import DeclIndex.Project
import Mathlib.Data.List.Basic

/-!
# What a project is built from

Reports have no influence on the work that makes them. So the library of a project is built from the modules in the files of
its packages, package by package, as far as the files can be read.
-/

namespace DeclIndex

/-! ## Results of reporting work -/

namespace Reporting

variable {ε α β : Type}

/-- The result of some work, whatever was reported before. -/
def Yields (work : Reporting ε α) (result : Except ε α) : Prop :=
  ∀ notices, (work.run.run notices).1 = result

theorem Yields.outcome {work : Reporting ε α} {result : Except ε α} (yields : work.Yields result) :
    work.outcome.1 = result :=
  yields []

theorem yields_pure (value : α) : (pure value : Reporting ε α).Yields (.ok value) :=
  fun _ => rfl

theorem yields_throw (error : ε) : (throw error : Reporting ε α).Yields (.error error) :=
  fun _ => rfl

theorem yields_lift (result : Except ε α) : (liftM result : Reporting ε α).Yields result := by
  cases result <;> exact fun _ => rfl

theorem Yields.next {work : Reporting ε α} {next : α → Reporting ε β} {value : α} {final : Except ε β}
    (yields : work.Yields (.ok value)) (onward : (next value).Yields final) : (work >>= next).Yields final := by
  intro notices
  have first := yields notices
  rw [ExceptT.run_bind, StateT.run_bind]
  rcases ran : work.run.run notices with ⟨result, later⟩
  rw [ran] at first
  cases first
  exact onward later

theorem Yields.stop {work : Reporting ε α} {error : ε} (yields : work.Yields (.error error)) (next : α → Reporting ε β) :
    (work >>= next).Yields (.error error) := by
  intro notices
  have first := yields notices
  rw [ExceptT.run_bind, StateT.run_bind]
  rcases ran : work.run.run notices with ⟨result, later⟩
  rw [ran] at first
  cases first
  rfl

theorem Yields.bind {work : Reporting ε α} {next : α → Reporting ε β} {result : Except ε α} {final : α → Except ε β}
    (yields : work.Yields result) (onward : ∀ value, (next value).Yields (final value)) :
    (work >>= next).Yields (result >>= final) := by
  cases result with
  | error error => exact yields.stop next
  | ok value => exact yields.next (onward value)

theorem outcome_bind_ok {work : Reporting ε α} {value : α} {notices : List Notice} (done : work.outcome = (.ok value, notices))
    (next : α → Reporting ε β) : (work >>= next).outcome = (next value).run.run notices := by
  rw [outcome] at done
  rw [outcome, ExceptT.run_bind, StateT.run_bind, done]
  rfl

theorem outcome_bind_error {work : Reporting ε α} {error : ε} {notices : List Notice}
    (stops : work.outcome = (.error error, notices)) (next : α → Reporting ε β) :
    (work >>= next).outcome = (.error error, notices) := by
  rw [outcome] at stops
  rw [outcome, ExceptT.run_bind, StateT.run_bind, stops]
  rfl

theorem Yields.report {next : Unit → Reporting ε β} {final : Except ε β} (onward : (next ()).Yields final)
    (notices : List Notice) : (Reporting.report notices >>= next).Yields final :=
  fun earlier => onward (earlier ++ notices)

theorem yields_mapM {work : α → Reporting ε β} {result : α → Except ε β} (yields : ∀ a, (work a).Yields (result a))
    (group : List α) : (group.mapM work).Yields (group.mapM result) := by
  induction group with
  | nil => exact yields_pure []
  | cons a rest ih =>
    rw [List.mapM_cons, List.mapM_cons]
    exact (yields a).bind fun b => ih.bind fun bs => yields_pure (b :: bs)

theorem yields_mapM_ok {work : α → Reporting ε β} {value : α → β} (yields : ∀ a, (work a).Yields (.ok (value a)))
    (group : List α) : (group.mapM work).Yields (.ok (group.map value)) := by
  have whole := yields_mapM yields group
  have values : group.mapM (fun a => (.ok (value a) : Except ε β)) = .ok (group.map value) := List.mapM_pure
  rwa [values] at whole

/-- A value, unless there is an error. -/
def valueUnless (error : Option ε) (value : α) : Except ε α :=
  match error with
  | some error => .error error
  | none => .ok value

theorem valueUnless_bind (first : Option ε) (second : α → Option ε) (value : α) (final : α → β) :
    (valueUnless first value >>= fun a => valueUnless (second a) (final a)) =
      valueUnless (first.or (second value)) (final value) := by
  cases first <;> rfl

/-- Work on a group comes to its end if nothing in the group is an obstacle. -/
theorem mapM_valueUnless (obstacle : α → Option ε) (value : α → β) (group : List α) :
    group.mapM (fun a => valueUnless (obstacle a) (value a)) = valueUnless (group.findSome? obstacle) (group.map value) := by
  induction group with
  | nil => rfl
  | cons a rest ih =>
    rw [List.mapM_cons, ih, List.findSome?_cons]
    cases obstacle a with
    | some error => rfl
    | none => cases rest.findSome? obstacle <;> rfl

end Reporting

/-! ## Discovery -/

open Reporting

theorem SourceLanguage.ofName?_name (language : SourceLanguage) : ofName? language.name = some language := by
  cases language <;> rfl

theorem Discovery.yields_search (tree : Node) (path : Path) (language : String) (includeTests : Bool) :
    (search tree path language includeTests).Yields (do
      let folder ← folderAt tree path
      match SourceLanguage.ofName? language with
      | none => .error (.unsupported language)
      | some language => .ok (files tree folder language includeTests).1) := by
  refine (yields_lift _).bind fun folder => ?_
  cases SourceLanguage.ofName? language with
  | none => exact yields_throw _
  | some language => exact Yields.report (yields_pure (files tree folder language includeTests).1) _

theorem Discovery.exists_of_search_ok {tree : Node} {path : Path} {language : String} {includeTests : Bool}
    {found : List SourceFile} (searched : (search tree path language includeTests).outcome.1 = .ok found) :
    ∃ folder spoken, SourceLanguage.ofName? language = some spoken ∧ found = (files tree folder spoken includeTests).1 := by
  rw [(yields_search tree path language includeTests).outcome] at searched
  cases folder : folderAt tree path with
  | error error => rw [folder] at searched; cases searched
  | ok place =>
    cases named : SourceLanguage.ofName? language with
    | none => rw [folder, named] at searched; cases searched
    | some spoken =>
      rw [folder, named] at searched
      exact ⟨place, spoken, rfl, (Except.ok.inj searched).symm⟩

/-! ## Packages -/

namespace Project

section Package

variable (tree : Node) (settings : Settings) (root : Path) (package : Package)

/-- The path of the folder of a package. -/
def folderOf (root : Path) (package : Package) : Path :=
  root.join (Path.ofText package.path)

/-- The source files of a package, none if it has no folder. -/
def sourceFiles : List SourceFile :=
  match Discovery.folderAt tree (folderOf root package) with
  | .ok folder => (Discovery.files tree folder package.language settings.includeTests).1
  | .error _ => []

/-- The module in a source file of a package, if the file can be read. -/
def moduleIn? (file : SourceFile) : Option Module :=
  let path := (folderOf root package).join file.relative
  match tree.read path.parts with
  | .ok bytes => some (moduleOf settings.registry package path.text file.moduleName (Text.sourceText bytes))
  | .error _ => none

/-- The modules of a package in the order of its files. -/
def modulesIn : List Module :=
  (sourceFiles tree settings root package).filterMap (moduleIn? tree settings root package)

/-- Why a package stops the work: its path cannot be followed. -/
def obstacle? (tree : Node) (root : Path) (package : Package) : Option BuildError :=
  match Discovery.folderAt tree (folderOf root package) with
  | .error (.unusable failure) => some (.unusable failure)
  | _ => none

theorem yields_packageModules :
    (packageModules tree settings root package).Yields (do
      let _ ← Discovery.folderAt tree (folderOf root package)
      .ok (modulesIn tree settings root package)) := by
  have found := Discovery.yields_search tree (folderOf root package) package.language.name settings.includeTests
  rw [SourceLanguage.ofName?_name] at found
  unfold modulesIn sourceFiles
  cases folder : Discovery.folderAt tree (folderOf root package) with
  | error error =>
    rw [folder] at found
    exact found.stop _
  | ok place =>
    rw [folder] at found
    dsimp only
    rw [List.filterMap_eq_flatMap_toList, List.flatMap]
    refine found.next (Yields.report ?_ _)
    refine Yields.next (yields_mapM_ok (fun file => ?_) _) (yields_pure (List.flatten _))
    unfold moduleIn?
    dsimp only [folderOf]
    cases tree.read ((root.join (Path.ofText package.path)).join file.relative).parts with
    | ok bytes => exact yields_pure _
    | error error => exact Yields.report (yields_pure []) _

variable {tree settings root package} in
theorem modulesIn_of_error {error : DiscoveryError} (folder : Discovery.folderAt tree (folderOf root package) = .error error) :
    modulesIn tree settings root package = [] := by
  unfold modulesIn sourceFiles
  rw [folder]
  rfl

theorem yields_modulesOrSkip :
    (modulesOrSkip tree settings root package).Yields
      (valueUnless (obstacle? tree root package) (modulesIn tree settings root package)) := by
  have whole := (yields_packageModules tree settings root package).outcome
  unfold modulesOrSkip
  rcases made : (packageModules tree settings root package).outcome with ⟨result, notices⟩
  rw [made] at whole
  refine Yields.report ?_ notices
  unfold obstacle?
  cases folder : Discovery.folderAt tree (folderOf root package) with
  | ok place =>
    rw [folder] at whole
    cases whole
    exact yields_pure _
  | error error =>
    rw [folder] at whole
    cases whole
    -- nothing is read without a folder, so a package that is skipped gives the same as one without files
    rw [modulesIn_of_error folder]
    cases error with
    | unusable failure => exact yields_throw _
    | noFolder path => exact Yields.report (yields_pure []) _
    | unsupported language => exact Yields.report (yields_pure []) _

end Package

/-! ## Projects -/

/-- The modules of some packages, package by package. -/
def modulesRead (tree : Node) (settings : Settings) (root : Path) (packages : List Package) : List Module :=
  packages.flatMap (modulesIn tree settings root)

theorem yields_library (tree : Node) (settings : Settings) (now : String) :
    (library tree settings now).Yields (do
      let root ← (tree.resolve settings.projectDir.parts).mapError (BuildError.unusable ⟨settings.projectDir, ·⟩)
      let packages ← (settings.registry.select settings.sources).mapError BuildError.registry
      valueUnless (packages.findSome? (obstacle? tree ⟨"/", root⟩))
        (Library.build settings.registry settings.includePrivate now (modulesRead tree settings ⟨"/", root⟩ packages)).1) := by
  refine (yields_lift _).bind fun root => (yields_lift _).bind fun packages => Yields.report ?_ _
  have modules := yields_mapM (yields_modulesOrSkip tree settings ⟨"/", root⟩) packages
  rw [mapM_valueUnless (obstacle? tree ⟨"/", root⟩)] at modules
  cases obstacle : packages.findSome? (obstacle? tree ⟨"/", root⟩) with
  | some error =>
    rw [obstacle] at modules
    exact modules.stop _
  | none =>
    rw [obstacle] at modules
    refine modules.next (Yields.report ?_ _)
    exact yields_pure _

/-- A library that was built has the modules of the packages that were asked for. -/
theorem exists_of_library_ok {tree : Node} {settings : Settings} {now : String} {result : Library}
    (built : (library tree settings now).outcome.1 = .ok result) :
    ∃ root packages, tree.resolve settings.projectDir.parts = .ok root ∧
      settings.registry.select settings.sources = .ok packages ∧
      result = (Library.build settings.registry settings.includePrivate now
        (modulesRead tree settings ⟨"/", root⟩ packages)).1 := by
  rw [(yields_library tree settings now).outcome] at built
  cases resolved : tree.resolve settings.projectDir.parts with
  | error error => rw [resolved] at built; cases built
  | ok root =>
    cases chosen : settings.registry.select settings.sources with
    | error error => rw [resolved, chosen] at built; cases built
    | ok packages =>
      simp only [resolved, chosen, Except.mapError, bind, Except.bind] at built
      refine ⟨root, packages, rfl, rfl, ?_⟩
      cases obstacle : packages.findSome? (obstacle? tree ⟨"/", root⟩) with
      | some error => rw [obstacle] at built; cases built
      | none =>
        rw [obstacle] at built
        exact (Except.ok.inj built).symm

end Project

end DeclIndex
