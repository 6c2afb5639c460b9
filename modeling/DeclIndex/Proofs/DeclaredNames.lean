import DeclIndex.Project
import DeclIndex.Proofs.AikenScan
import DeclIndex.Proofs.Modules
import DeclIndex.Proofs.TypeScriptPatterns
import DeclIndex.Proofs.TypeScriptScan

/-!
# The names of functions and constants

These names are read as identifiers in either language, and identifiers have no dots. So the key of a function or constant tells
its module and its name apart.
-/

namespace DeclIndex
open DeclIndex.Text

/-! ## Aiken -/

namespace Aiken

theorem spells_constantHead? {line : List Char} {head : ConstantHead} (read : constantHead? line = some head) :
    alphabet.Spells head.name := by
  obtain ⟨_, worded⟩ := exists_mem_of_mem_mul (mem_constantLine read)
  obtain ⟨_, spaced⟩ := exists_mem_of_mem_mul worded
  obtain ⟨_, named⟩ := exists_mem_of_mem_mul spaced
  exact spells_of_mem_captured named

theorem spells_of_mem_functions {origin : Origin} {text : String} {f : Function} (member : f ∈ (scan origin text).functions) :
    alphabet.Spells f.name.toList := by
  obtain ⟨front, line, below, length, _, introduced⟩ := introduced_of_mem ((Outline.mem_declarations (.function f)).mpr member)
  obtain ⟨head, read, rfl, _⟩ := introduced
  simpa [functionAt] using spells_functionHead? read

theorem spells_of_mem_constants {origin : Origin} {text : String} {c : Constant} (member : c ∈ (scan origin text).constants) :
    alphabet.Spells c.name.toList := by
  obtain ⟨front, line, below, length, _, introduced⟩ := introduced_of_mem ((Outline.mem_declarations (.constant c)).mpr member)
  obtain ⟨head, read, same⟩ := introduced
  cases same
  simpa [constantAt] using spells_constantHead? read

end Aiken

/-! ## TypeScript -/

namespace TypeScript

theorem spells_functionName? {text name : List Char} (read : functionName? text = some name) : alphabet.Spells name := by
  obtain ⟨_, spaced⟩ := exists_mem_of_mem_mul (functionName?_eq_some_iff.mp read)
  obtain ⟨_, starred⟩ := exists_mem_of_mem_mul spaced
  obtain ⟨_, named⟩ := exists_mem_of_mem_mul starred
  exact spells_of_mem_captured named

theorem spells_arrowName? {text name : List Char} (read : arrowName? text = some name) : alphabet.Spells name := by
  obtain ⟨_, spaced⟩ := exists_mem_of_mem_mul (arrowName?_eq_some_iff.mp read)
  obtain ⟨_, named⟩ := exists_mem_of_mem_mul spaced
  exact spells_of_mem_captured named

theorem spells_methodName? {text name : List Char} (read : methodName? text = some name) : alphabet.Spells name :=
  spells_of_mem_captured (methodName?_eq_some_iff.mp read)

theorem spells_functionHead? {line name : List Char} (read : functionHead? line = some name) : alphabet.Spells name := by
  obtain ⟨text, _, read⟩ := List.exists_of_findSome?_eq_some read
  cases function : functionName? text with
  | some _ => rw [function] at read; cases read; exact spells_functionName? function
  | none =>
    cases arrow : arrowName? text with
    | some _ => rw [function, arrow] at read; cases read; exact spells_arrowName? arrow
    | none => rw [function, arrow] at read; exact spells_methodName? read

theorem spells_constantHead? {line : List Char} {head : ConstantHead} (read : constantHead? line = some head) :
    alphabet.Spells head.name := by
  obtain ⟨_, worded⟩ := exists_mem_of_mem_mul (constantHead?_name_iff.mp ⟨head, read, rfl⟩)
  obtain ⟨_, spaced⟩ := exists_mem_of_mem_mul worded
  obtain ⟨_, named⟩ := exists_mem_of_mem_mul spaced
  exact spells_of_mem_captured named

theorem spells_of_mem_functions {source text : String} {f : Function} (member : f ∈ (scan source text).functions) :
    alphabet.Spells f.name.toList := by
  obtain ⟨front, line, below, length, _, introduced⟩ := introduced_of_mem ((Outline.mem_declarations (.function f)).mpr member)
  obtain ⟨name, read, rfl, _⟩ := introduced
  simpa [functionAt] using spells_functionHead? (Option.filter_eq_some_iff.mp read).1

theorem spells_of_mem_constants {source text : String} {c : Constant} (member : c ∈ (scan source text).constants) :
    alphabet.Spells c.name.toList := by
  obtain ⟨front, line, below, length, _, introduced⟩ := introduced_of_mem ((Outline.mem_declarations (.constant c)).mpr member)
  obtain ⟨head, read, rfl⟩ := Option.map_eq_some_iff.mp introduced.1
  simpa using spells_constantHead? read

end TypeScript

/-! ## Modules -/

theorem forall_mem_filters {α : Type} {holds : α → Prop} {group : List α} (all : ∀ a ∈ group, holds a) (keep : α → Bool) :
    ∀ a ∈ group.filter keep ++ group.filter fun a => !keep a, holds a := by
  intro a member
  rcases List.mem_append.mp member with kept | left
  · exact all a (List.mem_filter.mp kept).1
  · exact all a (List.mem_filter.mp left).1

/-- No function of a module, public or private, has a dot in its name. -/
def Module.PlainNames (m : Module) : Prop :=
  ∀ f ∈ m.functions ++ m.atoms, '.' ∉ f.name.toList

/-- No constant of a module, public or private, has a dot in its name. -/
def Module.PlainConstants (m : Module) : Prop :=
  ∀ c ∈ m.constants ++ m.privateConstants, '.' ∉ c.name.toList

/-- A module that was read from a file has plain names. -/
theorem Project.plainNames_moduleOf (registry : Registry) (package : Package) (path name content : String) :
    (moduleOf registry package path name content).PlainNames := by
  unfold moduleOf
  split
  · refine forall_mem_filters (fun f member => ?_) Function.isPublic
    exact (TypeScript.spells_of_mem_functions member).notMem (by decide) (by decide)
  · refine forall_mem_filters (fun f member => ?_) Function.isPublic
    exact (Aiken.spells_of_mem_functions member).notMem (by decide) (by decide)

theorem Project.plainConstants_moduleOf (registry : Registry) (package : Package) (path name content : String) :
    (moduleOf registry package path name content).PlainConstants := by
  unfold moduleOf
  split
  · refine forall_mem_filters (fun c member => ?_) Constant.isPublic
    exact (TypeScript.spells_of_mem_constants member).notMem (by decide) (by decide)
  · refine forall_mem_filters (fun c member => ?_) Constant.isPublic
    exact (Aiken.spells_of_mem_constants member).notMem (by decide) (by decide)

/-! ## Keys -/

theorem split_at_dot {front other name otherName : List Char} (plain : '.' ∉ name) (otherPlain : '.' ∉ otherName)
    (same : front ++ '.' :: name = other ++ '.' :: otherName) : front = other ∧ name = otherName := by
  rcases List.append_eq_append_iff.mp same with ⟨between, rfl, rest⟩ | ⟨between, rfl, rest⟩
  -- a dot further on would be in one of the names
  · cases between with
    | nil => simpa using rest
    | cons c more =>
      obtain ⟨_, rfl⟩ := List.cons_eq_cons.mp rest
      simp at plain
  · cases between with
    | nil => simpa [eq_comm] using rest
    | cons c more =>
      obtain ⟨_, rfl⟩ := List.cons_eq_cons.mp rest
      simp at otherPlain

theorem Module.keyFor_right_inj {m : Module} {declared other : String} (same : m.keyFor declared = m.keyFor other) :
    declared = other := by
  have joined : m.key ++ "." ++ declared = m.key ++ "." ++ other := same
  exact (String.append_right_inj _).mp joined

/-- A key tells the module and the name apart where names have no dots. -/
theorem Module.keyFor_inj {m other : Module} {name otherName : String} (plain : '.' ∉ name.toList)
    (otherPlain : '.' ∉ otherName.toList) (same : m.keyFor name = other.keyFor otherName) :
    m.key = other.key ∧ name = otherName := by
  have texts : m.key.toList ++ '.' :: name.toList = other.key.toList ++ '.' :: otherName.toList := by
    simpa [Module.keyFor, String.toList_append] using congrArg String.toList same
  obtain ⟨keys, names⟩ := split_at_dot plain otherPlain texts
  exact ⟨String.toList_inj.mp keys, String.toList_inj.mp names⟩

/-- No two modules have a key in common, if what they declare has plain names. -/
theorem Library.apart_declared {α : Type} {modules : List Module} {name : α → String} {part : Module → List α}
    (distinct : (modules.map Module.key).Nodup) (plain : ∀ m ∈ modules, ∀ d ∈ part m, '.' ∉ (name d).toList) :
    modules.Pairwise (Apart (declared name part)) := by
  refine (List.pairwise_map.mp distinct).imp_of_mem fun {m n} inFirst inSecond differ key first second => differ ?_
  simp only [declared, List.map_map, List.mem_map, Function.comp_apply] at first second
  obtain ⟨d, ofFirst, rfl⟩ := first
  obtain ⟨e, ofSecond, same⟩ := second
  exact (Module.keyFor_inj (plain m inFirst d ofFirst) (plain n inSecond e ofSecond) same.symm).1

end DeclIndex
