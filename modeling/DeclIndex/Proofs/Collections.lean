import DeclIndex.Library.Query
import DeclIndex.Proofs.Modules

/-!
# Collections as tables

Every collection of a library is one table, and modules are put into all of them alike: what a module declares for a collection
goes into its table under the keys it has in the module.
-/

namespace DeclIndex

namespace Collection

/-- Whether a collection holds private declarations. -/
def isPrivate (kind : Collection) : Bool :=
  kind = .atoms || kind = .privateTypes || kind = .privateConstants

/-- What a collection holds. -/
abbrev Value : Collection → Type
  | .modules => Module
  | .functions => Function
  | .atoms => Function
  | .types => TypeDef
  | .privateTypes => TypeDef
  | .constants => Constant
  | .privateConstants => Constant

end Collection

/-- The table of a collection. -/
def Library.tableOf (library : Library) : (kind : Collection) → Table kind.Value
  | .modules => library.modules
  | .functions => library.functions
  | .atoms => library.atoms
  | .types => library.types
  | .privateTypes => library.privateTypes
  | .constants => library.constants
  | .privateConstants => library.privateConstants

namespace Module
open Library (declared)

/-- What a module declares for a collection, with its keys. -/
def declaredFor (m : Module) : (kind : Collection) → List (String × kind.Value)
  | .modules => [(m.key, m)]
  | .functions => declared (·.name) (·.functions) m
  | .atoms => declared (·.name) (·.atoms) m
  | .types => declared (·.name) (·.types) m
  | .privateTypes => declared (·.name) (·.privateTypes) m
  | .constants => declared (·.name) (·.constants) m
  | .privateConstants => declared (·.name) (·.privateConstants) m

/-- What a module puts into the table of a collection. -/
def indexedFor (m : Module) (includePrivate : Bool) (kind : Collection) : List (String × kind.Value) :=
  if kind.isPrivate && !includePrivate then [] else m.declaredFor kind

/-- Declarations of a kind are left out in all modules or in none. -/
theorem indexedFor_eq {m : Module} {includePrivate : Bool} {kind : Collection} {entry : String × kind.Value}
    (member : entry ∈ m.indexedFor includePrivate kind) (other : Module) :
    other.indexedFor includePrivate kind = other.declaredFor kind := by
  unfold indexedFor at member ⊢
  split at member
  · cases member
  · next shown => rw [if_neg shown]

theorem mem_declaredFor {m : Module} {includePrivate : Bool} {kind : Collection} {entry : String × kind.Value}
    (member : entry ∈ m.indexedFor includePrivate kind) : entry ∈ m.declaredFor kind := by
  rwa [indexedFor_eq member m] at member

/-- The key of a declaration tells its module. -/
theorem key_eq_of_declared {α : Type} {name : α → String} {part : Module → List α} {m other : Module} {entry : String × α}
    (member : entry ∈ declared name part m) (memberToo : entry ∈ declared name part other) : m.key = other.key := by
  simp only [declared, List.mem_map] at member memberToo
  obtain ⟨d, _, rfl⟩ := member
  obtain ⟨e, _, same⟩ := memberToo
  obtain ⟨keys, rfl⟩ := Prod.mk.inj same
  exact (String.append_left_inj _).mp ((String.append_left_inj _).mp keys.symm)

theorem key_eq_of_declaredFor {m other : Module} {kind : Collection} {entry : String × kind.Value}
    (member : entry ∈ m.declaredFor kind) (memberToo : entry ∈ other.declaredFor kind) : m.key = other.key := by
  cases kind with
  | modules =>
    rw [declaredFor, List.mem_singleton] at member memberToo
    exact congrArg Prod.fst (member.symm.trans memberToo)
  | functions => exact key_eq_of_declared member memberToo
  | atoms => exact key_eq_of_declared member memberToo
  | types => exact key_eq_of_declared member memberToo
  | privateTypes => exact key_eq_of_declared member memberToo
  | constants => exact key_eq_of_declared member memberToo
  | privateConstants => exact key_eq_of_declared member memberToo

end Module

namespace Library

theorem tableOf_blank (lastUpdated : String) (sources : List String) (kind : Collection) :
    (blank lastUpdated sources).tableOf kind = .empty := by
  cases kind <;> rfl

/-- One more module puts what it declares into every table. -/
theorem tableOf_addModule (includePrivate : Bool) (library : Library) (m : Module) (kind : Collection) :
    (library.addModule includePrivate m).tableOf kind =
      (library.tableOf kind).insertAll (m.indexedFor includePrivate kind) := by
  cases kind <;> cases includePrivate <;> rfl

theorem tableOf_addModules (includePrivate : Bool) (library : Library) (modules : List Module) (kind : Collection) :
    (library.addModules includePrivate modules).tableOf kind =
      (library.tableOf kind).insertAll (modules.flatMap (·.indexedFor includePrivate kind)) := by
  induction modules generalizing library with
  | nil => rfl
  | cons m rest ih =>
    have first : library.addModules includePrivate (m :: rest) =
        (library.addModule includePrivate m).addModules includePrivate rest := rfl
    rw [first, ih, tableOf_addModule, List.flatMap_cons, Table.insertAll_append]

end Library

end DeclIndex
