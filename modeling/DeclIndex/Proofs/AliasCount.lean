import DeclIndex.Proofs.Aliases
import DeclIndex.Proofs.DeclaredNames
import DeclIndex.Proofs.ReExportingLines

/-!
# How many aliases are recorded

The alias pass of a package counts a naming each time it covers a function, but a function gets an alias that it has already only
once. So the pass never counts less than is recorded, and it counts more exactly where some function is given an alias twice: by an
aggregator that is named twice, or by two lines of one aggregator that export one name.
-/

namespace DeclIndex
open DeclIndex.Text

/-! ## Lines that refer to a function -/

/-- Whether a re-exporting line refers to the function under a key. -/
def ReExport.refersTo (line : ReExport) (key : String) (f : Function) : Bool :=
  occurs line.module key.toList && String.ofList line.function == f.name

/-- The alias that a re-exporting line of an aggregator gives. -/
def ReExport.alias (aggregator : String) (line : ReExport) : String :=
  aggregator ++ "." ++ String.ofList line.exported

theorem dot_notMem_exported {content : String} {r : ReExport} (member : r ∈ (reExports content).values) :
    '.' ∉ r.exported := by
  obtain ⟨⟨target, same⟩, inside, rfl⟩ := List.mem_map.mp member
  have written := (Table.lastEntries_sublist _).subset ((Table.perm_lastEntries _).mem_iff.mp inside)
  obtain ⟨read, there, same⟩ := List.mem_map.mp written
  obtain ⟨line, _, found⟩ := List.mem_filterMap.mp there
  cases same
  obtain ⟨value, head, _⟩ := Aiken.constantHead?_of_reExportLine? found
  exact (Aiken.spells_constantHead? head).notMem (by decide) (by decide)

theorem ReExport.alias_inj {aggregator other : String} {line later : ReExport} (plain : '.' ∉ line.exported)
    (otherPlain : '.' ∉ later.exported) (same : line.alias aggregator = later.alias other) :
    aggregator = other ∧ line.exported = later.exported := by
  have texts : aggregator.toList ++ '.' :: line.exported = other.toList ++ '.' :: later.exported := by
    simpa [ReExport.alias] using congrArg String.toList same
  obtain ⟨first, second⟩ := split_at_dot plain otherPlain texts
  exact ⟨String.toList_inj.mp first, second⟩

namespace Library

/-- The lines of an aggregator that refer to the function under a key. -/
def referring (library : Library) (source key : String) (f : Function) (aggregator : String) : List ReExport :=
  ((library.modules.get? (Module.keyOf source aggregator)).elim [] fun m => (reExports m.content).values).filter
    (·.refersTo key f)

/-- No alias is given twice to the function under a key: an aggregator that refers to it is named once, and no two of its lines that
do so export one name. -/
structure NamedOnce (library : Library) (source : String) (aggregators : List String) (key : String) (f : Function) : Prop where
  aggregator : ∀ aggregator ∈ aggregators, library.referring source key f aggregator ≠ [] → aggregators.count aggregator = 1
  exported : ∀ aggregator ∈ aggregators, ((library.referring source key f aggregator).map (·.exported)).Nodup

/-- How many aliases a function of a package has; those of other packages count for nothing. -/
def ownAliases (source : String) (f : Function) : Nat :=
  if f.source = source then f.aliases.length else 0

/-- How many aliases the functions of a package have in a library. -/
def aliasTotal (library : Library) (source : String) : Nat :=
  (library.functions.values.map (ownAliases source)).sum + (library.atoms.values.map (ownAliases source)).sum

/-! ## One function -/

theorem names_namings (library : Library) (source : String) (aggregators : List String) (key : String) (f : Function) :
    ((library.namings source aggregators).filter (·.covers key f)).map (·.name) =
      aggregators.flatMap fun aggregator => (library.referring source key f aggregator).map (·.alias aggregator) := by
  rw [namings, List.filter_flatMap, List.map_flatMap]
  congr 1
  funext aggregator
  rw [referring]
  cases library.modules.get? (Module.keyOf source aggregator) with
  | none => rfl
  | some m =>
    have covered : (Naming.covers · key f) ∘ (fun line : ReExport =>
        ⟨line.module, String.ofList line.function, line.alias aggregator⟩) = (·.refersTo key f) := by
      funext line
      rw [Function.comp_apply, Bool.eq_iff_iff, Naming.covers_iff, ReExport.refersTo, Bool.and_eq_true, beq_iff_eq]
    change (((reExports m.content).values.map fun line : ReExport =>
      (⟨line.module, String.ofList line.function, line.alias aggregator⟩ : Naming)).filter (·.covers key f)).map (·.name) = _
    rw [List.filter_map, covered, List.map_map]
    rfl

theorem length_eraseDups (names : List String) :
    names.eraseDups.length ≤ names.length ∧ (names.length = names.eraseDups.length ↔ names.Nodup) := by
  induction names using List.reverseRecOn with
  | nil => simp
  | append_singleton names name ih =>
    obtain ⟨fewer, equal⟩ := ih
    rw [eraseDups_concat, List.length_append, List.length_singleton, List.nodup_append]
    by_cases known : name ∈ names
    · rw [if_pos known]
      refine ⟨by omega, fun same => absurd same (by omega), fun ⟨_, _, apart⟩ => ?_⟩
      exact absurd rfl (apart name known name List.mem_cons_self)
    · rw [if_neg known, List.length_append, List.length_singleton, Nat.add_right_cancel_iff, equal]
      refine ⟨by omega, fun distinct => ⟨distinct, List.nodup_singleton name, fun other member last final => ?_⟩, And.left⟩
      rw [List.mem_singleton.mp final]
      rintro rfl
      exact known member

/-- Entries with a property do not repeat exactly if each is there once. -/
theorem pairwise_iff_count {wanted : String → Prop} {group : List String} :
    group.Pairwise (fun a b => a = b → ¬ wanted a) ↔ ∀ a ∈ group, wanted a → group.count a = 1 := by
  induction group with
  | nil => simp
  | cons first rest ih =>
    rw [List.pairwise_cons, ih]
    constructor
    · rintro ⟨alone, others⟩ a member isWanted
      by_cases same : first = a
      · subst same
        have absent : first ∉ rest := fun inside => alone first inside rfl isWanted
        rw [List.count_cons_self, List.count_eq_zero.mpr absent]
      · rw [List.count_cons_of_ne same]
        exact others a ((List.mem_cons.mp member).resolve_left (Ne.symm same)) isWanted
    · intro once
      refine ⟨fun b inside same isWanted => ?_, fun a inside isWanted => ?_⟩
      · have counted := once first List.mem_cons_self isWanted
        have there := List.count_pos_iff.mpr (same ▸ inside)
        rw [List.count_cons_self] at counted
        omega
      · have counted := once a (List.mem_cons_of_mem _ inside) isWanted
        have there := List.count_pos_iff.mpr inside
        rw [List.count_cons] at counted
        omega

section Names

variable {library : Library} {source key : String} {f : Function} {aggregator other : String}

theorem dot_notMem_of_referring {line : ReExport} (member : line ∈ library.referring source key f aggregator) :
    '.' ∉ line.exported := by
  obtain ⟨inside, _⟩ := List.mem_filter.mp member
  cases found : library.modules.get? (Module.keyOf source aggregator) with
  | none =>
    rw [found] at inside
    cases inside
  | some m =>
    rw [found] at inside
    exact dot_notMem_exported inside

theorem nodup_aliases_iff :
    ((library.referring source key f aggregator).map (·.alias aggregator)).Nodup ↔
      ((library.referring source key f aggregator).map (·.exported)).Nodup := by
  have injective : Function.Injective fun exported : List Char => aggregator ++ "." ++ String.ofList exported := by
    intro first second same
    exact String.ofList_injective ((String.append_right_inj _).mp same)
  rw [← List.nodup_map_iff injective, List.map_map]
  rfl

/-- Two aggregators give a function no alias in common, unless they are one that refers to it. -/
theorem disjoint_aliases_iff :
    List.Disjoint ((library.referring source key f aggregator).map (·.alias aggregator))
        ((library.referring source key f other).map (·.alias other)) ↔
      (aggregator = other → ¬ library.referring source key f aggregator ≠ []) := by
  constructor
  · rintro disjoint rfl nonempty
    obtain ⟨line, member⟩ := List.exists_mem_of_ne_nil _ nonempty
    have given := List.mem_map_of_mem (f := (·.alias aggregator)) member
    exact disjoint given given
  · intro apart name first second
    obtain ⟨line, member, rfl⟩ := List.mem_map.mp first
    obtain ⟨later, memberToo, same⟩ := List.mem_map.mp second
    obtain ⟨one, _⟩ :=
      ReExport.alias_inj (dot_notMem_of_referring member) (dot_notMem_of_referring memberToo) same.symm
    exact apart one (List.ne_nil_of_mem member)

/-- The aliases that some aggregators give a function do not repeat exactly if none is given twice. -/
theorem nodup_names_iff {aggregators : List String} :
    (((library.namings source aggregators).filter (·.covers key f)).map (·.name)).Nodup ↔
      library.NamedOnce source aggregators key f := by
  have apart : aggregators.Pairwise (Function.onFun List.Disjoint fun aggregator =>
        (library.referring source key f aggregator).map (·.alias aggregator)) ↔
      ∀ aggregator ∈ aggregators, library.referring source key f aggregator ≠ [] → aggregators.count aggregator = 1 := by
    rw [← pairwise_iff_count]
    exact List.Pairwise.iff fun _ _ => disjoint_aliases_iff
  rw [names_namings, List.nodup_flatMap, apart]
  simp only [nodup_aliases_iff]
  exact ⟨fun ⟨exported, aggregator⟩ => ⟨aggregator, exported⟩, fun once => ⟨once.exported, once.aggregator⟩⟩

end Names

/-- The pass counts a function for each naming that covers it, which is how many aliases it gets exactly if none is given twice. -/
theorem ownAliases_rename (library : Library) (source : String) (aggregators : List String) (key : String) (f : Function) :
    let namings := library.namings source aggregators
    let counted := if f.source = source then namings.filter (·.covers key f) else []
    ownAliases source (rename source namings key f) ≤ counted.length ∧
      (counted.length = ownAliases source (rename source namings key f) ↔
        (f.source = source → library.NamedOnce source aggregators key f)) := by
  intro namings counted
  by_cases own : f.source = source
  · have renamed : ownAliases source (rename source namings key f) =
        ((namings.filter (·.covers key f)).map (·.name)).eraseDups.length := by
      rw [rename, if_pos own, foldl_annotate, ownAliases, if_pos own]
    have sized : counted.length = ((namings.filter (·.covers key f)).map (·.name)).length := by
      rw [List.length_map]
      simp only [counted, if_pos own]
    obtain ⟨fewer, equal⟩ := length_eraseDups ((namings.filter (·.covers key f)).map (·.name))
    rw [renamed, sized, equal, nodup_names_iff]
    exact ⟨fewer, fun once _ => once, fun once => once own⟩
  · have nothing : counted = [] := if_neg own
    rw [rename, if_neg own, ownAliases, if_neg own, nothing]
    exact ⟨Nat.le_refl 0, fun _ ownToo => absurd ownToo own, fun _ => rfl⟩

/-! ## All functions -/

theorem sum_map_eq_iff {α : Type} {part whole : α → Nat} {group : List α} (fewer : ∀ a, part a ≤ whole a) :
    (group.map part).sum ≤ (group.map whole).sum ∧
      ((group.map whole).sum = (group.map part).sum ↔ ∀ a ∈ group, whole a = part a) := by
  induction group with
  | nil => simp
  | cons a rest ih =>
    obtain ⟨fewerRest, equalRest⟩ := ih
    have fewerHere := fewer a
    rw [List.map_cons, List.map_cons, List.sum_cons, List.sum_cons, List.forall_mem_cons, ← equalRest]
    omega

/-- The same for all functions of a table together. -/
theorem aliases_map_rename (library : Library) (source : String) (aggregators : List String) (table : Table Function) :
    let namings := library.namings source aggregators
    let recorded := ((table.map (rename source namings)).values.map (ownAliases source)).sum
    recorded ≤ countNamings source namings table ∧ (countNamings source namings table = recorded ↔
      ∀ key f, (key, f) ∈ table.entries → f.source = source → library.NamedOnce source aggregators key f) := by
  intro namings recorded
  have entrywise : recorded =
      (table.entries.map fun entry => ownAliases source (rename source namings entry.1 entry.2)).sum := by
    simp only [recorded, Table.values, Table.map, List.map_map]
    rfl
  obtain ⟨fewer, equal⟩ := @sum_map_eq_iff _ _ _ table.entries fun entry =>
    (ownAliases_rename library source aggregators entry.1 entry.2).1
  rw [countNamings, List.length_flatMap, entrywise]
  refine ⟨fewer, equal.trans ⟨fun same key f member => ?_, fun once entry member => ?_⟩⟩
  · exact (ownAliases_rename library source aggregators key f).2.mp (same (key, f) member)
  · exact (ownAliases_rename library source aggregators entry.1 entry.2).2.mpr (once entry.1 entry.2 member)

/-- The alias pass of a package counts at least as many aliases as its functions have afterwards, and as many exactly if none of them
is given an alias twice. -/
theorem recordAliases_count_iff (library : Library) (source : String) (aggregators : List String) :
    let pass := library.recordAliases source aggregators
    pass.1.aliasTotal source ≤ pass.2 ∧ (pass.2 = pass.1.aliasTotal source ↔
      ∀ key f, (key, f) ∈ library.functions.entries ++ library.atoms.entries → f.source = source →
        library.NamedOnce source aggregators key f) := by
  intro pass
  obtain ⟨fewer, equal⟩ := aliases_map_rename library source aggregators library.functions
  obtain ⟨fewerAtoms, equalAtoms⟩ := aliases_map_rename library source aggregators library.atoms
  simp only [pass, recordAliases, changeFunctions, aliasTotal]
  refine ⟨Nat.add_le_add fewer fewerAtoms, ?_⟩
  have both : ∀ {a b c d : Nat}, b ≤ a → d ≤ c → (a + c = b + d ↔ a = b ∧ c = d) := by omega
  rw [both fewer fewerAtoms, equal, equalAtoms]
  constructor
  · rintro ⟨inFunctions, inAtoms⟩ key f member
    rcases List.mem_append.mp member with isPublic | isPrivate
    · exact inFunctions key f isPublic
    · exact inAtoms key f isPrivate
  · intro once
    refine ⟨fun key f member => ?_, fun key f member => ?_⟩
    · exact once key f (List.mem_append_left _ member)
    · exact once key f (List.mem_append_right _ member)

/-- A function, and a module that exports it twice under one name. -/
def twiceExported : Library :=
  let package : Package := { id := "vodka", name := "Vodka", path := "packages/aiken-vodka/lib" }
  (build Registry.default true "2024"
    [Project.moduleOf Registry.default package "lib/int_math.ak" "int_math" "pub fn add(a: Int) -> Int \x7b\n  a\n\x7d\n",
      Project.moduleOf Registry.default package "lib/cocktail.ak" "cocktail"
        "pub const plus = int_math.add\npub const plus = math.add\n"]).1

/-- Two aliases are counted and one is recorded. -/
theorem count_above_aliases :
    (twiceExported.recordAliases "vodka" ["cocktail"]).2 = 2 ∧
      (twiceExported.recordAliases "vodka" ["cocktail"]).1.aliasTotal "vodka" = 1 := by
  decide +kernel

end Library
end DeclIndex
