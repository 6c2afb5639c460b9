import DeclIndex.Proofs.Sightings
import DeclIndex.TypeScript.Scan

/-!
# What a scan of a TypeScript file reads

Every declaration comes from a line of the file, outside of block comments, and from the lines that a type takes along. Each line is
looked at once at most.
-/

namespace DeclIndex.TypeScript
open DeclIndex.Text

/-! ## One step -/

/-- What a line introduces, by the kind of the declaration, and how many lines below are read along. -/
def Introduces (source : String) (exported : List String) (above : List (List Char)) (line : List Char)
    (below : List (List Char)) (length : Nat) : Declaration → Prop
  | .imported i => importAt? source above.length line = some i ∧ length = 0
  | .function f => ∃ name, namedFunction? (trim line) = some name ∧ f = functionAt source exported above name line below ∧ length = 0
  | .type t => ∃ head, typeHead? (trim line) = some head ∧ (t, length) = typeAt source exported above.length head line below
  | .constant c => constantAt? source exported above.length line = some c ∧ length = 0

section Step

variable {source : String} {exported : List String} {above below : List (List Char)} {line : List Char}
  {declaration : Declaration} {length : Nat}

theorem declarationAt?_introduces
    (found : declarationAt? source exported above line below = some (declaration, length)) :
    Introduces source exported above line below length declaration := by
  unfold declarationAt? at found
  dsimp only at found
  split at found
  · obtain ⟨i, read, same⟩ := Option.map_eq_some_iff.mp found
    cases same
    exact ⟨read, rfl⟩
  · split at found
    · next head read => cases found; exact ⟨head, read, rfl⟩
    · split at found
      · next name read => cases found; exact ⟨name, read, rfl, rfl⟩
      · obtain ⟨c, read, same⟩ := Option.map_eq_some_iff.mp found
        cases same
        exact ⟨read, rfl⟩

theorem Introduces.line_eq (introduced : Introduces source exported above line below length declaration) :
    declaration.line = above.length + 1 := by
  cases declaration with
  | imported i =>
    obtain ⟨head, _, rfl⟩ := Option.map_eq_some_iff.mp introduced.1
    rfl
  | function f =>
    obtain ⟨name, _, rfl, _⟩ := introduced
    rfl
  | type t =>
    obtain ⟨head, _, same⟩ := introduced
    cases same
    rfl
  | constant c =>
    obtain ⟨head, _, rfl⟩ := Option.map_eq_some_iff.mp introduced.1
    rfl

end Step

section Step

variable {source : String} {exported : List String} {inComment : Bool} {above below : List (List Char)} {line : List Char}

theorem sightingsFrom_comment (passed : inComment || startsWith (trim line) "/*") :
    sightingsFrom source exported inComment above (line :: below) =
      sightingsFrom source exported (!endsComment line) (line :: above) below := by
  rw [sightingsFrom, if_pos passed]

theorem sightingsFrom_none (looked : ¬ (inComment || startsWith (trim line) "/*"))
    (missing : declarationAt? source exported above line below = none) :
    sightingsFrom source exported inComment above (line :: below) =
      sightingsFrom source exported false (line :: above) below := by
  rw [sightingsFrom, if_neg looked, missing]

theorem sightingsFrom_some {declaration : Declaration} {length : Nat} (looked : ¬ (inComment || startsWith (trim line) "/*"))
    (found : declarationAt? source exported above line below = some (declaration, length)) :
    sightingsFrom source exported inComment above (line :: below) =
      ⟨above.length, above.length + length, declaration⟩ ::
        sightingsFrom source exported false ((line :: below.take length).reverse ++ above) (below.drop length) := by
  rw [sightingsFrom, if_neg looked, found]

end Step

/-! ## The whole pass -/

section Pass

variable {source : String} {exported : List String} {inComment : Bool} {above group : List (List Char)}

/-- Every declaration was read from a line of the file. -/
theorem mem_sightingsFrom {s : Sighting} (member : s ∈ sightingsFrom source exported inComment above group) :
    ReadFrom (declarationAt? source exported) above group s := by
  fun_induction sightingsFrom source exported inComment above group with
  | case1 => cases member
  | case2 _ _ _ _ _ ih => exact (ih member).below_line
  | case3 _ _ _ _ _ _ ih => exact (ih member).below_line
  | case4 _ above line below _ declaration length found ih =>
    rcases List.mem_cons.mp member with rfl | later
    · exact .here found
    · exact (ih later).below_taken

/-- Declarations do not overlap. -/
theorem sightingsFrom_pairwise :
    (sightingsFrom source exported inComment above group).Pairwise fun s t => s.last < t.head := by
  fun_induction sightingsFrom source exported inComment above group with
  | case1 => exact List.Pairwise.nil
  | case2 _ _ _ _ _ ih => exact ih
  | case3 _ _ _ _ _ _ ih => exact ih
  | case4 _ above line below _ declaration length found ih =>
    refine List.pairwise_cons.mpr ⟨fun t member => ?_, ih⟩
    exact (mem_sightingsFrom member).lt_head

/-- A declaration that begins on the first of some lines was read there, outside of any comment, and all others come behind it. -/
theorem sightingsFrom_first {below : List (List Char)} {line : List Char} {s : Sighting}
    (member : s ∈ sightingsFrom source exported inComment above (line :: below)) (here : s.head = above.length) :
    ¬ (inComment || startsWith (trim line) "/*") ∧ ∃ length, s.last = s.head + length ∧
      sightingsFrom source exported inComment above (line :: below) =
        s :: sightingsFrom source exported false ((line :: below.take length).reverse ++ above) (below.drop length) := by
  have beyond : ∀ state, s ∉ sightingsFrom source exported state (line :: above) below := by
    intro state later
    have inside := (mem_sightingsFrom later).head_inside
    rw [List.length_cons] at inside
    omega
  by_cases passed : inComment || startsWith (trim line) "/*"
  · rw [sightingsFrom_comment passed] at member
    exact absurd member (beyond _)
  · refine ⟨passed, ?_⟩
    cases found : declarationAt? source exported above line below with
    | none =>
      rw [sightingsFrom_none passed found] at member
      exact absurd member (beyond _)
    | some sighted =>
      obtain ⟨declaration, length⟩ := sighted
      rw [sightingsFrom_some passed found] at member ⊢
      rcases List.mem_cons.mp member with rfl | later
      · exact ⟨length, rfl, rfl⟩
      · have behind := (mem_sightingsFrom later).lt_head
        omega

end Pass

/-- What a scan finds was introduced by a line of the file. -/
theorem introduced_of_mem {source text : String} {declaration : Declaration}
    (member : declaration ∈ (scan source text).declarations) :
    ∃ front line below length, lines text.toList = front ++ line :: below ∧
      Introduces source ((exports source text.toList).map (·.name)) front.reverse line below length declaration := by
  obtain ⟨s, seen, rfl⟩ := mem_ofSightings.mp member
  obtain ⟨front, line, below, length, split, found, _, _⟩ := mem_sightingsFrom seen
  rw [List.append_nil] at found
  exact ⟨front, line, below, length, split, declarationAt?_introduces found⟩

end DeclIndex.TypeScript
