import DeclIndex.Declaration
import Mathlib.Data.List.Pairwise

/-!
# Sightings and the lines they come from

Both languages are scanned in one pass that looks at a line, emits what it introduces and goes on below the lines that were read
along. Here is what such a pass keeps, whatever the lines say.
-/

namespace DeclIndex

/-- The number of the line that a declaration is on. -/
def Declaration.line : Declaration → Nat
  | .imported i => i.line
  | .function f => f.line
  | .type t => t.line
  | .constant c => c.line

/-! ## The declarations of an outline -/

/-- All declarations of an outline, kind after kind. -/
def Outline.declarations (outline : Outline) : List Declaration :=
  outline.imports.map .imported ++ (outline.functions.map .function ++
    (outline.types.map .type ++ outline.constants.map .constant))

theorem Outline.mem_declarations {outline : Outline} (declaration : Declaration) :
    declaration ∈ outline.declarations ↔
      match declaration with
      | .imported i => i ∈ outline.imports
      | .function f => f ∈ outline.functions
      | .type t => t ∈ outline.types
      | .constant c => c ∈ outline.constants := by
  cases declaration <;> simp [Outline.declarations]

/-- Sorting sightings by kind loses none and repeats none. -/
theorem perm_declarations (seen : List Sighting) :
    (Outline.ofSightings seen).declarations.Perm (seen.map (·.declaration)) := by
  induction seen with
  | nil => exact .nil
  | cons s rest ih =>
    obtain ⟨head, last, declaration⟩ := s
    refine .trans ?_ (ih.cons declaration)
    -- the new declaration stands in front of its kind, behind those of the kinds before
    cases declaration with
    | imported i => exact .refl _
    | function f => exact List.perm_middle
    | type t => exact .trans (.append_left _ List.perm_middle) List.perm_middle
    | constant c =>
      exact .trans (.append_left _ (.trans (.append_left _ List.perm_middle) List.perm_middle)) List.perm_middle

theorem mem_ofSightings {seen : List Sighting} {declaration : Declaration} :
    declaration ∈ (Outline.ofSightings seen).declarations ↔ ∃ s ∈ seen, s.declaration = declaration := by
  rw [(perm_declarations seen).mem_iff, List.mem_map]

/-! ## Lines that sightings were read from -/

/-- Reads the declaration on a line, given the lines above it nearest first and those below it, and tells how many of the latter
are read along. -/
abbrev LineReader := List (List Char) → List Char → List (List Char) → Option (Declaration × Nat)

/-- A sighting was read from one of some lines, given the lines above them nearest first. -/
def ReadFrom (read : LineReader) (above group : List (List Char)) (s : Sighting) : Prop :=
  ∃ front line below length, group = front ++ line :: below ∧
    read (front.reverse ++ above) line below = some (s.declaration, length) ∧
    s.head = above.length + front.length ∧ s.last = s.head + length

namespace ReadFrom

variable {read : LineReader} {above below : List (List Char)} {line : List Char} {s : Sighting}

theorem here {declaration : Declaration} {length : Nat} (found : read above line below = some (declaration, length)) :
    ReadFrom read above (line :: below) ⟨above.length, above.length + length, declaration⟩ :=
  ⟨[], line, below, length, rfl, found, rfl, rfl⟩

theorem below_line (later : ReadFrom read (line :: above) below s) : ReadFrom read above (line :: below) s := by
  obtain ⟨front, head, rest, length, rfl, found, place, last⟩ := later
  refine ⟨line :: front, head, rest, length, rfl, ?_, ?_, last⟩
  · simpa using found
  · simp only [place, List.length_cons]
    omega

theorem below_taken {length : Nat}
    (later : ReadFrom read ((line :: below.take length).reverse ++ above) (below.drop length) s) :
    ReadFrom read above (line :: below) s := by
  obtain ⟨front, head, rest, further, split, found, place, last⟩ := later
  refine ⟨line :: below.take length ++ front, head, rest, further, ?_, ?_, ?_, last⟩
  · rw [List.cons_append, List.cons_append, List.append_assoc, ← split, List.take_append_drop]
  · simpa using found
  · simp only [place, List.length_append, List.length_reverse]
    omega

theorem head_le_last {group : List (List Char)} (seen : ReadFrom read above group s) : s.head ≤ s.last := by
  obtain ⟨_, _, _, length, _, _, _, last⟩ := seen
  omega

theorem head_inside {group : List (List Char)} (seen : ReadFrom read above group s) :
    above.length ≤ s.head ∧ s.head < above.length + group.length := by
  obtain ⟨front, head, rest, _, rfl, _, place, _⟩ := seen
  rw [List.length_append, List.length_cons]
  omega

/-- What comes below the lines that were read along begins beyond them. -/
theorem lt_head {length : Nat}
    (later : ReadFrom read ((line :: below.take length).reverse ++ above) (below.drop length) s) :
    above.length + length < s.head := by
  obtain ⟨first, past⟩ := later.head_inside
  simp only [List.length_append, List.length_reverse, List.length_cons, List.length_take, List.length_drop] at first past
  omega

end ReadFrom

/-- Of two sightings in a pass, one ends above the other. -/
theorem apart_of_pairwise {seen : List Sighting} (order : seen.Pairwise fun s t => s.last < t.head) {s t : Sighting}
    (first : s ∈ seen) (second : t ∈ seen) : s = t ∨ s.last < t.head ∨ t.last < s.head := by
  by_cases same : s = t
  · exact Or.inl same
  · have apart : seen.Pairwise fun s t => s.last < t.head ∨ t.last < s.head := order.imp Or.inl
    have symmetric : Std.Symm fun s t : Sighting => s.last < t.head ∨ t.last < s.head := ⟨fun _ _ => Or.symm⟩
    exact Or.inr (apart.forall first second same)

end DeclIndex
