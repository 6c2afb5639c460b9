import DeclIndex.Proofs.AikenScan
import DeclIndex.Proofs.HeadPatterns

/-!
# Lines above an Aiken file

What a scan finds does not depend on where in a file it stands. Lines that are put above a text move its declarations down and
change nothing else, as long as they begin no declaration and are no documentation. The search for documentation is the only part
of a scan that looks up, and it goes through such lines without picking up any of them.
-/

namespace DeclIndex
open DeclIndex.Text

/-! ## Moving down -/

/-- A declaration on a line further down, all else unchanged. -/
def Declaration.moveDown (count : Nat) : Declaration → Declaration
  | .imported i => .imported { i with line := i.line + count }
  | .function f => .function { f with line := f.line + count }
  | .type t => .type { t with line := t.line + count }
  | .constant c => .constant { c with line := c.line + count }

/-- A sighting that was read from lines further down. -/
def Sighting.moveDown (count : Nat) (s : Sighting) : Sighting :=
  ⟨s.head + count, s.last + count, s.declaration.moveDown count⟩

/-- An outline in which every line number is larger by `count`. -/
def Outline.moveDown (count : Nat) (outline : Outline) : Outline where
  imports := outline.imports.map fun i => { i with line := i.line + count }
  functions := outline.functions.map fun f => { f with line := f.line + count }
  types := outline.types.map fun t => { t with line := t.line + count }
  constants := outline.constants.map fun c => { c with line := c.line + count }

theorem filterMap_moveDown {α : Type} {pick : Sighting → Option α} {move : α → α} {count : Nat}
    (moves : ∀ s, pick (s.moveDown count) = (pick s).map move) (seen : List Sighting) :
    (seen.map (Sighting.moveDown count)).filterMap pick = (seen.filterMap pick).map move := by
  rw [List.filterMap_map, List.map_filterMap]
  exact congrArg (List.filterMap · seen) (funext moves)

theorem ofSightings_moveDown (count : Nat) (seen : List Sighting) :
    Outline.ofSightings (seen.map (Sighting.moveDown count)) = (Outline.ofSightings seen).moveDown count := by
  have imports : importsOf (seen.map (Sighting.moveDown count)) = (Outline.ofSightings seen |>.moveDown count).imports :=
    filterMap_moveDown (by rintro ⟨head, last, _ | _ | _ | _⟩ <;> rfl) seen
  have functions : functionsOf (seen.map (Sighting.moveDown count)) = (Outline.ofSightings seen |>.moveDown count).functions :=
    filterMap_moveDown (by rintro ⟨head, last, _ | _ | _ | _⟩ <;> rfl) seen
  have types : typesOf (seen.map (Sighting.moveDown count)) = (Outline.ofSightings seen |>.moveDown count).types :=
    filterMap_moveDown (by rintro ⟨head, last, _ | _ | _ | _⟩ <;> rfl) seen
  have constants : constantsOf (seen.map (Sighting.moveDown count)) = (Outline.ofSightings seen |>.moveDown count).constants :=
    filterMap_moveDown (by rintro ⟨head, last, _ | _ | _ | _⟩ <;> rfl) seen
  rw [Outline.ofSightings, imports, functions, types, constants]

/-- A text below some lines has its own lines below them. -/
theorem Text.lines_below {front : List String} (single : ∀ line ∈ front, '\n' ∉ line.toList) (text : String) :
    lines ("\n".intercalate (front ++ [text])).toList = front.map String.toList ++ lines text.toList := by
  induction front with
  | nil => rw [List.nil_append, String.intercalate_singleton, List.map_nil, List.nil_append]
  | cons line rest ih =>
    obtain ⟨singleLine, singleRest⟩ := List.forall_mem_cons.mp single
    have joined : ("\n".intercalate (line :: (rest ++ [text]))).toList =
        line.toList ++ '\n' :: ("\n".intercalate (rest ++ [text])).toList := by
      rw [String.intercalate_cons_of_ne_nil (by simp)]
      simp
    rw [List.cons_append, joined, lines, List.splitOn_append_cons_self_of_not_mem singleLine, ← lines, ih singleRest]
    rfl

theorem Text.dropFront?_eq_none {front : String} {text : List Char} (other : ¬ startsWith text front) :
    dropFront? front.toList text = none := by
  refine Option.eq_none_iff_forall_ne_some.mpr fun rest read => other ?_
  exact List.isPrefixOf_iff_prefix.mpr ⟨rest, append_of_dropFront? read⟩

namespace Aiken

/-! ## Inert lines -/

/-- A line that begins no declaration and is no documentation. A comment of four slashes or more is about the whole file. -/
def Inert (line : List Char) : Prop :=
  useHead? (trim line) = none ∧ functionHead? (trim line) = none ∧ typeHead? (trim line) = none ∧
    constantHead? (trim line) = none ∧ (startsWith (trim line) "///" → startsWith (trim line) "////")

instance (line : List Char) : Decidable (Inert line) :=
  inferInstanceAs (Decidable (_ ∧ _))

theorem Inert.head?_eq_none {line : List Char} (inert : Inert line) : head? (trim line) = none := by
  obtain ⟨use, function, type, constant, _⟩ := inert
  simp [head?, use, function, type, constant]

theorem Inert.docLines_cons {line : List Char} (inert : Inert line) (above : List (List Char)) :
    docLines (line :: above) = [] ∨ docLines (line :: above) = docLines above := by
  obtain ⟨_, _, _, _, wholeFile⟩ := inert
  rw [docLines]
  split
  · exact Or.inl rfl
  · next notWhole =>
    rw [dropFront?_eq_none fun begins => notWhole (wholeFile begins)]
    dsimp only
    split
    · exact Or.inr rfl
    · exact Or.inl rfl

theorem docLines_inert {rest : List (List Char)} (inert : ∀ line ∈ rest, Inert line) : docLines rest = [] := by
  induction rest with
  | nil => rfl
  | cons line rest ih =>
    obtain ⟨inertLine, inertRest⟩ := List.forall_mem_cons.mp inert
    rcases inertLine.docLines_cons rest with ends | further
    · exact ends
    · rw [further, ih inertRest]

/-- Documentation is not looked for beyond inert lines, and none of them is taken for it. -/
theorem docLines_append {rest : List (List Char)} (inert : ∀ line ∈ rest, Inert line) (above : List (List Char)) :
    docLines (above ++ rest) = docLines above := by
  induction above with
  | nil => exact docLines_inert inert
  | cons line above ih =>
    rw [List.cons_append, docLines, docLines, ih]

/-! ## One declaration -/

section Step

variable {origin : Origin} {rest : List (List Char)}

theorem functionAt_append (inert : ∀ line ∈ rest, Inert line) (source : String) (above : List (List Char)) (head : FunctionHead)
    (line : List Char) (below : List (List Char)) :
    Declaration.function (functionAt source (above ++ rest) head line below) =
      (Declaration.function (functionAt source above head line below)).moveDown rest.length := by
  have number : (above ++ rest).length + 1 = above.length + 1 + rest.length := by
    rw [List.length_append]
    omega
  simp only [functionAt, Declaration.moveDown, documentation?, docLines_append inert, number]

theorem typeAt?_add (source : String) (index count : Nat) (head : TypeHead) (line : List Char) (below : List (List Char)) :
    (typeAt? source (index + count) head line below).map (fun (type, length) => (Declaration.type type, length)) =
      (typeAt? source index head line below).map fun (type, length) => ((Declaration.type type).moveDown count, length) := by
  have number : index + count + 1 = index + 1 + count := by omega
  unfold typeAt?
  dsimp only
  split
  · rfl
  · simp only [Option.map_some, Declaration.moveDown, number]

theorem constantAt_add (reExports : Bool) (source : String) (index count : Nat) (head : ConstantHead) (line : List Char)
    (below : List (List Char)) :
    Declaration.constant (constantAt reExports source (index + count) head line below).1 =
      (Declaration.constant (constantAt reExports source index head line below).1).moveDown count := by
  have number : index + count + 1 = index + 1 + count := by omega
  simp only [constantAt, Declaration.moveDown, number]

/-- A line introduces the same declaration below inert lines, moved down by their number, and reads as many lines along. -/
theorem declarationAt?_append (inert : ∀ line ∈ rest, Inert line) (above : List (List Char)) (line : List Char)
    (below : List (List Char)) :
    declarationAt? origin (above ++ rest) line below =
      (declarationAt? origin above line below).map fun (declaration, length) => (declaration.moveDown rest.length, length) := by
  unfold declarationAt?
  dsimp only
  split
  · rfl
  · have number : above.length + rest.length + 1 = above.length + 1 + rest.length := by omega
    simp only [importAt, List.length_append, Option.map_some, Declaration.moveDown, number]
  · rw [functionAt_append inert]
    rfl
  · rw [List.length_append, typeAt?_add, Option.map_map]
    rfl
  · rw [List.length_append, constantAt_add]
    rfl

end Step

/-! ## The whole pass -/

/-- A pass below inert lines sees the same declarations further down. -/
theorem sightingsFrom_append {origin : Origin} {rest : List (List Char)} (inert : ∀ line ∈ rest, Inert line)
    (above group : List (List Char)) :
    sightingsFrom origin (above ++ rest) group = (sightingsFrom origin above group).map (Sighting.moveDown rest.length) := by
  fun_induction sightingsFrom origin above group with
  | case1 above =>
    rw [sightingsFrom]
    rfl
  | case2 above line below missing ih =>
    have missingToo : declarationAt? origin (above ++ rest) line below = none := by
      rw [declarationAt?_append inert, missing, Option.map_none]
    rw [sightingsFrom_none missingToo]
    exact ih
  | case3 above line below declaration length found ih =>
    have foundToo : declarationAt? origin (above ++ rest) line below = some (declaration.moveDown rest.length, length) := by
      rw [declarationAt?_append inert, found, Option.map_some]
    rw [List.append_assoc] at ih
    rw [sightingsFrom_some foundToo, ih, List.map_cons, Sighting.moveDown, List.length_append, Nat.add_right_comm]

/-- A pass goes over inert lines without seeing anything. -/
theorem sightingsFrom_inert {origin : Origin} {front : List (List Char)} (inert : ∀ line ∈ front, Inert line)
    (above group : List (List Char)) :
    sightingsFrom origin above (front ++ group) = sightingsFrom origin (front.reverse ++ above) group := by
  induction front generalizing above with
  | nil => rfl
  | cons line front ih =>
    obtain ⟨inertLine, inertFront⟩ := List.forall_mem_cons.mp inert
    have missing : declarationAt? origin above line (front ++ group) = none := by
      rw [declarationAt?, inertLine.head?_eq_none]
    rw [List.cons_append, sightingsFrom_none missing, ih inertFront, List.reverse_cons, List.append_assoc]
    rfl

/-- A text below lines that begin no declaration and are no documentation has the outline that it has alone, with every line
number larger by the number of those lines. -/
theorem scan_below (origin : Origin) (front : List String) (text : String)
    (inert : ∀ line ∈ front, '\n' ∉ line.toList ∧ Inert line.toList) :
    scan origin ("\n".intercalate (front ++ [text])) = (scan origin text).moveDown front.length := by
  have inertLines : ∀ line ∈ front.map String.toList, Inert line :=
    List.forall_mem_map.mpr fun line member => (inert line member).2
  have inertUp : ∀ line ∈ (front.map String.toList).reverse, Inert line :=
    fun line member => inertLines line (List.mem_reverse.mp member)
  have seen : sightings origin ("\n".intercalate (front ++ [text])).toList =
      (sightings origin text.toList).map (Sighting.moveDown front.length) := by
    rw [sightings, lines_below (fun line member => (inert line member).1), sightingsFrom_inert inertLines, List.append_nil]
    have below := @sightingsFrom_append origin _ inertUp [] (lines text.toList)
    rw [List.nil_append, List.length_reverse, List.length_map] at below
    exact below
  rw [scan, seen, ofSightings_moveDown, scan]

/-- The documentation of a function stays its own below the end of another one and a comment on the whole file. -/
theorem scan_below_documented :
    let front := ["  a + b", "\x7d", "//// Sums.", "", "// below"]
    let text := "\n/// Adds.\npub fn add(a: Int, b: Int) -> Int \x7b\n  a + b\n\x7d\nconst limit = 3"
    (∀ line ∈ front, '\n' ∉ line.toList ∧ Inert line.toList) ∧
      scan ⟨"stdlib", false⟩ ("\n".intercalate (front ++ [text])) = (scan ⟨"stdlib", false⟩ text).moveDown 5 ∧
      (scan ⟨"stdlib", false⟩ text).functions.map (fun f => (f.line, f.documentation)) = [(3, some "Adds.")] := by
  intro front text
  have inert : ∀ line ∈ front, '\n' ∉ line.toList ∧ Inert line.toList := by decide +kernel
  exact ⟨inert, scan_below ⟨"stdlib", false⟩ front text inert, by decide +kernel⟩

end Aiken
end DeclIndex
