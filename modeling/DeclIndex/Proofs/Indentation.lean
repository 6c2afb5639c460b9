import DeclIndex.Proofs.FunctionText
import DeclIndex.Proofs.Trimming

/-!
# Blanks around lines

A scan trims the lines that it reads, and where it looks at whole lines it looks for characters that are not blank. So every
decision is the same on trimmed lines, and a text with other indentation or with stray blanks behind its lines has the same
outline. Only the texts of functions and of their tests keep the blanks around their lines.
-/

namespace DeclIndex
open DeclIndex.Text

/-! ## Braces -/

namespace Bracket

theorem Depth.read?_blank {c : Char} (blank : isBlank c) (depth : Depth) (rest : List Char) :
    depth.read? (c :: rest) = depth.read? rest := by
  have noOpening : c ≠ '{' := by rintro rfl; exact absurd blank (by decide)
  have noClosing : c ≠ '}' := by rintro rfl; exact absurd blank (by decide)
  rw [Depth.read?, if_neg noOpening, if_neg noClosing]

theorem Depth.read?_blanks_append {front : List Char} (blank : ∀ c ∈ front, isBlank c) (depth : Depth) (text : List Char) :
    depth.read? (front ++ text) = depth.read? text := by
  induction front with
  | nil => rfl
  | cons c front ih =>
    obtain ⟨here, rest⟩ := List.forall_mem_cons.mp blank
    rw [List.cons_append, Depth.read?_blank here, ih rest]

theorem Depth.read?_append_blanks {back : List Char} (blank : ∀ c ∈ back, isBlank c) (depth : Depth) (text : List Char) :
    depth.read? (text ++ back) = depth.read? text := by
  induction text generalizing depth with
  | nil =>
    have whole := Depth.read?_blanks_append blank depth []
    rwa [List.append_nil] at whole
  | cons c text ih => simp only [List.cons_append, Depth.read?, ih]

theorem Depth.read?_trim (depth : Depth) (line : List Char) : depth.read? (trim line) = depth.read? line := by
  obtain ⟨front, back, inFront, inBack, split⟩ := exists_around_trim line
  have whole : depth.read? (front ++ (trim line ++ back)) = depth.read? (trim line) := by
    rw [Depth.read?_blanks_append inFront, Depth.read?_append_blanks inBack]
  rwa [← split, eq_comm] at whole

theorem closingLine?_trim (depth : Depth) (group : List (List Char)) :
    closingLine? depth (group.map trim) = closingLine? depth group := by
  induction group generalizing depth with
  | nil => rfl
  | cons line below ih => simp only [List.map_cons, closingLine?, Depth.read?_trim, ih]

theorem blockEnd?_trim (group : List (List Char)) : blockEnd? (group.map trim) = blockEnd? group :=
  closingLine?_trim {} group

theorem block?_trim (group : List (List Char)) : block? (group.map trim) = (block? group).map (List.map trim) := by
  simp [block?, blockEnd?_trim, Function.comp_def, List.map_take]

end Bracket

namespace Aiken

/-! ## Functions -/

theorem linesTo_trim {sought : Char} (visible : isBlank sought = false) (line : List Char) (below : List (List Char)) :
    linesTo sought (trim line) (below.map trim) = linesTo sought line below := by
  induction below generalizing line with
  | nil => rfl
  | cons next below ih => rw [List.map_cons, linesTo, linesTo, contains_trim visible, ih]

theorem signatureLength_trim (line : List Char) (below : List (List Char)) :
    signatureLength (trim line) (below.map trim) = signatureLength line below := by
  have toParen : linesTo ')' (trim line) (below.map trim) = linesTo ')' line below := linesTo_trim (by decide) line below
  have group : trim line :: below.map trim = (line :: below).map trim := rfl
  unfold signatureLength
  rw [trim_trim]
  dsimp only
  rw [toParen, group, ← List.map_drop]
  cases (line :: below).drop (linesTo ')' line below) with
  | nil => rfl
  | cons last beyond =>
    have toBrace : linesTo '{' (trim last) (beyond.map trim) = linesTo '{' last beyond := linesTo_trim (by decide) last beyond
    rw [List.map_cons]
    dsimp only
    rw [toBrace]

theorem signature_trim (group : List (List Char)) : signature (group.map trim) = signature group := by
  simp only [signature, List.map_map, Function.comp_def, trim_trim]

theorem docLines_trim (above : List (List Char)) : docLines (above.map trim) = docLines above := by
  induction above with
  | nil => rfl
  | cons line above ih => simp only [List.map_cons, docLines, trim_trim, ih]

theorem tests_trim_cons (name line : List Char) (below : List (List Char)) :
    tests name (trim line :: below.map trim) =
      match if isTestOf name (trim line) then Bracket.blockEnd? (line :: below) else none with
      | some last => ((line :: below).take (last + 1)).map trim :: tests name ((below.drop last).map trim)
      | none => if (functionHead? (trim line)).isSome then [] else tests name (below.map trim) := by
  have ends : Bracket.blockEnd? (trim line :: below.map trim) = Bracket.blockEnd? (line :: below) :=
    Bracket.blockEnd?_trim (line :: below)
  cases found : (if isTestOf name (trim line) then Bracket.blockEnd? (line :: below) else none) with
  | none => simp only [tests, trim_trim, ends, found]
  | some last => simp only [tests, trim_trim, ends, found, List.map_take, List.map_drop, List.map_cons]

theorem tests_trim (name : List Char) (group : List (List Char)) :
    tests name (group.map trim) = (tests name group).map (List.map trim) := by
  fun_induction tests name group with
  | case1 => rw [List.map_nil, tests, List.map_nil]
  | case2 line below last found ih =>
    rw [dite_eq_ite] at found
    rw [List.map_cons, tests_trim_cons, found]
    dsimp only
    rw [ih, List.map_cons]
  | case3 line below missing isFunction =>
    rw [dite_eq_ite] at missing
    rw [List.map_cons, tests_trim_cons, missing]
    dsimp only
    rw [if_pos isFunction, List.map_nil]
  | case4 line below missing noFunction ih =>
    rw [dite_eq_ite] at missing
    rw [List.map_cons, tests_trim_cons, missing]
    dsimp only
    rw [if_neg noFunction, ih]

/-! ## Types and constants -/

theorem gather_trim (wants : List Char → List Char → Bool) (text : List Char) (below : List (List Char)) :
    gather wants text (below.map trim) = gather wants text below := by
  induction below generalizing text with
  | nil => rfl
  | cons line below ih => simp only [List.map_cons, gather, trim_trim, ih]

theorem gatherBraced_trim (depth : Int) (text : List Char) (below : List (List Char)) :
    gatherBraced depth text (below.map trim) = gatherBraced depth text below := by
  induction below generalizing depth text with
  | nil => rfl
  | cons line below ih => simp only [List.map_cons, gatherBraced, trim_trim, ih]

theorem nextContent?_trim (below : List (List Char)) :
    nextContent? (below.map trim) =
      (nextContent? below).map fun (passed, text, beyond) => (passed, text, beyond.map trim) := by
  induction below with
  | nil => rfl
  | cons line below ih =>
    rw [List.map_cons, nextContent?, nextContent?, trim_trim]
    dsimp only
    split
    · rw [ih, Option.map_map, Option.map_map]
      rfl
    · rfl

theorem nextPlain?_trim (below : List (List Char)) :
    nextPlain? (below.map trim) =
      (nextPlain? below).map fun (passed, text, beyond) => (passed, text, beyond.map trim) := by
  rw [nextPlain?, nextContent?_trim, nextPlain?]
  cases nextContent? below with
  | none => rfl
  | some found =>
    obtain ⟨passed, text, beyond⟩ := found
    simp [Option.filter]

theorem typeDefinition_trim (body : List Char) (below : List (List Char)) :
    typeDefinition body (below.map trim) = typeDefinition body below := by
  have rest (text : List Char) (group : List (List Char)) : gatherAlias text (group.map trim) = gatherAlias text group :=
    gather_trim _ text group
  have braced (text : List Char) (group : List (List Char)) : gatherBody text (group.map trim) = gatherBody text group :=
    gatherBraced_trim _ text group
  unfold typeDefinition
  rw [nextPlain?_trim]
  cases nextPlain? below with
  | none => simp only [Option.map_none, rest, braced]
  | some found =>
    simp only [Option.map_some, rest, braced]
    split
    · next body =>
      cases trim body with
      | nil => exact congrArg (Gathered.shift _) (rest _ _)
      | cons => rfl
    · rfl
    · rfl

end Aiken

/-! ## Texts up to the blanks around their lines -/

/-- A text in which every line is trimmed. -/
def Text.trimLines (text : String) : String :=
  String.ofList (unlines ((lines text.toList).map trim))

/-- A function with the lines of its text and of its tests trimmed. -/
def Function.trimTexts (f : Function) : Function :=
  { f with implementation := f.implementation.map trimLines, tests := f.tests.map trimLines }

/-- A declaration with the lines of all texts that were cut out of the file trimmed. -/
def Declaration.trimTexts : Declaration → Declaration
  | .function f => .function f.trimTexts
  | other => other

def Sighting.trimTexts (s : Sighting) : Sighting :=
  { s with declaration := s.declaration.trimTexts }

def Outline.trimTexts (outline : Outline) : Outline :=
  { outline with functions := outline.functions.map Function.trimTexts }

theorem ofSightings_trimTexts (seen : List Sighting) :
    Outline.ofSightings (seen.map Sighting.trimTexts) = (Outline.ofSightings seen).trimTexts := by
  induction seen with
  | nil => rfl
  | cons s seen ih =>
    obtain ⟨head, last, declaration⟩ := s
    simp only [Outline.ofSightings, Outline.trimTexts, Outline.mk.injEq] at ih ⊢
    obtain ⟨imports, functions, types, constants⟩ := ih
    cases declaration <;>
      simp_all [importsOf, functionsOf, typesOf, constantsOf, Sighting.trimTexts, Declaration.trimTexts]

/-- Two texts have as many lines, which differ only in the blanks around them. -/
def Text.SameTrimmed (text other : String) : Prop :=
  (lines text.toList).map trim = (lines other.toList).map trim

instance : DecidableRel SameTrimmed :=
  fun text other => inferInstanceAs (Decidable ((lines text.toList).map trim = (lines other.toList).map trim))

/-- Two functions agree in everything but the blanks around the lines of their texts and of their tests. -/
structure Function.SameUpToBlanks (f g : Function) : Prop where
  others : { f with implementation := none, tests := [] } = { g with implementation := none, tests := [] }
  implementation : Option.Rel SameTrimmed f.implementation g.implementation
  tests : List.Forall₂ SameTrimmed f.tests g.tests

theorem Text.lines_trimLines (text : String) : lines (trimLines text).toList = (lines text.toList).map trim := by
  rw [trimLines, String.toList_ofList]
  refine lines_unlines (by simp [lines]) ?_
  intro line member feed
  obtain ⟨whole, inText, rfl⟩ := List.mem_map.mp member
  exact lineFeed_notMem_of_mem_lines inText (mem_of_mem_trim feed)

theorem Text.trimLines_eq_iff {text other : String} : trimLines text = trimLines other ↔ SameTrimmed text other := by
  constructor
  · intro same
    have group := congrArg (fun text : String => lines text.toList) same
    rwa [lines_trimLines, lines_trimLines] at group
  · intro same
    rw [trimLines, same, trimLines]

theorem forall₂_of_map_eq {α β : Type} {f : α → β} {group other : List α} (same : group.map f = other.map f) :
    List.Forall₂ (fun a b => f a = f b) group other := by
  have equal : List.Forall₂ (· = ·) (group.map f) (other.map f) := by rw [same, List.forall₂_eq_eq_eq]
  rwa [List.forall₂_map_left_iff, List.forall₂_map_right_iff] at equal

theorem Function.sameUpToBlanks_of_trimTexts {f g : Function} (same : f.trimTexts = g.trimTexts) : f.SameUpToBlanks g := by
  have texts : f.implementation.map trimLines = g.implementation.map trimLines := congrArg Function.implementation same
  have blocks : f.tests.map trimLines = g.tests.map trimLines := congrArg Function.tests same
  refine ⟨?_, ?_, ?_⟩
  · exact congrArg (fun f : Function => { f with implementation := none, tests := [] }) same
  · cases shown : f.implementation <;> cases shownToo : g.implementation <;>
      simp only [shown, shownToo, Option.map_some, Option.map_none, reduceCtorEq, Option.some.injEq] at texts
    · exact .none
    · exact .some (trimLines_eq_iff.mp texts)
  · exact (forall₂_of_map_eq blocks).imp fun text other => trimLines_eq_iff.mp

theorem Text.trimLines_unlines {group : List (List Char)} (nonempty : group ≠ []) (single : ∀ line ∈ group, '\n' ∉ line) :
    trimLines (String.ofList (unlines group)) = String.ofList (unlines (group.map trim)) := by
  rw [trimLines, String.toList_ofList, lines_unlines nonempty single]

namespace Aiken

/-! ## One line -/

theorem tests_mem {name : List Char} {group block : List (List Char)} (member : block ∈ tests name group) :
    block ≠ [] ∧ ∀ line ∈ block, line ∈ group := by
  fun_induction tests name group with
  | case1 => cases member
  | case2 line below last found ih =>
    rcases List.mem_cons.mp member with rfl | later
    · exact ⟨by simp, fun other inside => List.mem_of_mem_take inside⟩
    · obtain ⟨nonempty, inBelow⟩ := ih later
      exact ⟨nonempty, fun other inside => List.mem_cons_of_mem _ (List.mem_of_mem_drop (inBelow other inside))⟩
  | case3 => cases member
  | case4 line below missing noFunction ih =>
    obtain ⟨nonempty, inBelow⟩ := ih member
    exact ⟨nonempty, fun other inside => List.mem_cons_of_mem _ (inBelow other inside)⟩

section Step

variable {line : List Char} {below : List (List Char)}

theorem implementation_trim (single : ∀ other ∈ line :: below, '\n' ∉ other) :
    (Bracket.block? (trim line :: below.map trim)).map (fun group => String.ofList (unlines group)) =
      ((Bracket.block? (line :: below)).map fun group => String.ofList (unlines group)).map trimLines := by
  have whole := Bracket.block?_trim (line :: below)
  rw [List.map_cons] at whole
  rw [whole, Option.map_map, Option.map_map]
  refine Option.map_congr fun group closed => ?_
  -- a block is cut out of the lines, and has at least the line that it begins on
  obtain ⟨last, _, rfl⟩ := Option.map_eq_some_iff.mp closed
  refine (trimLines_unlines (by simp) fun other inside => ?_).symm
  exact single other (List.mem_of_mem_take inside)

theorem testTexts_trim {group : List (List Char)} (single : ∀ other ∈ group, '\n' ∉ other) (name : List Char) :
    (tests name (group.map trim)).map (fun group => String.ofList (unlines group)) =
      ((tests name group).map fun group => String.ofList (unlines group)).map trimLines := by
  rw [tests_trim, List.map_map, List.map_map]
  refine List.map_congr_left fun block member => ?_
  obtain ⟨nonempty, inside⟩ := tests_mem member
  exact (trimLines_unlines nonempty fun other inBlock => single other (inside other inBlock)).symm

theorem functionAt_trim (single : ∀ other ∈ line :: below, '\n' ∉ other) (source : String) (above : List (List Char))
    (head : FunctionHead) :
    functionAt source (above.map trim) head (trim line) (below.map trim) =
      (functionAt source above head line below).trimTexts := by
  have ends := Bracket.blockEnd?_trim (line :: below)
  have text : signature (trim line :: (below.map trim).take (signatureLength line below)) =
      signature (line :: below.take (signatureLength line below)) := by
    rw [← List.map_take, ← List.map_cons, signature_trim]
  have beyond : ∀ other ∈ below.drop ((Bracket.blockEnd? (line :: below)).getD 0), '\n' ∉ other :=
    fun other inside => single other (List.mem_cons_of_mem _ (List.mem_of_mem_drop inside))
  rw [List.map_cons] at ends
  simp only [functionAt, Function.trimTexts, signatureLength_trim, text, ends, documentation?, docLines_trim, List.length_map,
    implementation_trim single, ← List.map_drop, testTexts_trim beyond]

theorem typeAt?_trim (source : String) (index : Nat) (head : TypeHead) (line : List Char) (below : List (List Char)) :
    typeAt? source index head (trim line) (below.map trim) = typeAt? source index head line below := by
  simp only [typeAt?, typeDefinition_trim, trim_trim]

theorem constantAt_trim (reExports : Bool) (source : String) (index : Nat) (head : ConstantHead) (line : List Char)
    (below : List (List Char)) :
    constantAt reExports source index head (trim line) (below.map trim) =
      constantAt reExports source index head line below := by
  simp only [constantAt, gather_trim, trim_trim]

/-- Trimmed lines introduce the same declaration, with its texts trimmed, and as many lines are read along. -/
theorem declarationAt?_trim (origin : Origin) (single : ∀ other ∈ line :: below, '\n' ∉ other) (above : List (List Char)) :
    declarationAt? origin (above.map trim) (trim line) (below.map trim) =
      (declarationAt? origin above line below).map fun (declaration, length) => (declaration.trimTexts, length) := by
  unfold declarationAt?
  rw [trim_trim, List.length_map]
  dsimp only
  split
  · rfl
  · simp only [importAt, trim_trim, Option.map_some, Declaration.trimTexts]
  · rw [functionAt_trim single, signatureLength_trim]
    rfl
  · rw [typeAt?_trim, Option.map_map]
    rfl
  · rw [constantAt_trim]
    rfl

end Step

/-! ## The whole pass -/

/-- A pass over trimmed lines sees the same declarations on the same lines, with their texts trimmed. -/
theorem sightingsFrom_trim (origin : Origin) (above : List (List Char)) {group : List (List Char)} (single : ∀ line ∈ group, '\n' ∉ line) :
    sightingsFrom origin (above.map trim) (group.map trim) = (sightingsFrom origin above group).map Sighting.trimTexts := by
  fun_induction sightingsFrom origin above group with
  | case1 above =>
    rw [List.map_nil, sightingsFrom, List.map_nil]
  | case2 above line below missing ih =>
    have missingToo : declarationAt? origin (above.map trim) (trim line) (below.map trim) = none := by
      rw [declarationAt?_trim origin single, missing, Option.map_none]
    rw [List.map_cons, sightingsFrom_none missingToo]
    exact ih (List.forall_mem_cons.mp single).2
  | case3 above line below declaration length found ih =>
    have foundToo : declarationAt? origin (above.map trim) (trim line) (below.map trim) =
        some (declaration.trimTexts, length) := by
      rw [declarationAt?_trim origin single, found, Option.map_some]
    have beyond : ∀ other ∈ below.drop length, '\n' ∉ other :=
      fun other inside => single other (List.mem_cons_of_mem _ (List.mem_of_mem_drop inside))
    have later := ih beyond
    rw [List.map_append, List.map_reverse, List.map_cons, List.map_take, List.map_drop] at later
    rw [List.map_cons, sightingsFrom_some foundToo, later, List.length_map, List.map_cons, Sighting.trimTexts]

/-- Trimming every line of a text first gives the outline that the text has, with its texts trimmed. -/
theorem scan_trimLines (origin : Origin) (text : String) : scan origin (trimLines text) = (scan origin text).trimTexts := by
  have seen : sightings origin (trimLines text).toList = (sightings origin text.toList).map Sighting.trimTexts := by
    rw [sightings, lines_trimLines]
    exact sightingsFrom_trim origin [] fun line member => lineFeed_notMem_of_mem_lines member
  rw [scan, seen, ofSightings_trimTexts, scan]

/-- Two texts whose lines differ only in the blanks around them have the same outline, up to the blanks around the lines of what
was cut out of them: the texts of functions and of their tests. -/
theorem scan_reindented (origin : Origin) (text other : String) (same : SameTrimmed text other) :
    (scan origin text).imports = (scan origin other).imports ∧
      List.Forall₂ Function.SameUpToBlanks (scan origin text).functions (scan origin other).functions ∧
      (scan origin text).types = (scan origin other).types ∧
      (scan origin text).constants = (scan origin other).constants := by
  have outlines : (scan origin text).trimTexts = (scan origin other).trimTexts := by
    rw [← scan_trimLines, ← scan_trimLines, trimLines_eq_iff.mpr same]
  simp only [Outline.trimTexts, Outline.mk.injEq] at outlines
  obtain ⟨imports, functions, types, constants⟩ := outlines
  refine ⟨imports, ?_, types, constants⟩
  exact (forall₂_of_map_eq functions).imp fun f g trimmed => Function.sameUpToBlanks_of_trimTexts trimmed

/-- A documented function with a test, indented by tabs in one text and with carriage returns behind the lines of the other. -/
theorem scan_reindented_carriageReturns :
    let text := "/// Adds.\n\tpub fn add(\n\t\ta: Int,\n\t) -> Int \x7b\n\t\ta\n\t\x7d\ntest add_one() \x7b\n\tadd(1) == 1\n\x7d"
    let other :=
      "  /// Adds.\r\npub fn add(\r\n  a: Int,\r\n) -> Int \x7b\r\n  a\r\n\x7d\r\ntest add_one() \x7b\r\n  add(1) == 1\r\n\x7d\r"
    SameTrimmed text other ∧
      (scan ⟨"stdlib", false⟩ text).functions.map (fun f => (f.documentation, f.signature, f.implementation)) =
        [(some "Adds.", "pub fn add( a: Int, ) -> Int \x7b",
          some "\tpub fn add(\n\t\ta: Int,\n\t) -> Int \x7b\n\t\ta\n\t\x7d")] ∧
      (scan ⟨"stdlib", false⟩ other).functions.map (·.implementation) =
        [some "pub fn add(\r\n  a: Int,\r\n) -> Int \x7b\r\n  a\r\n\x7d\r"] ∧
      List.Forall₂ Function.SameUpToBlanks (scan ⟨"stdlib", false⟩ text).functions (scan ⟨"stdlib", false⟩ other).functions := by
  intro text other
  have same : SameTrimmed text other := by decide +kernel
  exact ⟨same, by decide +kernel, by decide +kernel, (scan_reindented ⟨"stdlib", false⟩ text other same).2.1⟩

end Aiken

end DeclIndex
