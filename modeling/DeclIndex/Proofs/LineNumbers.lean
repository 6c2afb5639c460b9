import DeclIndex.Proofs.AikenScan
import DeclIndex.Proofs.HeadPatterns
import DeclIndex.Proofs.TypeScriptScan
import Mathlib.Data.List.Sort

/-!
# Line numbers

A scan numbers its declarations by the lines they begin on. A line begins one declaration at most, so the numbers sort the
declarations of a file: what a module keeps apart as public and private can be put together again by them.
-/

namespace DeclIndex
open DeclIndex.Text

/-! ## Outlines -/

/-- An outline whose declarations are numbered by the lines of a file with `count` lines. -/
structure Outline.Numbered (count : Nat) (outline : Outline) : Prop where
  imports : (outline.imports.map (·.line)).Pairwise (· < ·)
  functions : (outline.functions.map (·.line)).Pairwise (· < ·)
  types : (outline.types.map (·.line)).Pairwise (· < ·)
  constants : (outline.constants.map (·.line)).Pairwise (· < ·)
  inside : ∀ declaration ∈ outline.declarations, 1 ≤ declaration.line ∧ declaration.line ≤ count
  /-- No two declarations have one number, of whatever kinds they are. -/
  apart : (outline.declarations.map (·.line)).Nodup

/-- Sightings in the order of their lines, each numbered by its line. -/
structure InOrder (count : Nat) (seen : List Sighting) : Prop where
  increasing : (seen.map (·.declaration.line)).Pairwise (· < ·)
  inside : ∀ s ∈ seen, 1 ≤ s.declaration.line ∧ s.declaration.line ≤ count

theorem pairwise_pick {α : Type} {seen : List Sighting} {pick : Sighting → Option α} {number : α → Nat}
    (increasing : (seen.map (·.declaration.line)).Pairwise (· < ·))
    (numbers : ∀ s a, pick s = some a → number a = s.declaration.line) :
    ((seen.filterMap pick).map number).Pairwise (· < ·) := by
  rw [List.pairwise_map, List.pairwise_filterMap]
  refine (List.pairwise_map.mp increasing).imp fun below a picked b pickedToo => ?_
  rwa [numbers _ a picked, numbers _ b pickedToo]

theorem InOrder.numbered {count : Nat} {seen : List Sighting} (order : InOrder count seen) :
    (Outline.ofSightings seen).Numbered count where
  imports := pairwise_pick order.increasing (by grind [Declaration.line])
  functions := pairwise_pick order.increasing (by grind [Declaration.line])
  types := pairwise_pick order.increasing (by grind [Declaration.line])
  constants := pairwise_pick order.increasing (by grind [Declaration.line])
  inside := by
    intro declaration member
    obtain ⟨s, inSeen, rfl⟩ := mem_ofSightings.mp member
    exact order.inside s inSeen
  apart := by
    rw [((perm_declarations seen).map _).nodup_iff, List.map_map]
    exact order.increasing.imp fun below => Nat.ne_of_lt below

/-- A pass that reads lines one after the other sees declarations in order. -/
theorem inOrder_of_readFrom {read : LineReader} {group : List (List Char)} {seen : List Sighting}
    (numbers : ∀ above line below declaration length, read above line below = some (declaration, length) →
      declaration.line = above.length + 1)
    (fromLines : ∀ s ∈ seen, ReadFrom read [] group s) (apart : seen.Pairwise fun s t => s.last < t.head) :
    InOrder group.length seen := by
  have numbered : ∀ s ∈ seen, s.declaration.line = s.head + 1 := by
    intro s member
    obtain ⟨front, line, below, length, _, found, place, _⟩ := fromLines s member
    rw [numbers _ _ _ _ _ found, place, List.length_append, List.length_reverse, Nat.add_comm front.length]
  constructor
  · rw [List.pairwise_map]
    refine apart.imp_of_mem fun {s t} first second below => ?_
    rw [numbered s first, numbered t second]
    have forward := (fromLines s first).head_le_last
    omega
  · intro s member
    have inside := (fromLines s member).head_inside
    rw [List.length_nil] at inside
    rw [numbered s member]
    omega

/-! ## Modules -/

/-- Whether one declaration is no further down than another, by their numbers. -/
def byLine {α : Type} (number : α → Nat) (a b : α) : Bool :=
  decide (number a ≤ number b)

theorem merge_filter {α : Type} {group : List α} {number : α → Nat} (increasing : (group.map number).Pairwise (· < ·))
    (keep : α → Bool) : (group.filter keep).merge (group.filter fun a => !keep a) (byLine number) = group := by
  have above : group.Pairwise fun a b => number a < number b := List.pairwise_map.mp increasing
  have sorted : group.Pairwise fun a b => byLine number a b = true :=
    above.imp fun below => decide_eq_true (Nat.le_of_lt below)
  have same : ∀ a ∈ group, ∀ b ∈ group, number a = number b → a = b :=
    List.inj_on_of_nodup_map (increasing.imp fun below => Nat.ne_of_lt below)
  have perm : ((group.filter keep).merge (group.filter fun a => !keep a) (byLine number)).Perm group :=
    (List.merge_perm_append _).trans (List.filter_append_perm keep group)
  refine perm.eq_of_pairwise (fun a b inMerge inGroup le ge => ?_) ?_ sorted
  · exact same a (perm.mem_iff.mp inMerge) b inGroup (Nat.le_antisymm (of_decide_eq_true le) (of_decide_eq_true ge))
  · refine List.pairwise_merge (fun a b c first second => ?_) (fun a b => ?_) _ _ (sorted.filter _) (sorted.filter _)
    · exact decide_eq_true (Nat.le_trans (of_decide_eq_true first) (of_decide_eq_true second))
    · rw [Bool.or_eq_true]
      exact (Nat.le_total (number a) (number b)).imp decide_eq_true decide_eq_true

/-- The public and the private declarations of a module, put together by their lines, are those of an outline. -/
structure Module.MergesTo (m : Module) (outline : Outline) : Prop where
  functions : m.functions.merge m.atoms (byLine (·.line)) = outline.functions
  types : m.types.merge m.privateTypes (byLine (·.line)) = outline.types
  constants : m.constants.merge m.privateConstants (byLine (·.line)) = outline.constants

theorem Outline.Numbered.mergesTo {count : Nat} {outline : Outline} (numbered : outline.Numbered count)
    (path name source content : String) (isAggregator : Bool) :
    (Module.ofOutline path name source content outline isAggregator).MergesTo outline :=
  ⟨merge_filter numbered.functions (·.isPublic), merge_filter numbered.types (·.isPublic),
    merge_filter numbered.constants (·.isPublic)⟩

/-! ## Scans -/

theorem Aiken.numbered_scan (origin : Origin) (text : String) :
    (scan origin text).Numbered (lines text.toList).length := by
  refine (@inOrder_of_readFrom (declarationAt? origin) _ _ ?_ ?_ ?_).numbered
  · exact fun above line below declaration length found => (declarationAt?_introduces found).line_eq
  · exact fun s member => mem_sightingsFrom member
  · exact sightingsFrom_pairwise origin [] (lines text.toList)

theorem TypeScript.numbered_scan (source text : String) :
    (scan source text).Numbered (lines text.toList).length := by
  refine (@inOrder_of_readFrom (declarationAt? source ((exports source text.toList).map (·.name))) _ _ ?_ ?_ ?_).numbered
  · exact fun above line below declaration length found => (declarationAt?_introduces found).line_eq
  · exact fun s member => mem_sightingsFrom member
  · exact sightingsFrom_pairwise

namespace Aiken

/-- A line matches the pattern of a declaration's kind, which captures its name, and says whether it is public. -/
def Begins (line : List Char) : Declaration → Prop
  | .imported i => line ∈ ImportLine i.module.toList
  | .function f => line ∈ FunctionLine f.isPublic f.name.toList ∧ (f.isPublic = true ↔ line ∈ PublicLine)
  | .type t => (∃ isOpaque, line ∈ TypeLine t.isPublic isOpaque t.name.toList) ∧ (t.isPublic = true ↔ line ∈ PublicLine)
  | .constant c => line ∈ ConstantLine c.isPublic c.name.toList ∧ (c.isPublic = true ↔ line ∈ PublicLine)

theorem begins_of_introduces {origin : Origin} {above below : List (List Char)} {line : List Char} {length : Nat}
    {declaration : Declaration} (introduced : Introduces origin above line below length declaration) :
    Begins (trim line) declaration := by
  cases declaration with
  | imported i =>
    obtain ⟨head, read, rfl, _⟩ := introduced
    simpa [Begins, importAt] using mem_importLine read
  | function f =>
    obtain ⟨head, read, rfl, _⟩ := introduced
    have matched := mem_functionLine read
    refine ⟨?_, isPublic_iff_of_functionLine matched⟩
    simpa [functionAt] using matched
  | type t =>
    obtain ⟨head, read, typed⟩ := introduced
    have matched := mem_typeLine read
    unfold typeAt? at typed
    dsimp only at typed
    split at typed
    · cases typed
    · cases typed
      refine ⟨⟨head.isOpaque, ?_⟩, isPublic_iff_of_typeLine matched⟩
      simpa using matched
  | constant c =>
    obtain ⟨head, read, same⟩ := introduced
    have matched := mem_constantLine read
    cases same
    refine ⟨?_, isPublic_iff_of_constantLine matched⟩
    simpa using matched

theorem begins_of_mem {origin : Origin} {text : String} {declaration : Declaration}
    (member : declaration ∈ (scan origin text).declarations) :
    ∃ line, (lines text.toList)[declaration.line - 1]? = some line ∧ Begins (trim line) declaration := by
  obtain ⟨front, line, below, length, split, introduced⟩ := introduced_of_mem member
  refine ⟨line, ?_, begins_of_introduces introduced⟩
  rw [introduced.line_eq, split]
  simp

end Aiken

/-- Both scanners number declarations by their lines, a module loses none of them, and an Aiken declaration is what its line
says. -/
theorem scan_lineNumbers (origin : Aiken.Origin) (source path name text : String) (isAggregator : Bool) :
    (Aiken.scan origin text).Numbered (lines text.toList).length ∧
    (TypeScript.scan source text).Numbered (lines text.toList).length ∧
    (Aiken.module origin path name text isAggregator).MergesTo (Aiken.scan origin text) ∧
    (TypeScript.module source path name text).MergesTo (TypeScript.scan source text) ∧
    ∀ declaration ∈ (Aiken.scan origin text).declarations,
      ∃ line, (lines text.toList)[declaration.line - 1]? = some line ∧ Aiken.Begins (trim line) declaration := by
  refine ⟨Aiken.numbered_scan origin text, TypeScript.numbered_scan source text, ?_, ?_, ?_⟩
  · exact (Aiken.numbered_scan origin text).mergesTo path name origin.source text isAggregator
  · exact (TypeScript.numbered_scan source text).mergesTo path name source text false
  · exact fun declaration member => Aiken.begins_of_mem member

theorem scan_lineNumbers_publicFunction :
    let text := "use aiken/list\n\npub fn add(a: Int, b: Int) -> Int \x7b\n  a + b\n\x7d\n\nconst limit = 3"
    ∃ declaration ∈ (Aiken.scan ⟨"stdlib", false⟩ text).declarations, declaration.line = 3 ∧
      ∃ line, (lines text.toList)[2]? = some line ∧ Aiken.Begins (trim line) declaration := by
  intro text
  let declaration := (Aiken.scan ⟨"stdlib", false⟩ text).declarations.get ⟨1, by decide +kernel⟩
  have member : declaration ∈ (Aiken.scan ⟨"stdlib", false⟩ text).declarations := List.get_mem _ _
  have third : declaration.line = 3 := by decide +kernel
  have begins := (scan_lineNumbers ⟨"stdlib", false⟩ "ts" "math.ak" "math" text false).2.2.2.2 declaration member
  rw [third] at begins
  exact ⟨declaration, member, third, begins⟩

end DeclIndex
