import DeclIndex.Proofs.BlockComments
import DeclIndex.Proofs.DeclaredNames
import DeclIndex.Proofs.FunctionText
import DeclIndex.Proofs.Readers

/-!
# Exports in comments

A scan passes over block comments, but the exports of a file are looked for on all of its lines. A declaration is public if some
line exports its name, be it in a comment, and this is the only trace that comments leave: a scan that counts the exports outside of
comments finds the same declarations, and the same ones public exactly if no name of theirs is exported in comments alone.
-/

namespace DeclIndex
open DeclIndex.Text

/-! ## What is left of a text -/

namespace Text

theorem suffix_of_dropKeyword? {word : String} {text rest : List Char} (read : dropKeyword? word text = some rest) :
    rest <:+ text := by
  obtain ⟨behind, dropped, spaced⟩ := Option.bind_eq_some_iff.mp read
  have inText : behind <:+ text := ⟨_, append_of_dropFront? dropped⟩
  obtain ⟨_, rfl⟩ := dropBlanks?_eq_some spaced
  exact (List.dropWhile_suffix _).trans inText

theorem suffix_takeKeyword (word : String) (text : List Char) : (takeKeyword word text).2 <:+ text := by
  unfold takeKeyword
  split
  · next read => exact suffix_of_dropKeyword? read
  · exact List.suffix_rfl

theorem suffix_of_takeOneOf? {words : List String} {text rest : List Char} {word : String}
    (read : takeOneOf? words text = some (word, rest)) : rest <:+ text := by
  obtain ⟨other, _, read⟩ := List.exists_of_findSome?_eq_some read
  obtain ⟨left, read, same⟩ := Option.map_eq_some_iff.mp read
  cases same
  exact suffix_of_dropKeyword? read

end Text

/-! ## Names of types -/

theorem withoutGenerics_append {name generics : List Char} (plain : '<' ∉ name) (single : '\n' ∉ generics)
    (bracketed : generics = [] ∨ ∃ rest, generics = '<' :: rest) : withoutGenerics (name ++ generics) = name := by
  induction name with
  | nil =>
    rcases bracketed with rfl | ⟨rest, rfl⟩
    · rfl
    · have whole : rest.dropWhile (· != '\n') = [] :=
        List.dropWhile_eq_nil_iff.mpr (passes_of_notMem (mt (List.mem_cons_of_mem _) single))
      rw [List.nil_append, withoutGenerics, whole]
      rfl
  | cons c name ih =>
    rw [List.mem_cons, not_or] at plain
    obtain ⟨other, plainRest⟩ := plain
    have noBracket : c ≠ '<' := Ne.symm other
    rw [List.cons_append, withoutGenerics, ih plainRest]
    simp [noBracket]

namespace TypeScript

theorem generics_eq (text : List Char) :
    ((generics text).1 = [] ∨ ∃ rest, (generics text).1 = '<' :: rest) ∧ ∀ c ∈ (generics text).1, c ∈ text := by
  unfold generics
  split
  · next rest opened =>
    split
    · next inner left read =>
      refine ⟨Or.inr ⟨_, rfl⟩, fun c member => ?_⟩
      have inRest : inner ++ ['>'] ++ left = rest := by
        rw [List.append_assoc]
        exact (append_of_takeTo? read).2
      have inTrimmed : c ∈ trimLeft text := by
        rw [opened, ← inRest, ← List.cons_append]
        exact List.mem_append_left _ member
      exact (List.dropWhile_suffix _).subset inTrimmed
    · exact ⟨Or.inl rfl, by simp⟩
  · exact ⟨Or.inl rfl, by simp⟩

/-- The name of a type on one line, without its generic parameters, is the name in its head. -/
theorem withoutGenerics_typeHead? {line : List Char} {head : TypeHead} (single : '\n' ∉ line) (read : typeHead? line = some head) :
    withoutGenerics (head.name ++ head.generics) = head.name := by
  obtain ⟨⟨word, rest⟩, keyword, read⟩ := Option.bind_eq_some_iff.mp read
  obtain ⟨name, left, read, split, spelled⟩ := Alphabet.identThen?_eq_some read
  obtain ⟨_, same⟩ := Option.ite_none_right_eq_some.mp read
  cases same
  obtain ⟨bracketed, inLeft⟩ := generics_eq left
  have inLine : rest <:+ line :=
    ((suffix_of_takeOneOf? keyword).trans (suffix_takeKeyword "declare" _)).trans (suffix_takeKeyword "export" line)
  refine withoutGenerics_append (spelled.notMem (by decide) (by decide)) (fun feed => single (inLine.subset ?_)) bracketed
  rw [← split]
  exact List.mem_append_right _ (inLeft '\n' feed)

end TypeScript

/-! ## Visibility -/

/-- Whether a declaration is public. -/
def Declaration.isPublic : Declaration → Bool
  | .imported _ => false
  | .function f => f.isPublic
  | .type t => t.isPublic
  | .constant c => c.isPublic

/-- The name under which a declaration can be exported: that of a type without its generic parameters. -/
def Declaration.exportName? : Declaration → Option String
  | .imported _ => none
  | .function f => some f.name
  | .type t => some t.baseName
  | .constant c => some c.name

/-- A declaration that is public if its name is one of some names, all else unchanged. -/
def Declaration.reveal (names : List String) : Declaration → Declaration
  | .imported i => .imported i
  | .function f => .function { f with isPublic := names.contains f.name }
  | .type t => .type { t with isPublic := names.contains t.baseName }
  | .constant c => .constant { c with isPublic := names.contains c.name }

@[simp] theorem Declaration.exportName?_reveal (names : List String) (declaration : Declaration) :
    (declaration.reveal names).exportName? = declaration.exportName? := by
  cases declaration <;> rfl

theorem Declaration.isPublic_reveal (names : List String) (declaration : Declaration) :
    (declaration.reveal names).isPublic = declaration.exportName?.any names.contains := by
  cases declaration <;> rfl

@[simp] theorem Declaration.reveal_reveal (names others : List String) (declaration : Declaration) :
    (declaration.reveal others).reveal names = declaration.reveal names := by
  cases declaration <;> rfl

theorem Declaration.reveal_congr {names others : List String} {declaration : Declaration}
    (same : ∀ name, declaration.exportName? = some name → (name ∈ names ↔ name ∈ others)) :
    declaration.reveal names = declaration.reveal others := by
  cases declaration with
  | imported i => rfl
  | function f => simp [reveal, same f.name rfl]
  | type t => simp [reveal, same t.baseName rfl]
  | constant c => simp [reveal, same c.name rfl]

/-- A sighting of a declaration that is public if its name is one of some names. -/
def Sighting.reveal (names : List String) (s : Sighting) : Sighting :=
  { s with declaration := s.declaration.reveal names }

namespace TypeScript

/-- The exported names settle which declarations are public, and nothing else. -/
theorem declarationAt?_reveal {line : List Char} (single : '\n' ∉ line) (source : String) (names others : List String)
    (above below : List (List Char)) :
    declarationAt? source names above line below =
      (declarationAt? source others above line below).map fun (declaration, length) => (declaration.reveal names, length) := by
  unfold declarationAt?
  dsimp only
  split
  · rw [Option.map_map]
    rfl
  · split
    · next head read =>
      have named := withoutGenerics_typeHead? (fun feed => single (mem_of_mem_trim feed)) read
      simp [typeAt, Declaration.reveal, TypeDef.baseName, named]
    · split
      · simp [functionAt, Declaration.reveal]
      · rw [Option.map_map]
        unfold constantAt?
        rw [Option.map_map, Option.map_map]
        rfl

theorem sightingsFrom_reveal (source : String) (names others : List String) (inComment : Bool) (above : List (List Char))
    {group : List (List Char)} (single : ∀ line ∈ group, '\n' ∉ line) :
    sightingsFrom source names inComment above group =
      (sightingsFrom source others inComment above group).map (Sighting.reveal names) := by
  fun_induction sightingsFrom source others inComment above group with
  | case1 =>
    rw [sightingsFrom]
    rfl
  | case2 inComment above line below passed ih =>
    rw [sightingsFrom_comment passed]
    exact ih fun other member => single other (List.mem_cons_of_mem _ member)
  | case3 inComment above line below looked missing ih =>
    have missingToo : declarationAt? source names above line below = none := by
      rw [declarationAt?_reveal (single line List.mem_cons_self) source names others, missing, Option.map_none]
    rw [sightingsFrom_none looked missingToo]
    exact ih fun other member => single other (List.mem_cons_of_mem _ member)
  | case4 inComment above line below looked declaration length found ih =>
    have foundToo : declarationAt? source names above line below = some (declaration.reveal names, length) := by
      rw [declarationAt?_reveal (single line List.mem_cons_self) source names others, found, Option.map_some]
    rw [sightingsFrom_some looked foundToo, ih, List.map_cons, Sighting.reveal]
    exact fun other member => single other (List.mem_cons_of_mem _ (List.mem_of_mem_drop member))

/-! ## Exports outside of comments -/

/-- Some line outside of block comments exports a name. -/
def VisiblyExported (source text name : String) : Prop :=
  ∃ e ∈ exports source text.toList, e.name = name ∧ isCommented source text (e.line - 1) = false

instance (source text name : String) : Decidable (VisiblyExported source text name) :=
  inferInstanceAs (Decidable (∃ e ∈ exports source text.toList, _))

/-- The names that a file exports outside of block comments. -/
def visibleNames (source text : String) : List String :=
  ((exports source text.toList).filter fun e => !isCommented source text (e.line - 1)).map (·.name)

theorem mem_visibleNames {source text name : String} : name ∈ visibleNames source text ↔ VisiblyExported source text name := by
  simp only [visibleNames, VisiblyExported, List.mem_map, List.mem_filter, Bool.not_eq_true']
  exact exists_congr fun e => and_right_comm.trans and_assoc

/-- The outline of a file if exports in comments count for nothing. -/
def visibleOutline (source text : String) : Outline :=
  Outline.ofSightings (sightingsFrom source (visibleNames source text) false [] (lines text.toList))

theorem visibleOutline_eq (source text : String) :
    visibleOutline source text =
      Outline.ofSightings ((sightings source text.toList).map (Sighting.reveal (visibleNames source text))) := by
  rw [visibleOutline, sightings, ← sightingsFrom_reveal source _ _ false [] fun _ member => lineFeed_notMem_of_mem_lines member]

/-- The exports of a file tell which of its declarations are public. -/
theorem reveal_exports {source text : String} {s : Sighting} (member : s ∈ sightings source text.toList) :
    s.declaration.reveal ((exports source text.toList).map (·.name)) = s.declaration := by
  rw [sightings, sightingsFrom_reveal source _ [] false [] fun _ inside => lineFeed_notMem_of_mem_lines inside] at member
  obtain ⟨t, _, rfl⟩ := List.mem_map.mp member
  exact Declaration.reveal_reveal _ _ _

theorem isPublic_iff_exported {source text name : String} {declaration : Declaration}
    (member : declaration ∈ (scan source text).declarations) (named : declaration.exportName? = some name) :
    declaration.isPublic = true ↔ ∃ e ∈ exports source text.toList, e.name = name := by
  obtain ⟨s, seen, rfl⟩ := mem_ofSightings.mp member
  rw [← reveal_exports seen, Declaration.isPublic_reveal, named]
  simp

theorem isCommented_line {source text : String} {declaration : Declaration}
    (member : declaration ∈ (scan source text).declarations) : isCommented source text (declaration.line - 1) = false := by
  obtain ⟨s, seen, rfl⟩ := mem_ofSightings.mp member
  obtain ⟨front, line, below, length, _, found, place, _⟩ := mem_sightingsFrom seen
  have numbered := (declarationAt?_introduces found).line_eq
  have head : s.declaration.line - 1 = s.head := by
    simp only [List.append_nil, List.length_reverse] at numbered
    rw [List.length_nil] at place
    omega
  rw [head]
  exact isCommented_head seen

/-- No declaration begins in a comment, and one is public exactly if some line of the file exports its name, whether in a comment
or not. All public declarations of a file are exported outside of comments exactly if its outline is the one in which exports in
comments count for nothing. -/
theorem exportedOutsideComments_iff (source text : String) :
    (∀ declaration ∈ (scan source text).declarations, isCommented source text (declaration.line - 1) = false ∧
      ∀ name, declaration.exportName? = some name →
        (declaration.isPublic = true ↔ ∃ e ∈ exports source text.toList, e.name = name)) ∧
    ((∀ declaration ∈ (scan source text).declarations, ∀ name, declaration.exportName? = some name →
      declaration.isPublic = true → VisiblyExported source text name) ↔ scan source text = visibleOutline source text) := by
  refine ⟨fun declaration member => ⟨isCommented_line member, fun name => isPublic_iff_exported member⟩, ?_, ?_⟩
  · intro visible
    have same : ∀ s ∈ sightings source text.toList, s.reveal (visibleNames source text) = s := by
      intro s seen
      have member : s.declaration ∈ (scan source text).declarations := mem_ofSightings.mpr ⟨s, seen, rfl⟩
      have revealed : s.declaration.reveal (visibleNames source text) = s.declaration := by
        rw [← reveal_exports seen, Declaration.reveal_reveal]
        refine Declaration.reveal_congr fun name named => ?_
        rw [mem_visibleNames, List.mem_map, ← isPublic_iff_exported member named]
        refine ⟨?_, visible s.declaration member name named⟩
        rintro ⟨e, exported, same, _⟩
        exact (isPublic_iff_exported member named).mpr ⟨e, exported, same⟩
      rw [Sighting.reveal, revealed]
    rw [visibleOutline_eq, List.map_congr_left same, List.map_id', scan]
  · intro same declaration member name named isPublic
    rw [same, visibleOutline_eq] at member
    obtain ⟨s, seen, rfl⟩ := mem_ofSightings.mp member
    obtain ⟨t, _, rfl⟩ := List.mem_map.mp seen
    rw [Sighting.reveal, Declaration.exportName?_reveal] at named
    rw [Sighting.reveal, Declaration.isPublic_reveal, named] at isPublic
    exact mem_visibleNames.mp (by simpa using isPublic)

/-- A function that is exported in a comment alone. -/
def commentedOut : String :=
  "/*\nexport function total() \x7b\x7d\n*/\nfunction total(price: number) \x7b\n  return price;\n\x7d"

/-- The function is public, though no line outside of the comment exports it. -/
theorem isPublic_of_commentedOut :
    (scan "ts" commentedOut).functions.map (fun f => (f.name, f.isPublic)) = [("total", true)] ∧
      ¬ VisiblyExported "ts" commentedOut "total" := by
  decide +kernel

end TypeScript
end DeclIndex
