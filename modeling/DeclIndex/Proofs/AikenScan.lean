import DeclIndex.Aiken.Scan
import DeclIndex.Proofs.AikenHeads
import DeclIndex.Proofs.Sightings

/-!
# No declaration is lost in a scan

A type or constant reads lines below its head, but never one that begins another declaration. So every head of a file is looked
at, those in the signature of a function apart, and each gives one declaration in the outline.
-/

namespace DeclIndex
namespace Aiken
open DeclIndex.Text

/-! ## Lines that are read along -/

/-- None of some lines begins a declaration or a test. -/
def Plain (group : List (List Char)) : Prop :=
  ∀ line ∈ group, isHead (trim line) = false

theorem plain_nil : Plain [] := by
  simp [Plain]

theorem plain_cons {line : List Char} {group : List (List Char)} (noHead : isHead (trim line) = false)
    (rest : Plain group) : Plain (line :: group) :=
  List.forall_mem_cons.mpr ⟨noHead, rest⟩

theorem isHead_of_isEmpty {line : List Char} (blank : line.isEmpty) : isHead line = false := by
  rw [List.isEmpty_iff.mp blank]
  rfl

theorem plain_gather (wants : List Char → List Char → Bool) (text : List Char) (below : List (List Char)) :
    Plain (below.take (gather wants text below).length) := by
  induction below generalizing text with
  | nil => exact plain_nil
  | cons line below ih =>
    unfold gather
    dsimp only
    split
    · next blank =>
      split
      · next none =>
        rw [none]
        exact plain_nil
      · exact plain_cons (isHead_of_isEmpty blank) (ih text)
    · split
      · next wanted =>
        simp only [Bool.and_eq_true, Bool.not_eq_true'] at wanted
        exact plain_cons wanted.1 (ih _)
      · exact plain_nil

theorem plain_gatherBraced (depth : Int) (text : List Char) (below : List (List Char)) :
    Plain (below.take (gatherBraced depth text below).length) := by
  induction below generalizing depth text with
  | nil => exact plain_nil
  | cons line below ih =>
    unfold gatherBraced
    dsimp only
    split
    · exact plain_nil
    · next goesOn =>
      simp only [Bool.or_eq_true, not_or, Bool.not_eq_true] at goesOn
      split
      · exact plain_cons goesOn.2 (ih depth text)
      · exact plain_cons goesOn.2 (ih _ _)

/-- Only blank lines and comments are passed over on the way to the next content. -/
theorem nextContent?_eq {below beyond : List (List Char)} {passed : Nat} {text : List Char}
    (found : nextContent? below = some (passed, text, beyond)) :
    ∃ front line, below = front ++ line :: beyond ∧ front.length = passed ∧ trim line = text ∧ Plain front := by
  induction below generalizing passed with
  | nil => cases found
  | cons line below ih =>
    unfold nextContent? at found
    dsimp only at found
    split at found
    · next skipped =>
      obtain ⟨⟨before, rest⟩, deeper, same⟩ := Option.map_eq_some_iff.mp found
      cases same
      obtain ⟨front, content, rfl, rfl, trimmed, plain⟩ := ih deeper
      refine ⟨line :: front, content, rfl, rfl, trimmed, plain_cons ?_ plain⟩
      rcases Bool.or_eq_true_iff.mp skipped with blank | comment
      · exact isHead_of_isEmpty blank
      · exact isHead_of_isComment comment
    · cases found
      exact ⟨[], line, rfl, rfl, rfl, plain_nil⟩

theorem plain_nextPlain {below beyond : List (List Char)} {passed : Nat} {text : List Char} {gathered : Gathered}
    (found : nextPlain? below = some (passed, text, beyond)) (plain : Plain (beyond.take gathered.length)) :
    Plain (below.take (gathered.shift (passed + 1)).length) := by
  obtain ⟨content, noHead⟩ := Option.filter_eq_some_iff.mp found
  obtain ⟨front, line, rfl, rfl, rfl, plainFront⟩ := nextContent?_eq content
  have read : (front ++ line :: beyond).take (gathered.shift (front.length + 1)).length =
      front ++ line :: beyond.take gathered.length := by
    have reordered : gathered.length + (front.length + 1) = front.length + (gathered.length + 1) := by omega
    rw [Gathered.shift, reordered, List.take_length_add_append, List.take_succ_cons]
  rw [read]
  intro other member
  rcases List.mem_append.mp member with before | after
  · exact plainFront other before
  · exact plain_cons (by simpa using noHead) plain other after

theorem plain_typeDefinition (body : List Char) (below : List (List Char)) :
    Plain (below.take (typeDefinition body below).length) := by
  unfold typeDefinition
  split
  · split
    · next found => exact plain_nextPlain found (plain_gather _ _ _)
    · exact plain_gather _ _ _
  · exact plain_gatherBraced _ _ _
  · split
    · next found =>
      split
      · exact plain_nextPlain found (plain_gatherBraced _ _ _)
      · exact plain_nextPlain found (plain_gather _ _ _)
      · exact plain_nextPlain found (plain_gather _ _ _)
      · exact plain_nil
    · exact plain_nil

/-! ## One step -/

theorem typeAt?_some {source : String} {index length : Nat} {head : TypeHead} {line : List Char} {below : List (List Char)}
    {type : TypeDef} (typed : typeAt? source index head line below = some (type, length)) :
    type.line = index + 1 ∧ Plain (below.take length) := by
  unfold typeAt? at typed
  dsimp only at typed
  split at typed
  · cases typed
  · cases typed
    exact ⟨rfl, plain_typeDefinition _ _⟩

/-- What a line introduces, by the kind of the declaration, and how many lines below are read along. -/
def Introduces (origin : Origin) (above : List (List Char)) (line : List Char) (below : List (List Char)) (length : Nat) :
    Declaration → Prop
  | .imported i => ∃ head, useHead? (trim line) = some head ∧ i = importAt origin.source above.length head line ∧ length = 0
  | .function f => ∃ head, functionHead? (trim line) = some head ∧ f = functionAt origin.source above head line below ∧
      length = signatureLength line below
  | .type t => ∃ head, typeHead? (trim line) = some head ∧ typeAt? origin.source above.length head line below = some (t, length)
  | .constant c => ∃ head, constantHead? (trim line) = some head ∧
      (c, length) = constantAt origin.reExports origin.source above.length head line below

/-- How many lines a declaration reads along. For a function it is the rest of its signature, for anything else there is no
head on them. -/
def ReadsAlong (line : List Char) (below : List (List Char)) (length : Nat) : Declaration → Prop
  | .function _ => length = signatureLength line below
  | _ => Plain (below.take length)

section Step

variable {origin : Origin} {above below : List (List Char)} {line : List Char} {declaration : Declaration} {length : Nat}

theorem declarationAt?_introduces (found : declarationAt? origin above line below = some (declaration, length)) :
    Introduces origin above line below length declaration := by
  unfold declarationAt? at found
  dsimp only at found
  split at found
  · cases found
  · next head read => cases found; exact ⟨head, head?_eq_some_iff.mp read, rfl, rfl⟩
  · next head read => cases found; exact ⟨head, head?_eq_some_iff.mp read, rfl, rfl⟩
  · next head read =>
    obtain ⟨⟨type, taken⟩, typed, same⟩ := Option.map_eq_some_iff.mp found
    cases same
    exact ⟨head, head?_eq_some_iff.mp read, typed⟩
  · next head read => cases found; exact ⟨head, head?_eq_some_iff.mp read, rfl⟩

theorem declarationAt?_readsAlong (found : declarationAt? origin above line below = some (declaration, length)) :
    ReadsAlong line below length declaration := by
  have introduced := declarationAt?_introduces found
  cases declaration with
  | imported i =>
    obtain ⟨head, _, _, rfl⟩ := introduced
    exact plain_nil
  | function f =>
    obtain ⟨head, _, _, taken⟩ := introduced
    exact taken
  | type t =>
    obtain ⟨head, _, typed⟩ := introduced
    exact (typeAt?_some typed).2
  | constant c =>
    obtain ⟨head, _, same⟩ := introduced
    cases same
    exact plain_gather _ _ _

theorem Introduces.line_eq (introduced : Introduces origin above line below length declaration) :
    declaration.line = above.length + 1 := by
  cases declaration with
  | imported i =>
    obtain ⟨head, _, rfl, _⟩ := introduced
    rfl
  | function f =>
    obtain ⟨head, _, rfl, _⟩ := introduced
    rfl
  | type t =>
    obtain ⟨head, _, typed⟩ := introduced
    exact (typeAt?_some typed).1
  | constant c =>
    obtain ⟨head, _, same⟩ := introduced
    cases same
    rfl

end Step

theorem sightingsFrom_none {origin : Origin} {above below : List (List Char)} {line : List Char}
    (missing : declarationAt? origin above line below = none) :
    sightingsFrom origin above (line :: below) = sightingsFrom origin (line :: above) below := by
  rw [sightingsFrom, missing]

theorem sightingsFrom_some {origin : Origin} {above below : List (List Char)} {line : List Char} {declaration : Declaration}
    {length : Nat} (found : declarationAt? origin above line below = some (declaration, length)) :
    sightingsFrom origin above (line :: below) =
      ⟨above.length, above.length + length, declaration⟩ ::
        sightingsFrom origin ((line :: below.take length).reverse ++ above) (below.drop length) := by
  rw [sightingsFrom, found]

/-! ## The whole pass -/

/-- Every declaration was read from a line of the file. -/
theorem mem_sightingsFrom {origin : Origin} {above group : List (List Char)} {s : Sighting}
    (member : s ∈ sightingsFrom origin above group) : ReadFrom (declarationAt? origin) above group s := by
  fun_induction sightingsFrom origin above group with
  | case1 => cases member
  | case2 above line below missing ih => exact (ih member).below_line
  | case3 above line below declaration length found ih =>
    rcases List.mem_cons.mp member with rfl | later
    · exact .here found
    · exact (ih later).below_taken

/-- What a scan finds was introduced by a line of the file. -/
theorem introduced_of_mem {origin : Origin} {text : String} {declaration : Declaration}
    (member : declaration ∈ (scan origin text).declarations) :
    ∃ front line below length, lines text.toList = front ++ line :: below ∧
      Introduces origin front.reverse line below length declaration := by
  obtain ⟨s, seen, rfl⟩ := mem_ofSightings.mp member
  obtain ⟨front, line, below, length, split, found, _, _⟩ := mem_sightingsFrom seen
  rw [List.append_nil] at found
  exact ⟨front, line, below, length, split, declarationAt?_introduces found⟩

/-- Declarations do not overlap. -/
theorem sightingsFrom_pairwise (origin : Origin) (above group : List (List Char)) :
    (sightingsFrom origin above group).Pairwise fun s t => s.last < t.head := by
  fun_induction sightingsFrom origin above group with
  | case1 => exact List.Pairwise.nil
  | case2 above line below missing ih => exact ih
  | case3 above line below declaration length found ih =>
    refine List.pairwise_cons.mpr ⟨fun t member => ?_, ih⟩
    exact (mem_sightingsFrom member).lt_head

/-- A line of a file is looked at once all declarations above it are read, or is read along with one of them. -/
theorem sightingsFrom_at {origin : Origin} {above group : List (List Char)} {k : Nat} {line : List Char}
    (there : group[k]? = some line) :
    (∃ before, (∀ s ∈ before, s.head < above.length + k) ∧ sightingsFrom origin above group =
      before ++ sightingsFrom origin ((group.take k).reverse ++ above) (line :: group.drop (k + 1))) ∨
    ∃ s ∈ sightingsFrom origin above group, s.head < above.length + k ∧ above.length + k ≤ s.last ∧
      ((∃ f, s.declaration = .function f) ∨ isHead (trim line) = false) := by
  fun_induction sightingsFrom origin above group generalizing k with
  | case1 => cases there
  | case2 above first below missing ih =>
    cases k with
    | zero =>
      cases there
      exact Or.inl ⟨[], by simp, by simp [sightingsFrom_none missing]⟩
    | succ k =>
      have moved : above.length + (k + 1) = (first :: above).length + k := by
        rw [List.length_cons]
        omega
      rw [moved]
      simpa using ih there
  | case3 above first below declaration length found ih =>
    cases k with
    | zero =>
      cases there
      exact Or.inl ⟨[], by simp, by simp [sightingsFrom_some found]⟩
    | succ k =>
      rw [List.getElem?_cons_succ] at there
      rcases Nat.lt_or_ge k length with inside | beyond
      -- the declaration above reads the line along, and only a function may do so with a head
      · have taken : line ∈ below.take length :=
          List.mem_of_getElem? (by rw [List.getElem?_take_of_lt inside, there])
        refine Or.inr ⟨_, List.mem_cons_self, by dsimp only; omega, by dsimp only; omega, ?_⟩
        have along := declarationAt?_readsAlong found
        cases declaration with
        | function f => exact Or.inl ⟨f, rfl⟩
        | imported _ => exact Or.inr (along line taken)
        | type _ => exact Or.inr (along line taken)
        | constant _ => exact Or.inr (along line taken)
      · obtain ⟨more, rfl⟩ := Nat.exists_eq_add_of_le beyond
        have thereDropped : (below.drop length)[more]? = some line := by rw [List.getElem?_drop, there]
        have bound : length + more < below.length := (List.getElem?_eq_some_iff.mp there).1
        have moved : ((first :: below.take length).reverse ++ above).length + more = above.length + (length + more + 1) := by
          simp only [List.length_append, List.length_reverse, List.length_cons, List.length_take]
          omega
        have ahead := ih thereDropped
        rw [moved] at ahead
        rcases ahead with ⟨before, early, same⟩ | ⟨s, member, covered⟩
        · refine Or.inl ⟨⟨above.length, above.length + length, declaration⟩ :: before,
            List.forall_mem_cons.mpr ⟨by dsimp only; omega, early⟩, ?_⟩
          rw [same, List.cons_append, List.take_succ_cons, List.take_add, List.drop_drop, List.drop_succ_cons]
          simp only [List.reverse_cons, List.reverse_append, List.append_assoc, Nat.add_assoc]
        · exact Or.inr ⟨s, List.mem_cons_of_mem _ member, covered⟩

/-- A line that is looked at gives what its head introduces, and nothing else is on it. -/
theorem filter_sightingsFrom (origin : Origin) (above below : List (List Char)) (line : List Char) :
    (sightingsFrom origin above (line :: below)).filter (·.head = above.length) =
      ((declarationAt? origin above line below).map fun (declaration, length) =>
        ⟨above.length, above.length + length, declaration⟩).toList := by
  cases found : declarationAt? origin above line below with
  | none =>
    rw [sightingsFrom_none found]
    refine List.filter_eq_nil_iff.mpr fun s member => ?_
    obtain ⟨front, _, _, _, _, _, place, _⟩ := mem_sightingsFrom member
    simp only [place, List.length_cons, decide_eq_true_eq]
    omega
  | some sighted =>
    obtain ⟨declaration, length⟩ := sighted
    have apart := sightingsFrom_pairwise origin above (line :: below)
    rw [sightingsFrom_some found] at apart ⊢
    have later : (sightingsFrom origin ((line :: below.take length).reverse ++ above) (below.drop length)).filter
        (·.head = above.length) = [] := by
      refine List.filter_eq_nil_iff.mpr fun s member => ?_
      have behind : above.length + length < s.head := (List.pairwise_cons.mp apart).1 s member
      simp only [decide_eq_true_eq]
      omega
    rw [List.filter_cons_of_pos (by simp), later]
    rfl

/-! ## The outline of a file -/

/-- A line is one of those that the signature of a function in the outline of a file takes below its head. -/
def InSignature (origin : Origin) (text : String) (index : Nat) : Prop :=
  ∃ f ∈ (scan origin text).functions, ∃ line ∈ (lines text.toList)[f.line - 1]?,
    f.line - 1 < index ∧ index ≤ f.line - 1 + signatureLength line ((lines text.toList).drop f.line)

instance (origin : Origin) (text : String) (index : Nat) : Decidable (InSignature origin text index) :=
  inferInstanceAs (Decidable (∃ f ∈ (scan origin text).functions, ∃ line ∈ (lines text.toList)[f.line - 1]?, _))

/-- A line outside of all signatures is looked at, or is no head and was read along. -/
theorem sightings_at {origin : Origin} {text : String} {index : Nat} {line : List Char}
    (there : (lines text.toList)[index]? = some line) (outside : ¬ InSignature origin text index) :
    (∃ before, (∀ s ∈ before, s.head < index) ∧ sightings origin text.toList =
      before ++ sightingsFrom origin ((lines text.toList).take index).reverse
        (line :: (lines text.toList).drop (index + 1))) ∨
    isHead (trim line) = false ∧ ∀ s ∈ sightings origin text.toList, s.head ≠ index := by
  have placed := @sightingsFrom_at origin [] (lines text.toList) index line there
  simp only [List.length_nil, Nat.zero_add, List.append_nil] at placed
  rcases placed with reached | ⟨s, member, start, finish, ⟨f, isFunction⟩ | noHead⟩
  · exact Or.inl reached
  · obtain ⟨front, head, below, length, split, found, place, last⟩ := mem_sightingsFrom member
    have along := declarationAt?_readsAlong found
    have numbered := (declarationAt?_introduces found).line_eq
    rw [isFunction] at along numbered
    have emitted : f ∈ (scan origin text).functions :=
      List.mem_filterMap.mpr ⟨s, member, by rw [isFunction]⟩
    have number : f.line = front.length + 1 := by simpa [Declaration.line] using numbered
    refine absurd ⟨f, emitted, head, ?_, ?_, ?_⟩ outside
    · simp [number, split]
    · rw [List.length_nil] at place
      omega
    · have rest : (lines text.toList).drop f.line = below := by simp [number, split]
      rw [rest, number, ← along]
      rw [List.length_nil] at place
      omega
  -- a declaration on the line itself would overlap the one that reads it along
  · refine Or.inr ⟨noHead, fun t other same => ?_⟩
    obtain ⟨_, _, _, _, _, _, _, ends⟩ := mem_sightingsFrom other
    rcases apart_of_pairwise (sightingsFrom_pairwise _ _ _) member other with rfl | before | after
    · omega
    · omega
    · omega

/-- What a line of a file introduces, if it is looked at. -/
def sightingOn? (origin : Origin) (text : String) (index : Nat) (line : List Char) : Option Sighting :=
  (declarationAt? origin ((lines text.toList).take index).reverse line ((lines text.toList).drop (index + 1))).map
    fun (declaration, length) => ⟨index, index + length, declaration⟩

theorem filter_sightings {origin : Origin} {text : String} {index : Nat} {line : List Char}
    (there : (lines text.toList)[index]? = some line) (outside : ¬ InSignature origin text index) :
    (sightings origin text.toList).filter (·.head = index) = (sightingOn? origin text index line).toList := by
  have bound : index < (lines text.toList).length := (List.getElem?_eq_some_iff.mp there).1
  have size : ((lines text.toList).take index).reverse.length = index := by
    rw [List.length_reverse, List.length_take]
    omega
  rcases sightings_at there outside with ⟨before, early, same⟩ | ⟨noHead, nothing⟩
  · have front : before.filter (·.head = index) = [] := by
      refine List.filter_eq_nil_iff.mpr fun s member => ?_
      simpa using Nat.ne_of_lt (early s member)
    rw [same, List.filter_append, front, List.nil_append]
    have here := filter_sightingsFrom origin ((lines text.toList).take index).reverse
      ((lines text.toList).drop (index + 1)) line
    rw [size] at here
    exact here
  · have missing : head? (trim line) = none := by
      rw [isHead_eq, Bool.or_eq_false_iff] at noHead
      simpa using noHead.1
    rw [List.filter_eq_nil_iff.mpr (by simpa using nothing)]
    simp [sightingOn?, declarationAt?, missing]

/-- What a line outside of all signatures introduces is found. -/
theorem mem_declarations_of_declarationAt? {origin : Origin} {text : String} {index length : Nat} {line : List Char}
    {declaration : Declaration} (there : (lines text.toList)[index]? = some line) (outside : ¬ InSignature origin text index)
    (found : declarationAt? origin ((lines text.toList).take index).reverse line ((lines text.toList).drop (index + 1)) =
      some (declaration, length)) : declaration ∈ (scan origin text).declarations := by
  have kept : (⟨index, index + length, declaration⟩ : Sighting) ∈ (sightings origin text.toList).filter (·.head = index) := by
    rw [filter_sightings there outside, sightingOn?, found]
    exact List.mem_cons_self
  exact mem_ofSightings.mpr ⟨_, (List.mem_filter.mp kept).1, rfl⟩

/-- Declarations of one kind are counted on the line that they were read from. -/
theorem countP_line {α : Type} {pick : Sighting → Option α} {line : α → Nat} {seen : List Sighting}
    (numbered : ∀ s ∈ seen, ∀ a, pick s = some a → line a = s.head + 1) (index : Nat) :
    (seen.filterMap pick).countP (line · = index + 1) = ((seen.filter (·.head = index)).filterMap pick).length := by
  induction seen with
  | nil => rfl
  | cons s rest ih =>
    have restCount := ih fun t member => numbered t (List.mem_cons_of_mem _ member)
    cases picked : pick s with
    | none =>
      rw [List.filterMap_cons_none picked, restCount, List.filter_cons]
      split
      · rw [List.filterMap_cons_none picked]
      · rfl
    | some a =>
      have number := numbered s List.mem_cons_self a picked
      rw [List.filterMap_cons_some picked, List.countP_cons, restCount, List.filter_cons]
      by_cases here : s.head = index
      · simp [here, number, List.filterMap_cons_some picked]
      · simp [here, number]

/-- The declarations of one kind on a line are those that its head introduces. -/
theorem countP_sightings {α : Type} {pick : Sighting → Option α} {number : α → Nat} {origin : Origin} {text : String}
    {index : Nat} {line : List Char} (there : (lines text.toList)[index]? = some line)
    (outside : ¬ InSignature origin text index) (numbered : ∀ s a, pick s = some a → number a = s.declaration.line) :
    ((sightings origin text.toList).filterMap pick).countP (number · = index + 1) =
      ((sightingOn? origin text index line).toList.filterMap pick).length := by
  rw [← filter_sightings there outside]
  refine countP_line (fun s member a picked => ?_) index
  obtain ⟨front, _, _, _, _, found, place, _⟩ := mem_sightingsFrom member
  have onHead := (declarationAt?_introduces found).line_eq
  rw [List.length_nil] at place
  simp only [List.append_nil, List.length_reverse] at onHead
  rw [numbered s a picked, onHead]
  omega

theorem countP_scan {origin : Origin} {text : String} {index : Nat} {line : List Char}
    (there : (lines text.toList)[index]? = some line) (outside : ¬ InSignature origin text index) :
    let found := (sightingOn? origin text index line).toList
    (scan origin text).imports.countP (·.line = index + 1) = (importsOf found).length ∧
      (scan origin text).functions.countP (·.line = index + 1) = (functionsOf found).length ∧
      (scan origin text).types.countP (·.line = index + 1) = (typesOf found).length ∧
      (scan origin text).constants.countP (·.line = index + 1) = (constantsOf found).length := by
  refine ⟨countP_sightings there outside ?_, countP_sightings there outside ?_, countP_sightings there outside ?_,
    countP_sightings there outside ?_⟩ <;> grind [Declaration.line]

/-- After a head without a declaration the scan goes on with the next line. -/
theorem sightings_resume {origin : Origin} {text : String} {index : Nat} {line : List Char}
    (there : (lines text.toList)[index]? = some line) (outside : ¬ InSignature origin text index)
    (head : isHead (trim line)) (missing : sightingOn? origin text index line = none) :
    sightings origin text.toList = (sightings origin text.toList).filter (·.head < index) ++
      sightingsFrom origin ((lines text.toList).take (index + 1)).reverse ((lines text.toList).drop (index + 1)) := by
  have above : line :: ((lines text.toList).take index).reverse = ((lines text.toList).take (index + 1)).reverse := by
    rw [List.take_add_one, there]
    simp
  rcases sightings_at there outside with ⟨before, early, same⟩ | ⟨noHead, _⟩
  · rw [sightingsFrom_none (Option.map_eq_none_iff.mp missing), above] at same
    have front : before.filter (·.head < index) = before :=
      List.filter_eq_self.mpr fun s member => by simpa using early s member
    have back : (sightingsFrom origin ((lines text.toList).take (index + 1)).reverse
        ((lines text.toList).drop (index + 1))).filter (·.head < index) = [] := by
      refine List.filter_eq_nil_iff.mpr fun s member => ?_
      obtain ⟨_, _, _, _, _, _, place, _⟩ := mem_sightingsFrom member
      have bound : index < (lines text.toList).length := (List.getElem?_eq_some_iff.mp there).1
      simp only [place, List.length_reverse, List.length_take, decide_eq_true_eq]
      omega
    rw [same, List.filter_append, front, back, List.append_nil]
  · rw [head] at noHead
    cases noHead

attribute [local simp] importsOf functionsOf typesOf constantsOf Head.use? Head.function? Head.type? Head.constant?

/-- Every line outside of all signatures gives one import, function or constant if it is the head of one, and a type unless its
definition is empty. After a type without a definition the scan goes on with the next line. -/
theorem scan_findsHeads {origin : Origin} {text : String} {index : Nat} {line : List Char}
    (there : (lines text.toList)[index]? = some line) (outside : ¬ InSignature origin text index) :
    (scan origin text).imports.countP (·.line = index + 1) = (if (useHead? (trim line)).isSome then 1 else 0) ∧
    (scan origin text).functions.countP (·.line = index + 1) = (if (functionHead? (trim line)).isSome then 1 else 0) ∧
    (scan origin text).constants.countP (·.line = index + 1) = (if (constantHead? (trim line)).isSome then 1 else 0) ∧
    (typeHead? (trim line) = none → (scan origin text).types.countP (·.line = index + 1) = 0) ∧
    ∀ head, typeHead? (trim line) = some head →
      let below := (lines text.toList).drop (index + 1)
      if (normalize (typeDefinition (trim head.body) below).text).isEmpty then
        (scan origin text).types.countP (·.line = index + 1) = 0 ∧
          sightings origin text.toList = (sightings origin text.toList).filter (·.head < index) ++
            sightingsFrom origin ((lines text.toList).take (index + 1)).reverse below
      else (scan origin text).types.countP (·.line = index + 1) = 1 := by
  obtain ⟨imports, functions, types, constants⟩ := countP_scan there outside
  obtain ⟨use, function, type, constant⟩ := readers_eq (trim line)
  rw [imports, functions, constants, use, function, type, constant]
  simp only [types]
  cases found : head? (trim line) with
  | none => simp [sightingOn?, declarationAt?, found]
  | some head =>
    cases head with
    | use head => simp [sightingOn?, declarationAt?, found]
    | function head => simp [sightingOn?, declarationAt?, found]
    | constant head => simp [sightingOn?, declarationAt?, found]
    | type head =>
      by_cases empty : normalize (typeDefinition (trim head.body) ((lines text.toList).drop (index + 1))).text = []
      · have nothing : sightingOn? origin text index line = none := by
          simp [sightingOn?, declarationAt?, found, typeAt?, empty]
        have resumed := sightings_resume there outside (by rw [isHead_eq, found]; rfl) nothing
        simp [nothing, empty, ← resumed]
      · simp [sightingOn?, declarationAt?, found, typeAt?, empty]

/-- A constant below a type with an open brace, in the body of a function, is found. -/
theorem scan_findsHeads_afterOpenBrace :
    let text := "fn f(\n  a: Int,\n) \x7b\ntype T \x7b\n  x: Int,\nconst c = 1"
    ¬ InSignature ⟨"p", false⟩ text 5 ∧ (scan ⟨"p", false⟩ text).constants.countP (·.line = 6) = 1 :=
  ⟨by decide +kernel,
    (@scan_findsHeads ⟨"p", false⟩ _ 5 "const c = 1".toList (by decide +kernel) (by decide +kernel)).2.2.1⟩

end Aiken
end DeclIndex
