import DeclIndex.Proofs.TypeScriptScan

/-!
# Block comments in TypeScript files

Which lines a scan passes over as parts of block comments can be told from the lines and from what the scan found: a line that is
not read along with a type is part of a comment if it opens one or if the line above it is part of one and does not end it. Every
line that is not read along is reached by the scan in just this state.
-/

namespace DeclIndex.TypeScript
open DeclIndex.Text

/-! ## Lines in comments -/

/-- Whether a line is read along with a declaration that begins above it. -/
def isTaken (seen : List Sighting) (index : Nat) : Bool :=
  seen.any fun s => s.head < index && index ≤ s.last

/-- Whether a line begins with the opening of a block comment. -/
def opensComment (group : List (List Char)) (index : Nat) : Bool :=
  group[index]?.any fun line => startsWith (trim line) "/*"

/-- Whether a block comment is open where a line begins. -/
def isOpenAt (seen : List Sighting) (group : List (List Char)) : Nat → Bool
  | 0 => false
  | index + 1 =>
    !isTaken seen index && (isOpenAt seen group index || opensComment group index) && !group[index]?.any endsComment

/-- Whether a line of a file is passed over as a part of a block comment. -/
def isCommented (source text : String) (index : Nat) : Bool :=
  let seen := sightings source text.toList
  let group := lines text.toList
  !isTaken seen index && (isOpenAt seen group index || opensComment group index)

theorem isTaken_eq_false_iff {seen : List Sighting} {index : Nat} :
    isTaken seen index = false ↔ ∀ s ∈ seen, s.head < index → s.last < index := by
  simp [isTaken]

/-! ## The state of a pass -/

section Pass

variable {source : String} {exported : List String} {group : List (List Char)}

/-- The head of a declaration is not read along with another one. -/
theorem isTaken_head {s : Sighting} (member : s ∈ sightingsFrom source exported false [] group) :
    isTaken (sightingsFrom source exported false [] group) s.head = false := by
  refine isTaken_eq_false_iff.mpr fun t other above => ?_
  have forward := (mem_sightingsFrom member).head_le_last
  rcases apart_of_pairwise sightingsFrom_pairwise member other with rfl | before | after
  · omega
  · omega
  · exact after

/-- A pass reaches a line with all declarations above it read and with a block comment open or not. -/
structure ReachedAt (source : String) (exported : List String) (group : List (List Char)) (index : Nat) (inComment : Bool)
    (before : List Sighting) : Prop where
  split : sightingsFrom source exported false [] group =
    before ++ sightingsFrom source exported inComment (group.take index).reverse (group.drop index)
  above : ∀ s ∈ before, s.last < index

namespace ReachedAt

variable {index : Nat} {inComment : Bool} {before : List Sighting} {line : List Char}

theorem drop_eq (there : group[index]? = some line) : group.drop index = line :: group.drop (index + 1) := by
  obtain ⟨bound, rfl⟩ := List.getElem?_eq_some_iff.mp there
  exact List.drop_eq_getElem_cons bound

theorem take_reverse (there : group[index]? = some line) :
    (group.take (index + 1)).reverse = line :: (group.take index).reverse := by
  rw [List.take_add_one, there, List.reverse_append]
  rfl

theorem length_above (there : group[index]? = some line) : (group.take index).reverse.length = index := by
  have bound := (List.getElem?_eq_some_iff.mp there).1
  rw [List.length_reverse, List.length_take]
  omega

/-- Past a line that introduces nothing. -/
theorem comment (reached : ReachedAt source exported group index inComment before) (there : group[index]? = some line)
    (passed : inComment || startsWith (trim line) "/*") :
    ReachedAt source exported group (index + 1) (!endsComment line) before := by
  refine ⟨?_, fun s member => Nat.lt_succ_of_lt (reached.above s member)⟩
  rw [reached.split, drop_eq there, sightingsFrom_comment passed, take_reverse there]

theorem nothing (reached : ReachedAt source exported group index inComment before) (there : group[index]? = some line)
    (looked : ¬ (inComment || startsWith (trim line) "/*"))
    (missing : declarationAt? source exported (group.take index).reverse line (group.drop (index + 1)) = none) :
    ReachedAt source exported group (index + 1) false before := by
  refine ⟨?_, fun s member => Nat.lt_succ_of_lt (reached.above s member)⟩
  rw [reached.split, drop_eq there, sightingsFrom_none looked missing, take_reverse there]

/-- A declaration that begins on the line that is reached was read there, outside of comments, and what it reads along is passed. -/
theorem declaration (reached : ReachedAt source exported group index inComment before) (there : group[index]? = some line)
    {s : Sighting} (member : s ∈ sightingsFrom source exported false [] group) (here : s.head = index) :
    ¬ (inComment || startsWith (trim line) "/*") ∧ ReachedAt source exported group (s.last + 1) false (before ++ [s]) := by
  have place := length_above there
  have forward := (mem_sightingsFrom member).head_le_last
  have later : s ∈ sightingsFrom source exported inComment (group.take index).reverse (line :: group.drop (index + 1)) := by
    rw [reached.split, drop_eq there] at member
    refine (List.mem_append.mp member).resolve_left fun early => ?_
    have ended := reached.above s early
    omega
  obtain ⟨looked, length, last, split⟩ := sightingsFrom_first later (by rw [place, here])
  refine ⟨looked, ?_, fun t inside => ?_⟩
  · have passed : s.last + 1 = index + 1 + length := by omega
    rw [reached.split, drop_eq there, split, passed, List.take_add, List.reverse_append, take_reverse there, List.drop_drop,
      List.append_assoc, List.singleton_append, List.reverse_cons, List.append_assoc, List.singleton_append]
  · rcases List.mem_append.mp inside with early | same
    · have ended := reached.above t early
      omega
    · rw [List.mem_singleton.mp same]
      omega

end ReachedAt

/-- Every line that is not read along is reached, in the state that the lines above it leave. -/
theorem exists_reachedAt {index : Nat} (inside : index ≤ group.length)
    (free : isTaken (sightingsFrom source exported false [] group) index = false) :
    ∃ before, ReachedAt source exported group index
      (isOpenAt (sightingsFrom source exported false [] group) group index) before := by
  induction index using Nat.strongRecOn with
  | ind index ih =>
    cases index with
    | zero => exact ⟨[], by simp [isOpenAt], by simp⟩
    | succ index =>
      obtain ⟨line, there⟩ : ∃ line, group[index]? = some line := ⟨_, List.getElem?_eq_getElem inside⟩
      have opening : opensComment group index = startsWith (trim line) "/*" := by rw [opensComment, there, Option.any_some]
      have ending : group[index]?.any endsComment = endsComment line := by rw [there, Option.any_some]
      rw [isOpenAt, opening, ending]
      cases taken : isTaken (sightingsFrom source exported false [] group) index with
      | true =>
        -- the declaration that takes the line above ends there, and the scan goes on below it
        obtain ⟨s, member, around⟩ := List.any_eq_true.mp taken
        rw [Bool.and_eq_true, decide_eq_true_eq, decide_eq_true_eq] at around
        have ended := isTaken_eq_false_iff.mp free s member (by omega)
        obtain ⟨before, reached⟩ := ih s.head (by omega) (by omega) (isTaken_head member)
        have head : group[s.head]? = some (group.get ⟨s.head, by omega⟩) := List.getElem?_eq_getElem (by omega)
        have onward := (reached.declaration head member rfl).2
        have last : s.last = index := by omega
        rw [last] at onward
        exact ⟨_, onward⟩
      | false =>
        obtain ⟨before, reached⟩ := ih index (Nat.lt_succ_self index) (by omega) taken
        generalize isOpenAt (sightingsFrom source exported false [] group) group index = inComment at *
        by_cases passed : inComment || startsWith (trim line) "/*"
        · rw [passed]
          exact ⟨before, reached.comment there passed⟩
        · rw [Bool.eq_false_iff.mpr passed]
          cases found : declarationAt? source exported (group.take index).reverse line (group.drop (index + 1)) with
          | none => exact ⟨before, reached.nothing there passed found⟩
          | some sighted =>
            obtain ⟨declaration, length⟩ := sighted
            have place := ReachedAt.length_above there
            have member : ⟨index, index + length, declaration⟩ ∈ sightingsFrom source exported false [] group := by
              rw [reached.split, ReachedAt.drop_eq there, sightingsFrom_some passed found, place]
              exact List.mem_append_right _ List.mem_cons_self
            have onward := (reached.declaration there member rfl).2
            -- otherwise the declaration would take the next line
            have single : index + length = index := by
              have ended := isTaken_eq_false_iff.mp free _ member (Nat.lt_succ_self index)
              dsimp only at ended
              omega
            dsimp only at onward
            rw [single] at onward
            exact ⟨_, onward⟩

end Pass

/-- No declaration begins in a comment. -/
theorem isCommented_head {source text : String} {s : Sighting} (member : s ∈ sightings source text.toList) :
    isCommented source text s.head = false := by
  have bound := (mem_sightingsFrom member).head_inside
  rw [List.length_nil, Nat.zero_add] at bound
  have there : (lines text.toList)[s.head]? = some ((lines text.toList).get ⟨s.head, bound.2⟩) :=
    List.getElem?_eq_getElem bound.2
  have free := isTaken_head member
  obtain ⟨before, reached⟩ := exists_reachedAt (Nat.le_of_lt bound.2) free
  have looked := (reached.declaration there member rfl).1
  rw [Bool.not_eq_true] at looked
  rw [isCommented, opensComment, there, Option.any_some]
  exact (congrArg _ looked).trans (Bool.and_false _)

end DeclIndex.TypeScript
