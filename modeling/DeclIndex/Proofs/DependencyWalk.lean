import DeclIndex.Library.Dependency
import DeclIndex.Proofs.Table
import Mathlib.Data.List.Basic
import Mathlib.Data.List.Nodup
import Mathlib.Logic.Relation

/-!
# The dependency tree

The walk over imports is a depth-first search: a key is met, what it imports is visited, and the key is left behind. The tree
of a module holds exactly what the module reaches, each key once, and a key comes after everything it imports, cycles apart.
The bound on the depth of the walk never cuts it short: every key that is open has an entry of its own among the dependencies.
-/

namespace DeclIndex.Library

/-- A module imports another, by a path that refers to it. -/
def Edge (library : Library) (importer target : String) : Prop :=
  ∃ path ∈ (library.dependencies.get? importer).getD [], library.resolve path importer = target

/-- A module depends on another, directly or through others, or is the other. -/
def Reaches (library : Library) : String → String → Prop :=
  Relation.ReflTransGen library.Edge

theorem mem_imported (library : Library) (importer target : String) :
    target ∈ library.imported importer ↔ library.Edge importer target := by
  simp [imported, Edge]

theorem Edge.reaches {library : Library} {importer target : String} (edge : library.Edge importer target) :
    library.Reaches importer target :=
  Relation.ReflTransGen.single edge

/-! ## What is open, and what is still to be met -/

/-- A key that was met and not left behind is still being visited. -/
def Walk.Open (walk : Walk) (key : String) : Prop :=
  key ∈ walk.met ∧ key ∉ walk.left

/-- How many keys with dependencies are not among those met. -/
def unmet (library : Library) (met : List String) : Nat :=
  library.dependencies.keys.countP (· ∉ met)

private theorem unmet_mono (library : Library) {met more : List String} (grows : ∀ key ∈ met, key ∈ more) :
    library.unmet more ≤ library.unmet met := by
  apply List.countP_mono_left
  intro key _ fresh
  simp only [decide_eq_true_eq] at fresh ⊢
  exact fun member => fresh (grows key member)

private theorem unmet_cons (library : Library) {met : List String} {key : String}
    (listed : key ∈ library.dependencies.keys) (fresh : key ∉ met) :
    library.unmet (key :: met) < library.unmet met := by
  obtain ⟨before, after, split⟩ := List.append_of_mem listed
  have smaller (part : List String) : part.countP (· ∉ key :: met) ≤ part.countP (· ∉ met) := by
    apply List.countP_mono_left
    intro other _ apart
    simp only [decide_eq_true_eq, List.mem_cons, not_or] at apart ⊢
    exact apart.2
  have first := smaller before
  have second := smaller after
  have here : (key :: after).countP (· ∉ key :: met) = after.countP (· ∉ key :: met) :=
    List.countP_cons_of_neg (by simp)
  have there : (key :: after).countP (· ∉ met) = after.countP (· ∉ met) + 1 :=
    List.countP_cons_of_pos (by simpa using fresh)
  unfold unmet
  rw [split, List.countP_append, List.countP_append, here, there]
  omega

theorem listed_of_edge {library : Library} {importer target : String} (edge : library.Edge importer target) :
    importer ∈ library.dependencies.keys := by
  obtain ⟨path, member, -⟩ := edge
  cases found : library.dependencies.get? importer with
  | none => simp [found] at member
  | some paths => exact Table.mem_keys_of_get? found

/-! ## The invariant -/

/-- Keys left behind, last first: what a key imports was left before it, unless it leads back to the key. -/
def Ordered (library : Library) : List String → Prop
  | [] => True
  | key :: before =>
    (∀ target, library.Edge key target → target ∈ before ∨ library.Reaches target key) ∧ library.Ordered before

/-- What holds of a walk between two visits. -/
structure Sound (library : Library) (walk : Walk) : Prop where
  distinct : walk.left.Nodup
  leftMet : ∀ key ∈ walk.left, key ∈ walk.met
  closed : ∀ key ∈ walk.left, ∀ target, library.Edge key target → target ∈ walk.met
  ordered : library.Ordered walk.left

/-- What visiting may do to a walk: more keys are met, all of them within reach of `start`, and the same keys are open
afterwards. -/
structure Extends (library : Library) (start : String) (walk after : Walk) : Prop where
  met : ∀ key ∈ walk.met, key ∈ after.met
  sameOpen : ∀ key, after.Open key ↔ walk.Open key
  found : ∀ key ∈ after.met, key ∈ walk.met ∨ library.Reaches start key

theorem Extends.refl (library : Library) (start : String) (walk : Walk) : library.Extends start walk walk :=
  ⟨fun _ member => member, fun _ => Iff.rfl, fun _ member => Or.inl member⟩

theorem Extends.trans {library : Library} {start : String} {first second third : Walk}
    (one : library.Extends start first second) (two : library.Extends start second third) :
    library.Extends start first third := by
  refine ⟨fun key member => two.met key (one.met key member), fun key => (two.sameOpen key).trans (one.sameOpen key), ?_⟩
  intro key member
  rcases two.found key member with earlier | reached
  · exact one.found key earlier
  · exact Or.inr reached

theorem Extends.of_reaches {library : Library} {start next : String} {walk after : Walk}
    (reached : library.Reaches start next) (extended : library.Extends next walk after) :
    library.Extends start walk after := by
  refine ⟨extended.met, extended.sameOpen, ?_⟩
  intro key member
  rcases extended.found key member with earlier | further
  · exact Or.inl earlier
  · exact Or.inr (reached.trans further)

/-! ## Visiting -/

/-- What a visit of one key achieves, from every walk in which all open keys lead to it and which has enough depth left. -/
def VisitCorrect (library : Library) (fuel : Nat) : Prop :=
  ∀ (walk : Walk) (key : String), library.Sound walk → (∀ other, walk.Open other → library.Reaches other key) →
    library.unmet walk.met < fuel →
    library.Sound (library.visit fuel walk key) ∧ library.Extends key walk (library.visit fuel walk key) ∧
      key ∈ (library.visit fuel walk key).met

/-- Visiting what an open key imports, one after the other. -/
private theorem visit_targets {library : Library} {fuel : Nat} (correct : library.VisitCorrect fuel) {importer : String}
    (targets : List String) (edges : ∀ target ∈ targets, library.Edge importer target) (walk : Walk)
    (sound : library.Sound walk) (above : ∀ other, walk.Open other → library.Reaches other importer)
    (enough : library.unmet walk.met < fuel) :
    library.Sound (targets.foldl (library.visit fuel) walk) ∧
      library.Extends importer walk (targets.foldl (library.visit fuel) walk) ∧
      ∀ target ∈ targets, target ∈ (targets.foldl (library.visit fuel) walk).met := by
  induction targets generalizing walk with
  | nil => exact ⟨sound, Extends.refl library importer walk, by simp⟩
  | cons target rest ih =>
    have edge := edges target (by simp)
    obtain ⟨soundNext, extended, reached⟩ := correct walk target sound
      (fun other isOpen => (above other isOpen).tail edge) enough
    have onward := extended.of_reaches edge.reaches
    obtain ⟨soundLast, extendedLast, metLast⟩ := ih (fun other member => edges other (by simp [member]))
      (library.visit fuel walk target) soundNext
      (fun other isOpen => above other ((extended.sameOpen other).mp isOpen))
      (Nat.lt_of_le_of_lt (unmet_mono library extended.met) enough)
    refine ⟨soundLast, onward.trans extendedLast, ?_⟩
    intro other member
    rcases List.mem_cons.mp member with same | later
    · exact same ▸ extendedLast.met target reached
    · exact metLast other later

/-- A key that is met now is open, and so is what was open before. -/
private theorem open_meet {walk : Walk} {key : String} (fresh : key ∉ walk.left) (other : String) :
    ({ walk with met := key :: walk.met } : Walk).Open other ↔ other = key ∨ walk.Open other := by
  simp only [Walk.Open, List.mem_cons]
  constructor
  · rintro ⟨rfl | member, notLeft⟩
    · exact Or.inl rfl
    · exact Or.inr ⟨member, notLeft⟩
  · rintro (rfl | ⟨member, notLeft⟩)
    · exact ⟨Or.inl rfl, fresh⟩
    · exact ⟨Or.inr member, notLeft⟩

/-- Meeting a key leaves nothing behind, so that the invariant stays. -/
private theorem Sound.meet {library : Library} {walk : Walk} (sound : library.Sound walk) (key : String) :
    library.Sound { walk with met := key :: walk.met } where
  distinct := sound.distinct
  leftMet other member := List.mem_cons_of_mem _ (sound.leftMet other member)
  closed other member target edge := List.mem_cons_of_mem _ (sound.closed other member target edge)
  ordered := sound.ordered

/-- A key may be left behind once everything it imports was met and every open key leads to it. -/
private theorem Sound.leave {library : Library} {inner : Walk} {key : String} (sound : library.Sound inner)
    (isOpen : inner.Open key) (met : ∀ target, library.Edge key target → target ∈ inner.met)
    (above : ∀ other, inner.Open other → library.Reaches other key) :
    library.Sound { inner with left := key :: inner.left } := by
  refine ⟨List.nodup_cons.mpr ⟨isOpen.2, sound.distinct⟩, ?_, ?_, ?_, sound.ordered⟩
  · intro other member
    rcases List.mem_cons.mp member with same | earlier
    · exact same ▸ isOpen.1
    · exact sound.leftMet other earlier
  · intro other member target edge
    rcases List.mem_cons.mp member with same | earlier
    · exact met target (same ▸ edge)
    · exact sound.closed other earlier target edge
  · intro target edge
    by_cases earlier : target ∈ inner.left
    · exact Or.inl earlier
    · exact Or.inr (above target ⟨met target edge, earlier⟩)

theorem visitCorrect (library : Library) (fuel : Nat) : library.VisitCorrect fuel := by
  -- The keys on the way to the one at hand are exactly the open ones, and each of them has an entry of its own. So the
  -- number of unmet keys goes down with every level, and the fuel cannot run out.
  induction fuel with
  | zero => intro walk key _ _ enough; omega
  | succ fuel ih =>
    intro walk key sound above enough
    by_cases seen : key ∈ walk.met
    · have same : library.visit (fuel + 1) walk key = walk := by simp [visit, seen]
      rw [same]
      exact ⟨sound, Extends.refl library key walk, seen⟩
    · have fresh : key ∉ walk.left := fun member => seen (sound.leftMet key member)
      have aboveMet : ∀ other, ({ walk with met := key :: walk.met } : Walk).Open other → library.Reaches other key := by
        intro other isOpen
        rcases (open_meet fresh other).mp isOpen with same | before
        · exact same ▸ Relation.ReflTransGen.refl
        · exact above other before
      obtain ⟨soundInner, extended, metInner⟩ :
          library.Sound ((library.imported key).foldl (library.visit fuel) { walk with met := key :: walk.met }) ∧
          library.Extends key { walk with met := key :: walk.met }
            ((library.imported key).foldl (library.visit fuel) { walk with met := key :: walk.met }) ∧
          ∀ target ∈ library.imported key,
            target ∈ ((library.imported key).foldl (library.visit fuel) { walk with met := key :: walk.met }).met := by
        cases targets : library.imported key with
        | nil => exact ⟨sound.meet key, Extends.refl library key _, by simp⟩
        | cons first rest =>
          have edges : ∀ target ∈ first :: rest, library.Edge key target :=
            fun target member => (mem_imported library key target).mp (targets ▸ member)
          have listed := listed_of_edge (edges first (by simp))
          have less := unmet_cons library listed seen
          exact visit_targets ih (first :: rest) edges _ (sound.meet key) aboveMet
            (Nat.lt_of_lt_of_le less (Nat.le_of_lt_succ enough))
      have step : library.visit (fuel + 1) walk key =
          { (library.imported key).foldl (library.visit fuel) { walk with met := key :: walk.met } with
            left := key :: ((library.imported key).foldl (library.visit fuel)
              { walk with met := key :: walk.met }).left } := by
        simp [visit, seen]
      rw [step]
      generalize (library.imported key).foldl (library.visit fuel) { walk with met := key :: walk.met } = inner at *
      have isOpen : inner.Open key := (extended.sameOpen key).mpr ((open_meet fresh key).mpr (Or.inl rfl))
      refine ⟨soundInner.leave isOpen (fun target edge => metInner target ((mem_imported library key target).mpr edge))
        (fun other opened => aboveMet other ((extended.sameOpen other).mp opened)), ⟨?_, ?_, ?_⟩, isOpen.1⟩
      · intro other member
        exact extended.met other (List.mem_cons_of_mem _ member)
      · intro other
        constructor
        · rintro ⟨member, notLeft⟩
          simp only [List.mem_cons, not_or] at notLeft
          rcases (open_meet fresh other).mp ((extended.sameOpen other).mp ⟨member, notLeft.2⟩) with same | before
          · exact absurd same notLeft.1
          · exact before
        · intro before
          obtain ⟨member, notLeft⟩ := (extended.sameOpen other).mpr ((open_meet fresh other).mpr (Or.inr before))
          have apart : other ≠ key := fun same => seen (same ▸ before.1)
          exact ⟨member, by simp [apart, notLeft]⟩
      · intro other member
        rcases extended.found other member with earlier | reached
        · rcases List.mem_cons.mp earlier with same | before
          · exact Or.inr (same ▸ Relation.ReflTransGen.refl)
          · exact Or.inl before
        · exact Or.inr reached

/-! ## The tree -/

private theorem idxOf_lt_of_ordered {library : Library} {left : List String} (distinct : left.Nodup)
    (ordered : library.Ordered left) {key target : String} (member : key ∈ left) (edge : library.Edge key target) :
    left.reverse.idxOf target < left.reverse.idxOf key ∨ library.Reaches target key := by
  induction left with
  | nil => simp at member
  | cons last before ih =>
    obtain ⟨notBefore, distinctBefore⟩ := List.nodup_cons.mp distinct
    rw [List.reverse_cons]
    rcases List.mem_cons.mp member with rfl | earlier
    · rcases ordered.1 target edge with left | back
      · have inside : target ∈ before.reverse := List.mem_reverse.mpr left
        have outside : key ∉ before.reverse := fun here => notBefore (List.mem_reverse.mp here)
        rw [List.idxOf_append_of_mem inside, List.idxOf_append_of_notMem outside]
        exact Or.inl (Nat.lt_of_lt_of_le (List.idxOf_lt_length_of_mem inside) (Nat.le_add_right _ _))
      · exact Or.inr back
    · rcases ih distinctBefore ordered.2 earlier with less | back
      · have here : key ∈ before.reverse := List.mem_reverse.mpr earlier
        have inside : target ∈ before.reverse :=
          List.idxOf_lt_length_iff.mp (Nat.lt_trans less (List.idxOf_lt_length_of_mem here))
        rw [List.idxOf_append_of_mem inside, List.idxOf_append_of_mem here]
        exact Or.inl less
      · exact Or.inr back

/-- The walk from a module never runs out of depth. -/
private theorem visit_start (library : Library) (start : String) :
    library.Sound (library.visit (library.dependencies.size + 2) {} start) ∧
      library.Extends start {} (library.visit (library.dependencies.size + 2) {} start) ∧
      start ∈ (library.visit (library.dependencies.size + 2) {} start).met := by
  have nothing : library.Sound {} := ⟨by simp, by simp, by simp, trivial⟩
  have bound : library.unmet [] < library.dependencies.size + 2 := by
    have all : library.unmet [] ≤ library.dependencies.keys.length := List.countP_le_length
    simp only [Table.keys, List.length_map] at all
    simp only [Table.size]
    omega
  exact visitCorrect library (library.dependencies.size + 2) {} start nothing (by simp [Walk.Open]) bound

/-- The tree of a module holds what it reaches. -/
theorem mem_dependencyTree_iff (library : Library) (start key : String) :
    key ∈ library.dependencyTree start ↔ library.Reaches start key := by
  obtain ⟨sound, extended, metStart⟩ := visit_start library start
  rw [dependencyTree, List.mem_reverse]
  generalize library.visit (library.dependencies.size + 2) {} start = walk at *
  -- no key is open at the end, so all that were met are left behind
  have leftOfMet : ∀ other ∈ walk.met, other ∈ walk.left := by
    intro other member
    by_contra notLeft
    exact List.not_mem_nil ((extended.sameOpen other).mp ⟨member, notLeft⟩).1
  constructor
  · intro member
    simpa using extended.found key (sound.leftMet key member)
  · intro reached
    induction reached with
    | refl => exact leftOfMet start metStart
    | @tail source target _ edge ih => exact leftOfMet target (sound.closed source ih target edge)

/-- The tree of a module lists, each once, exactly the keys within its reach, the module itself last. Whatever a listed module
imports stands before it, unless the import leads back to the module. -/
theorem dependencyTree_isPostorder (library : Library) (start : String) :
    (library.dependencyTree start).Nodup ∧
    (∀ key, key ∈ library.dependencyTree start ↔ library.Reaches start key) ∧
    (library.dependencyTree start).getLast? = some start ∧
    ∀ key ∈ library.dependencyTree start, ∀ target, library.Edge key target →
      (library.dependencyTree start).idxOf target < (library.dependencyTree start).idxOf key ∨
        library.Reaches target key := by
  obtain ⟨sound, -, -⟩ := visit_start library start
  have last : (library.visit (library.dependencies.size + 2) {} start).left.head? = some start := by
    simp [visit]
  refine ⟨List.nodup_reverse.mpr sound.distinct, mem_dependencyTree_iff library start, ?_, ?_⟩
  · rw [dependencyTree, List.getLast?_reverse, last]
  · intro key member target edge
    exact idxOf_lt_of_ordered sound.distinct sound.ordered (List.mem_reverse.mp member) edge

end DeclIndex.Library
