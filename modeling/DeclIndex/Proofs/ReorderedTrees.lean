import DeclIndex.Proofs.SourceFiles

/-!
# Trees with their entries in another order

The order in which a folder lists its entries has no meaning. In a well-formed tree a path leads to the same place, and to the same
file there, whatever that order is.
-/

namespace DeclIndex
namespace Node

mutual

/-- Two trees differ at most in the order of the entries of their folders. -/
inductive Reordered : Node → Node → Prop
  | file (bytes : ByteArray) : Reordered (.file bytes) (.file bytes)
  | link (target : String) : Reordered (.link target) (.link target)
  | folder {entries same others : List (String × Node)} (alike : ReorderedIn entries same) (order : same.Perm others) :
    Reordered (.folder entries) (.folder others)

/-- Entries have the same names in the same order, and what they hold differs at most in the order of entries. -/
inductive ReorderedIn : List (String × Node) → List (String × Node) → Prop
  | nil : ReorderedIn [] []
  | cons {name : String} {node other : Node} {rest others : List (String × Node)} (here : Reordered node other)
    (later : ReorderedIn rest others) : ReorderedIn ((name, node) :: rest) ((name, other) :: others)

end

/-! ## Places -/

theorem ReorderedIn.names {entries others : List (String × Node)} (alike : ReorderedIn entries others) :
    entries.map (·.1) = others.map (·.1) := by
  induction entries generalizing others with
  | nil => cases alike; rfl
  | cons entry rest ih =>
    cases alike with
    | cons here later => rw [List.map_cons, List.map_cons, ih later]

theorem ReorderedIn.valueAt? {entries others : List (String × Node)} (alike : ReorderedIn entries others) (name : String) :
    Option.Rel Reordered (valueAt? name entries) (valueAt? name others) := by
  induction entries generalizing others with
  | nil => cases alike; exact .none
  | cons entry rest ih =>
    cases alike with
    | cons here later =>
      rw [DeclIndex.valueAt?, DeclIndex.valueAt?]
      split
      · exact .some here
      · exact ih later

mutual

theorem Reordered.wellFormed : ∀ {tree other : Node}, Reordered tree other → tree.WellFormed → other.WellFormed
  | .file _, _, .file _, _ => trivial
  | .link _, _, .link _, _ => trivial
  | .folder _, _, .folder alike order, formed => by
    refine ⟨(order.map _).nodup_iff.mp (alike.names ▸ formed.1), wellFormedIn_iff.mpr fun entry member => ?_⟩
    exact wellFormedIn_iff.mp (alike.wellFormedIn formed.2) entry (order.mem_iff.mpr member)

theorem ReorderedIn.wellFormedIn : ∀ {entries others : List (String × Node)}, ReorderedIn entries others →
    WellFormedIn entries → WellFormedIn others
  | [], _, .nil, _ => trivial
  | _ :: _, _, .cons here later, ⟨plain, formed, formedToo⟩ =>
    ⟨plain, here.wellFormed formed, later.wellFormedIn formedToo⟩

end

/-- Under every list of names, reordered trees have something reordered. -/
theorem Reordered.get? {tree other : Node} (order : Reordered tree other) (formed : tree.WellFormed) (path : List String) :
    Option.Rel Reordered (tree.get? path) (other.get? path) := by
  induction path generalizing tree other with
  | nil => exact .some order
  | cons name rest ih =>
    cases order with
    | file bytes => exact .none
    | link target => exact .none
    | @folder entries same others alike perm =>
      have distinct : (same.map (·.1)).Nodup := alike.names ▸ formed.1
      have both := alike.valueAt? name
      rw [valueAt?_perm perm distinct] at both
      rw [Node.get?, Node.get?]
      cases found : DeclIndex.valueAt? name entries with
      | none =>
        rw [found] at both
        generalize DeclIndex.valueAt? name others = there at both
        cases both
        exact .none
      | some child =>
        rw [found] at both
        generalize DeclIndex.valueAt? name others = there at both
        cases both with
        | some reordered => exact ih reordered (formed.2.of_mem (mem_of_valueAt? found)).2

/-- Two trees have the same at every place, but folders may have other entries. -/
def SamePlaces (tree other : Node) : Prop :=
  ∀ path, Option.Rel Alike (tree.get? path) (other.get? path)

theorem Reordered.alike {node other : Node} (order : Reordered node other) : Alike node other := by
  cases order with
  | file bytes => rfl
  | link target => rfl
  | folder => trivial

theorem Reordered.samePlaces {tree other : Node} (order : Reordered tree other) (formed : tree.WellFormed) :
    SamePlaces tree other := by
  intro path
  have both := order.get? formed path
  generalize tree.get? path = node at both ⊢
  generalize other.get? path = nodeToo at both ⊢
  cases both with
  | none => exact .none
  | some reordered => exact .some reordered.alike

namespace SamePlaces

variable {tree other : Node} {path : List String}

theorem missing (same : SamePlaces tree other) (found : tree.get? path = none) : other.get? path = none := by
  have both := same path
  rw [found] at both
  generalize other.get? path = there at both ⊢
  cases both
  rfl

theorem found (same : SamePlaces tree other) {node : Node} (found : tree.get? path = some node) :
    ∃ nodeToo, other.get? path = some nodeToo ∧ Alike node nodeToo := by
  have both := same path
  rw [found] at both
  generalize other.get? path = there at both ⊢
  cases both with
  | some alike => exact ⟨_, rfl, alike⟩

theorem file (same : SamePlaces tree other) {bytes : ByteArray} (found : tree.get? path = some (.file bytes)) :
    other.get? path = some (.file bytes) := by
  obtain ⟨node, there, alike⟩ := same.found found
  cases node <;> cases alike
  exact there

theorem link (same : SamePlaces tree other) {target : String} (found : tree.get? path = some (.link target)) :
    other.get? path = some (.link target) := by
  obtain ⟨node, there, alike⟩ := same.found found
  cases node <;> cases alike
  exact there

theorem folder (same : SamePlaces tree other) {entries : List (String × Node)} (found : tree.get? path = some (.folder entries)) :
    ∃ others, other.get? path = some (.folder others) := by
  obtain ⟨node, there, alike⟩ := same.found found
  cases node with
  | file bytes => cases alike
  | link target => cases alike
  | folder others => exact ⟨others, there⟩

theorem noLink (same : SamePlaces tree other) (free : ∀ target, tree.get? path ≠ some (.link target)) (target : String) :
    other.get? path ≠ some (.link target) := by
  intro there
  cases found : tree.get? path with
  | none => simp [same.missing found] at there
  | some node =>
    obtain ⟨nodeToo, thereToo, alike⟩ := same.found found
    cases there.symm.trans thereToo
    cases node <;> cases alike
    exact free target found

/-- A walk depends on places alone. -/
theorem walk (same : SamePlaces tree other) (links : Nat) (here path : List String) :
    other.walk .present links here path = tree.walk .present links here path := by
  fun_induction Node.walk tree .present links here path with
  | case1 => rw [Node.walk]
  | case2 _ _ _ _ isHere ih => rw [Node.walk, if_pos isHere, ih]
  | case3 _ _ _ notHere ih => rw [Node.walk, if_neg notHere, if_pos rfl, ih]
  | case4 _ _ _ _ _ _ closed => simp at closed
  | case5 _ _ _ _ notHere notUp notClosed long => rw [Node.walk, if_neg notHere, if_neg notUp, if_neg notClosed, if_pos long]
  | case6 _ _ _ _ _ _ _ _ _ _ free => simp at free
  | case7 _ _ _ _ notHere notUp _ short _ found => rw [walk_name notHere notUp short, same.missing found]
  | case8 _ _ _ _ notHere notUp _ short _ _ found ih =>
    obtain ⟨others, there⟩ := same.folder found
    rw [walk_name notHere notUp short, there]
    exact ih
  | case9 _ _ _ _ notHere notUp _ short _ _ found atEnd =>
    rw [walk_name notHere notUp short, same.file found]
    exact if_pos atEnd
  | case10 _ _ _ _ notHere notUp _ short _ _ found further =>
    rw [walk_name notHere notUp short, same.file found]
    exact if_neg further
  | case11 _ _ _ _ _ _ _ _ _ _ _ isEntry => simp at isEntry
  | case12 _ _ _ notHere notUp _ short _ _ found => rw [walk_name notHere notUp short, same.link found]
  | case13 _ _ _ notHere notUp _ short _ _ found _ _ ih =>
    rw [walk_name notHere notUp short, same.link found]
    exact ih

theorem place (same : SamePlaces tree other) (path : List String) : other.place .present path = tree.place .present path := by
  rw [Node.place, Node.place, same.walk]

theorem follow (same : SamePlaces tree other) (depth : Nat) (met : Met) (here path : List String) :
    other.follow depth met here path = tree.follow depth met here path := by
  fun_induction Node.follow tree depth met here path with
  | case1 => rw [Node.follow]
  | case2 _ _ _ _ _ isHere ih => rw [Node.follow, if_pos isHere, ih]
  | case3 _ _ _ _ notHere ih => rw [Node.follow, if_neg notHere, if_pos rfl, ih]
  | case4 _ _ _ _ notHere notUp _ _ found _ _ known ih =>
    rw [follow_link notHere notUp (same.link found), known]
    exact ih
  | case5 _ _ _ _ _ notHere notUp _ _ found open_ => rw [follow_link notHere notUp (same.link found), open_]
  | case6 _ _ _ _ notHere notUp _ _ found new => rw [follow_link notHere notUp (same.link found), new]
  | case7 _ _ _ _ notHere notUp _ _ found _ new inner whole _ sameInner ih =>
    rw [follow_link notHere notUp (same.link found), new]
    dsimp only
    rw [sameInner]
    exact (if_pos whole).trans ih
  | case8 _ _ _ _ notHere notUp _ _ found _ new inner notWhole sameInner =>
    rw [follow_link notHere notUp (same.link found), new]
    dsimp only
    rw [sameInner]
    exact if_neg notWhole
  | case9 _ _ _ _ _ notHere notUp _ noLink ih =>
    rw [follow_noLink notHere notUp (same.noLink noLink)]
    exact ih

end SamePlaces

/-! ## Links -/

theorem linkCountIn_perm {entries others : List (String × Node)} (order : entries.Perm others) :
    linkCountIn entries = linkCountIn others := by
  induction order with
  | nil => rfl
  | cons entry _ ih => rw [linkCountIn, linkCountIn, ih]
  | swap first second rest => simp only [linkCountIn, Nat.add_left_comm]
  | trans _ _ ih ihToo => exact ih.trans ihToo

mutual

theorem Reordered.linkCount : ∀ {tree other : Node}, Reordered tree other → tree.linkCount = other.linkCount
  | .file _, _, .file _ => rfl
  | .link _, _, .link _ => rfl
  | .folder _, _, .folder alike order => by
    rw [Node.linkCount, Node.linkCount, alike.linkCount, linkCountIn_perm order]

theorem ReorderedIn.linkCount : ∀ {entries others : List (String × Node)}, ReorderedIn entries others →
    linkCountIn entries = linkCountIn others
  | [], _, .nil => rfl
  | _ :: _, _, .cons here later => by rw [linkCountIn, linkCountIn, here.linkCount, later.linkCount]

end

/-! ## Paths -/

section Paths

variable {tree other : Node}

theorem Reordered.resolve (order : Reordered tree other) (formed : tree.WellFormed) (path : List String) :
    other.resolve path = tree.resolve path := by
  have same := order.samePlaces formed
  rw [Node.resolve, Node.resolve, same.follow, ← order.linkCount]
  simp only [same.place]

/-- A path leads to the same file in both trees, or to a folder in both, or it fails for the same reason. -/
theorem Reordered.find (order : Reordered tree other) (formed : tree.WellFormed) (path : List String) :
    (∃ error, tree.find path = .error error ∧ other.find path = .error error) ∨
      ∃ node nodeToo, tree.find path = .ok node ∧ other.find path = .ok nodeToo ∧ Alike node nodeToo := by
  have same := order.samePlaces formed
  simp only [Node.find, same.place]
  cases tree.place .present path with
  | error error => exact .inl ⟨error, rfl, rfl⟩
  | ok place =>
    cases there : tree.get? place with
    | none => exact .inl ⟨.missing, by simp [bind, Except.bind, there], by simp [bind, Except.bind, same.missing there]⟩
    | some node =>
      obtain ⟨nodeToo, thereToo, alike⟩ := same.found there
      exact .inr ⟨node, nodeToo, by simp [bind, Except.bind, there], by simp [bind, Except.bind, thereToo], alike⟩

theorem Reordered.read (order : Reordered tree other) (formed : tree.WellFormed) (path : List String) :
    other.read path = tree.read path := by
  unfold Node.read
  rcases order.find formed path with ⟨error, found, foundToo⟩ | ⟨node, nodeToo, found, foundToo, alike⟩
  · rw [found, foundToo]
  · rw [found, foundToo]
    cases node <;> cases nodeToo <;> cases alike <;> rfl

end Paths

end Node
end DeclIndex
