import DeclIndex.Project
import DeclIndex.Proofs.Table

/-!
# Reading what was written

Writing changes one place of a tree, and the links and folders on the way to it stay. So a path leads to the file that was
written through it, and a library that was stored is loaded from its own text.
-/

namespace DeclIndex
namespace Node

/-! ## Places -/

theorem get?_append (node : Node) (front back : List String) :
    node.get? (front ++ back) = (node.get? front).bind (·.get? back) := by
  induction front generalizing node with
  | nil => rfl
  | cons name rest ih =>
    cases node with
    | file bytes => rfl
    | link target => rfl
    | folder entries =>
      simp only [List.cons_append, get?]
      cases valueAt? name entries with
      | none => rfl
      | some child => exact ih child

/-- There is a folder at a place. -/
def FolderAt (root : Node) (place : List String) : Prop :=
  ∃ entries, root.get? place = some (.folder entries)

theorem FolderAt.parent {root : Node} {front : List String} {name : String} (inside : root.FolderAt (front ++ [name])) :
    root.FolderAt front := by
  obtain ⟨entries, found⟩ := inside
  rw [get?_append] at found
  cases above : root.get? front with
  | none => rw [above] at found; cases found
  | some node =>
    rw [above] at found
    cases node with
    | file bytes => cases found
    | link target => cases found
    | folder others => exact ⟨others, above⟩

private theorem alter_deeper {change : Option Node → Option Node} {name : String} {rest : List String}
    {entries : List (String × Node)} {child : Node} (deeper : rest ≠ []) (found : valueAt? name entries = some child) :
    alter change (name :: rest) (.folder entries) = .folder (putEntry name (child.alter change rest) entries) := by
  cases rest with
  | nil => exact absurd rfl deeper
  | cons next more => simp [alter, found]

private theorem alter_folder (change : Option Node → Option Node) (name : String) (rest : List String)
    (entries : List (String × Node)) : ∃ after, alter change (name :: rest) (.folder entries) = .folder after := by
  cases rest with
  | nil => exact ⟨_, rfl⟩
  | cons next more =>
    cases child : valueAt? name entries with
    | none => exact ⟨entries, by simp [alter, child]⟩
    | some inner => exact ⟨_, alter_deeper (by simp) child⟩

/-- A node that was put into a folder is found there. -/
theorem get?_alter_self {root new : Node} {front : List String} (name : String) (inside : root.FolderAt front) :
    (root.alter (fun _ => some new) (front ++ [name])).get? (front ++ [name]) = some new := by
  obtain ⟨entries, found⟩ := inside
  induction front generalizing root with
  | nil =>
    cases found
    simp [alter, setEntry, get?, Table.valueAt?_putEntry]
  | cons first rest ih =>
    cases root with
    | file bytes => cases found
    | link target => cases found
    | folder others =>
      cases child : valueAt? first others with
      | none => simp [get?, child] at found
      | some node =>
        simp only [get?, child] at found
        rw [List.cons_append, alter_deeper (by simp) child]
        simp [get?, Table.valueAt?_putEntry, ih found]

/-- Two nodes are the same, or both are folders. -/
def Alike : Node → Node → Prop
  | .folder _, .folder _ => True
  | node, other => node = other

theorem Alike.refl (node : Node) : Alike node node := by
  cases node <;> simp [Alike]

/-- Whatever is put in the place of something else than a folder leaves all other places alike. -/
theorem get?_alter_other {root new : Node} {place other : List String} {node : Node} (free : ¬ root.FolderAt place)
    (apart : other ≠ place) (found : root.get? other = some node) :
    ∃ after, (root.alter (fun _ => some new) place).get? other = some after ∧ Alike node after := by
  induction place generalizing root other with
  | nil =>
    cases other with
    | nil => exact absurd rfl apart
    | cons name rest =>
      cases root with
      | file bytes => cases found
      | link target => cases found
      | folder entries => exact absurd ⟨entries, rfl⟩ free
  | cons name rest ih =>
    cases root with
    | file bytes => exact ⟨node, by simpa [alter] using found, Alike.refl node⟩
    | link target => exact ⟨node, by simpa [alter] using found, Alike.refl node⟩
    | folder entries =>
      cases other with
      | nil =>
        cases found
        obtain ⟨after, same⟩ := alter_folder (fun _ => some new) name rest entries
        exact ⟨.folder after, by rw [same]; rfl, trivial⟩
      | cons first more =>
        simp only [get?] at found
        by_cases same : name = first
        · subst same
          cases child : valueAt? name entries with
          | none => simp [child] at found
          | some inner =>
            simp only [child] at found
            have freeInner : ¬ inner.FolderAt rest := by
              rintro ⟨others, there⟩
              exact free ⟨others, by simpa [get?, child] using there⟩
            have apartInner : more ≠ rest := fun equal => apart (by rw [equal])
            obtain ⟨after, reached, alike⟩ := ih freeInner apartInner found
            refine ⟨after, ?_, alike⟩
            cases rest with
            | nil => simpa [alter, setEntry, get?, Table.valueAt?_putEntry] using reached
            | cons next beyond =>
              rw [alter_deeper (by simp) child]
              simpa [get?, Table.valueAt?_putEntry] using reached
        · refine ⟨node, ?_, Alike.refl node⟩
          cases rest with
          | nil => simpa [alter, setEntry, get?, Table.valueAt?_putEntry, same] using found
          | cons next beyond =>
            cases child : valueAt? name entries with
            | none => simpa [alter, child, get?] using found
            | some inner =>
              rw [alter_deeper (by simp) child]
              simpa [get?, Table.valueAt?_putEntry, same] using found

/-! ## Paths -/

theorem FolderAt.above {root : Node} {here : List String} (inside : root.FolderAt here.reverse) :
    root.FolderAt (here.drop 1).reverse := by
  cases here with
  | nil => exact inside
  | cons name rest =>
    rw [List.reverse_cons] at inside
    exact inside.parent

theorem FolderAt.targetStart {root : Node} {here : List String} (inside : root.FolderAt here.reverse)
    (whole : root.FolderAt []) (target : String) : root.FolderAt (Node.targetStart target here).reverse := by
  unfold Node.targetStart
  split
  · exact whole
  · exact inside

/-- A place that a path may be written to is in a folder, and is no link. -/
theorem walk_written {root : Node} {links : Nat} {here path place : List String} (whole : root.FolderAt [])
    (inside : root.FolderAt here.reverse) (free : ¬ root.FolderAt place)
    (reached : root.walk .written links here path = .ok place) :
    (∃ front name, place = front ++ [name] ∧ root.FolderAt front) ∧
      ∀ target, root.get? place ≠ some (.link target) := by
  -- the walk stays in folders, and ends at a new name (6) or at a file (9)
  fun_induction walk root .written links here path with
  | case1 => cases reached; exact absurd inside free
  | case2 _ _ _ _ _ ih => exact ih inside reached
  | case3 _ _ _ _ ih => exact ih inside.above reached
  | case6 _ here name _ _ _ _ _ spot missing =>
    rw [← Except.ok.inj reached]
    exact ⟨⟨here.reverse, name, by simp [spot], inside⟩, by simp [missing]⟩
  | case8 _ _ _ _ _ _ _ _ _ entries found ih => exact ih ⟨entries, found⟩ reached
  | case9 _ here name _ _ _ _ _ spot bytes found =>
    rw [← Except.ok.inj reached]
    exact ⟨⟨here.reverse, name, by simp [spot], inside⟩, by simp [found]⟩
  | case11 _ _ _ _ _ _ _ _ _ _ _ isEntry => simp at isEntry
  | case13 _ _ _ _ _ _ _ _ target _ _ _ ih => exact ih (inside.targetStart whole target) reached
  | _ => cases reached

theorem walk_name {root : Node} {links : Nat} {here rest : List String} {name : String} (notHere : ¬ isHere name)
    (notUp : ¬ name = "..") (short : ¬ nameLimit < name.utf8ByteSize) :
    root.walk .present links here (name :: rest) =
      match root.get? (name :: here).reverse, links with
      | none, _ => .error .missing
      | some (.folder _), links => root.walk .present links (name :: here) rest
      | some (.file _), _ => if rest.isEmpty then .ok (name :: here).reverse else .error .notFolder
      | some (.link _), 0 => .error .loop
      | some (.link target), links + 1 =>
        root.walk .present links (targetStart target here) (targetNames target ++ rest) := by
  rw [walk, if_neg notHere, if_neg notUp, if_neg (by simp), if_neg short]
  dsimp only
  rcases root.get? (name :: here).reverse with _ | _ | _ | _
  · simp
  · rfl
  · cases links <;> simp
  · rfl

/-- The way to a place that is written to stays the same once there is a file. -/
theorem walk_alter {root : Node} {bytes : ByteArray} {links : Nat} {here path place : List String} (whole : root.FolderAt [])
    (inside : root.FolderAt here.reverse) (free : ¬ root.FolderAt place)
    (noLink : ∀ target, root.get? place ≠ some (.link target))
    (reached : root.walk .written links here path = .ok place) :
    (root.alter (fun _ => some (.file bytes)) place).walk .present links here path = .ok place := by
  have written {here : List String} {name : String} (inside : root.FolderAt here.reverse) :
      (root.alter (fun _ => some (.file bytes)) (name :: here).reverse).get? (name :: here).reverse = some (.file bytes) := by
    rw [List.reverse_cons]
    exact get?_alter_self name inside
  -- folders (8) and links (13) on the way are in other places than the new file
  fun_induction walk root .written links here path with
  | case1 => cases reached; exact absurd inside free
  | case2 _ _ _ _ isHere ih => rw [walk, if_pos isHere]; exact ih inside reached
  | case3 _ _ _ notHere ih => rw [walk, if_neg notHere, if_pos rfl]; exact ih inside.above reached
  | case6 _ here name rest notHere notUp _ short spot missing last =>
    rw [← Except.ok.inj reached, walk_name notHere notUp short, written inside]
    simp at last
    simp [last, spot]
  | case8 _ here name rest notHere notUp _ short spot entries found ih =>
    have apart : spot ≠ place := fun same => free ⟨entries, same ▸ found⟩
    obtain ⟨after, kept, alike⟩ := @get?_alter_other _ (.file bytes) _ _ _ free apart found
    rw [walk_name notHere notUp short, kept]
    cases after with
    | folder others => exact ih ⟨entries, found⟩ reached
    | file _ => cases alike
    | link _ => cases alike
  | case9 _ here name rest notHere notUp _ short spot old found last =>
    rw [← Except.ok.inj reached, walk_name notHere notUp short, written inside]
    simp [last, spot]
  | case13 here name rest notHere notUp _ short spot target found _ links ih =>
    have apart : spot ≠ place := fun same => noLink target (same ▸ found)
    obtain ⟨after, kept, alike⟩ := @get?_alter_other _ (.file bytes) _ _ _ free apart found
    rw [walk_name notHere notUp short, kept]
    cases after with
    | folder _ => cases alike
    | file _ => cases alike
    | link _ => cases alike; exact ih (inside.targetStart whole target) reached
  | case11 _ _ _ _ _ _ _ _ _ _ _ isEntry => simp at isEntry
  | _ => cases reached

theorem place_ok_iff {root : Node} {last : Last} {path place : List String} :
    root.place last path = .ok place ↔
      hasNul path = false ∧ pathSize path < pathLimit ∧ root.walk last linkLimit [] path = .ok place := by
  unfold Node.place
  by_cases nul : hasNul path = true
  · simp [nul]
  · by_cases size : pathLimit ≤ pathSize path
    · simp [nul, size, Nat.not_lt_of_le size]
    · simp [nul, size, Nat.lt_of_not_le size]

theorem read_ok_iff {root : Node} {path : List String} {bytes : ByteArray} :
    root.read path = .ok bytes ↔ root.find path = .ok (.file bytes) := by
  unfold Node.read
  cases root.find path with
  | error error => simp [bind, Except.bind]
  | ok node => cases node <;> simp [bind, Except.bind]

/-! ## Paths without links -/

/-- Names of entries that are not too long. -/
def Ordinary (path : List String) : Prop :=
  ∀ name ∈ path, isHere name = false ∧ name ≠ ".." ∧ name.utf8ByteSize ≤ nameLimit

instance (path : List String) : Decidable (Ordinary path) :=
  inferInstanceAs (Decidable (∀ name ∈ path, _ ∧ _ ∧ _))

/-- A path has the names of a file or a folder, from the root on. -/
structure NamesOf (root : Node) (node : Node) (path : List String) : Prop where
  found : root.get? path = some node
  noLink : ∀ target, node ≠ .link target
  ordinary : Ordinary path
  noNul : hasNul path = false
  short : pathSize path < pathLimit

/-- On the way to what is no link are folders, and no links. -/
theorem get?_onWay {root node : Node} {front back : List String} (found : root.get? (front ++ back) = some node)
    (noLink : ∀ target, node ≠ .link target) :
    root.FolderAt front ∨ back = [] ∧ ∃ bytes, root.get? front = some (.file bytes) := by
  rw [get?_append] at found
  obtain ⟨next, there, below⟩ := Option.bind_eq_some_iff.mp found
  cases next with
  | folder entries => exact .inl ⟨entries, there⟩
  | file bytes =>
    cases back with
    | nil => exact .inr ⟨rfl, bytes, there⟩
    | cons => cases below
  | link target =>
    cases back with
    | nil => exact absurd (Option.some.inj below).symm (noLink target)
    | cons => cases below

theorem walk_names {root node : Node} {links : Nat} {here rest : List String} (ordinary : Ordinary rest)
    (found : root.get? (here.reverse ++ rest) = some node) (noLink : ∀ target, node ≠ .link target) :
    root.walk .present links here rest = .ok (here.reverse ++ rest) := by
  induction rest generalizing here with
  | nil => simp [walk]
  | cons name rest ih =>
    obtain ⟨⟨notHere, notUp, short⟩, others⟩ := List.forall_mem_cons.mp ordinary
    have same : here.reverse ++ name :: rest = (name :: here).reverse ++ rest := by simp
    rw [same] at found
    rw [walk_name (by simp [notHere]) notUp (Nat.not_lt_of_le short), same]
    rcases get?_onWay found noLink with ⟨entries, there⟩ | ⟨rfl, bytes, there⟩
    · rw [there]
      exact ih others found
    · rw [there]
      simp

theorem follow_link {root : Node} {depth : Nat} {met : Met} {here rest : List String} {name target : String}
    (notHere : ¬ isHere name) (notUp : ¬ name = "..") (found : root.get? (name :: here).reverse = some (.link target)) :
    root.follow depth met here (name :: rest) =
      match met.lookup (name :: here), depth with
      | some (some known), depth => root.follow depth met known rest
      | some none, _ => ⟨climb (name :: here) rest, false, met⟩
      | none, 0 => ⟨climb (name :: here) rest, false, met⟩
      | none, depth + 1 =>
        let inner := root.follow depth ((name :: here, none) :: met) (targetStart target here) (targetNames target)
        if inner.isWhole then root.follow (depth + 1) ((name :: here, some inner.place) :: inner.met) inner.place rest
        else ⟨climb inner.place rest, false, inner.met⟩ := by
  rw [follow, if_neg notHere, if_neg notUp]
  dsimp only
  rcases met.lookup (name :: here) with _ | _ | _ <;> cases depth <;> rw [found]

theorem follow_noLink {root : Node} {depth : Nat} {met : Met} {here rest : List String} {name : String}
    (notHere : ¬ isHere name) (notUp : ¬ name = "..")
    (noLink : ∀ target, root.get? (name :: here).reverse ≠ some (.link target)) :
    root.follow depth met here (name :: rest) = root.follow depth met (name :: here) rest := by
  rw [follow, if_neg notHere, if_neg notUp]
  dsimp only
  split
  · next target found => exact absurd found (noLink target)
  · rfl

theorem follow_names {root node : Node} {depth : Nat} {met : Met} {here rest : List String} (ordinary : Ordinary rest)
    (found : root.get? (here.reverse ++ rest) = some node) (noLink : ∀ target, node ≠ .link target) :
    (root.follow depth met here rest).place.reverse = here.reverse ++ rest := by
  induction rest generalizing here with
  | nil => simp [follow]
  | cons name rest ih =>
    obtain ⟨⟨notHere, notUp, _⟩, others⟩ := List.forall_mem_cons.mp ordinary
    have same : here.reverse ++ name :: rest = (name :: here).reverse ++ rest := by simp
    rw [same] at found
    have free (target : String) : root.get? (name :: here).reverse ≠ some (.link target) := by
      rcases get?_onWay found noLink with ⟨entries, there⟩ | ⟨_, bytes, there⟩
      · rw [there]
        simp
      · rw [there]
        simp
    rw [follow_noLink (by simp [notHere]) notUp free, same]
    exact ih others found

section NamesOf

variable {root node : Node} {path : List String}

theorem NamesOf.place (names : NamesOf root node path) : root.place .present path = .ok path :=
  place_ok_iff.mpr ⟨names.noNul, names.short, @walk_names _ _ _ [] _ names.ordinary names.found names.noLink⟩

theorem NamesOf.resolve (names : NamesOf root node path) : root.resolve path = .ok path := by
  have followed := @follow_names root node root.linkCount [] [] path names.ordinary names.found names.noLink
  rw [List.reverse_nil, List.nil_append] at followed
  simp [Node.resolve, names.noNul, followed, names.place]

theorem NamesOf.find (names : NamesOf root node path) : root.find path = .ok node := by
  simp [Node.find, names.place, names.found, bind, Except.bind]

theorem NamesOf.read {bytes : ByteArray} (names : NamesOf root (.file bytes) path) : root.read path = .ok bytes := by
  simp [Node.read, names.find, bind, Except.bind]

end NamesOf

/-! ## Writing -/

/-- What was written through a path is read through it. -/
theorem read_write {root tree : Node} {path : List String} {bytes : ByteArray} (whole : root.FolderAt [])
    (written : root.write path bytes = .ok tree) : tree.read path = .ok bytes := by
  unfold write at written
  cases found : root.place .written path with
  | error error => simp [found, bind, Except.bind] at written
  | ok place =>
    have free : ¬ root.FolderAt place := by
      rintro ⟨entries, there⟩
      simp [found, there, bind, Except.bind] at written
    have same : root.alter (fun _ => some (.file bytes)) place = tree := by
      simp only [found, bind, Except.bind] at written
      split at written
      · cases written
      · exact Except.ok.inj written
    obtain ⟨noNul, short, reached⟩ := place_ok_iff.mp found
    have start : root.FolderAt (List.reverse []) := whole
    obtain ⟨⟨front, name, atFront, inside⟩, noLink⟩ := walk_written whole start free reached
    have again : tree.place .present path = .ok place := by
      rw [← same]
      exact place_ok_iff.mpr ⟨noNul, short, walk_alter whole start free noLink reached⟩
    have there : tree.get? place = some (.file bytes) := by
      rw [← same, atFront]
      exact get?_alter_self name inside
    simp [read, find, again, there, bind, Except.bind]

theorem FolderAt.alter {root new : Node} {place : List String} (whole : root.FolderAt []) (free : root.get? place = none) :
    (root.alter (fun _ => some new) place).FolderAt [] := by
  obtain ⟨entries, found⟩ := whole
  have missing : ¬ root.FolderAt place := by simp [FolderAt, free]
  have apart : [] ≠ place := by rintro rfl; simp [get?] at free
  obtain ⟨after, reached, alike⟩ := @get?_alter_other root new place [] _ missing apart found
  cases after with
  | folder others => exact ⟨others, reached⟩
  | file _ => cases alike
  | link _ => cases alike

theorem FolderAt.makeFolder {root tree : Node} {path : List String} (whole : root.FolderAt [])
    (made : root.makeFolder path = .ok tree) : tree.FolderAt [] := by
  unfold Node.makeFolder at made
  cases found : root.place .entry path with
  | error error => simp [found, bind, Except.bind] at made
  | ok place =>
    cases there : root.get? place with
    | some node => simp [found, there, bind, Except.bind] at made
    | none =>
      simp only [found, there, bind, Except.bind, Except.ok.injEq] at made
      exact made ▸ whole.alter there

theorem FolderAt.makeFolders {root : Node} (whole : root.FolderAt []) (path : Path) :
    (root.makeFolders path).1.FolderAt [] := by
  fun_induction Node.makeFolders root path with
  | case1 _ _ made => exact whole.makeFolder made
  | case2 => exact whole
  | case3 _ _ _ _ _ above ih => simpa [above] using ih
  | case4 _ _ _ _ above _ made ih => exact FolderAt.makeFolder (by simpa [above] using ih) made
  | case5 _ _ _ _ above _ _ ih => simpa [above] using ih
  | case6 => exact whole

end Node

theorem fromUTF8?_toUTF8 (text : String) : String.fromUTF8? text.toUTF8 = some text := by
  simp [String.fromUTF8?, String.fromUTF8, text.isValidUTF8]

/-- A library that was stored is loaded from the text it was stored as. -/
theorem Project.load_save {tree after : Node} {library : Library} {path : Path} (whole : tree.FolderAt [])
    (saved : Project.save tree library path = (after, .ok ())) (depth : Nat) (includePrivate : Bool) :
    Project.load after depth includePrivate path = (Library.load depth includePrivate library.saved).map some := by
  have folders := whole.makeFolders path.parent
  unfold Project.save at saved
  revert saved folders
  rcases tree.makeFolders path.parent with ⟨between, failure | done⟩
  · simp
  · intro saved folders
    cases written : between.write path.parts library.saved.toUTF8 with
    | error error => simp only [written, Prod.mk.injEq, reduceCtorEq, and_false] at saved
    | ok final =>
      simp only [written, Prod.mk.injEq, and_true] at saved
      subst saved
      simp only [Project.load, Node.read_write folders written, fromUTF8?_toUTF8]

end DeclIndex
