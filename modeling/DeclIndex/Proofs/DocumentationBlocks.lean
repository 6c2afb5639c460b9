import DeclIndex.Proofs.LineBreaks
import DeclIndex.Proofs.LinesAbove
import DeclIndex.Proofs.FunctionText

/-!
# Documentation above a function

The lines of a documentation are written above a function behind three slashes and a space, with blank lines wherever one likes. What
the scan gives back are the same lines, inner indentation included, without those that are empty at either end: the space behind the
slashes is the margin that all lines share, since one of them at least has no other.
-/

namespace DeclIndex
open DeclIndex.Text

namespace Text

/-! ## The common margin -/

theorem isBlank_of_isMargin {c : Char} (margin : isMargin c) : isBlank c = true := by
  rw [isMargin, Bool.or_eq_true, beq_iff_eq, beq_iff_eq] at margin
  rcases margin with rfl | rfl
  · rfl
  · rfl

theorem prefix_commonFront_iff {front a b : List Char} : front <+: commonFront a b ↔ front <+: a ∧ front <+: b := by
  fun_induction commonFront a b generalizing front with
  | case1 as b bs ih =>
    cases front with
    | nil => simp
    | cons c front =>
      rw [List.cons_prefix_cons, List.cons_prefix_cons, List.cons_prefix_cons, ih]
      exact ⟨fun ⟨same, left, right⟩ => ⟨⟨same, left⟩, same, right⟩, fun ⟨⟨same, left⟩, _, right⟩ => ⟨same, left, right⟩⟩
  | case2 a as b bs differ =>
    cases front with
    | nil => simp
    | cons c front =>
      rw [List.cons_prefix_cons, List.cons_prefix_cons]
      simp only [List.prefix_nil, reduceCtorEq, false_iff]
      rintro ⟨⟨rfl, _⟩, rfl, _⟩
      exact differ rfl
  | case3 a b apart =>
    cases front with
    | nil => simp
    | cons c front =>
      simp only [List.prefix_nil, reduceCtorEq, false_iff]
      rintro ⟨⟨left, rfl⟩, right, rfl⟩
      exact apart c (front ++ left) c (front ++ right) rfl rfl

theorem prefix_foldl_commonFront_iff {front first : List Char} {others : List (List Char)} :
    front <+: others.foldl commonFront first ↔ ∀ text ∈ first :: others, front <+: text := by
  induction others generalizing first with
  | nil => simp
  | cons next rest ih =>
    rw [List.foldl_cons, ih]
    simp only [List.forall_mem_cons, prefix_commonFront_iff, and_assoc]

/-- A line with something besides spaces and tabs. -/
def Shown (line : List Char) : Prop :=
  line.any (!isMargin ·)

/-- The margin of some lines is the longest one that all lines with something on them have. -/
theorem prefix_margin_iff {front : List Char} {group : List (List Char)} (shown : ∃ line ∈ group, Shown line) :
    front <+: margin group ↔ ∀ line ∈ group, Shown line → front <+: line.takeWhile isMargin := by
  obtain ⟨line, member, something⟩ := shown
  have inside : line.takeWhile isMargin ∈ (group.filter (·.any (!isMargin ·))).map (·.takeWhile isMargin) :=
    List.mem_map_of_mem (List.mem_filter.mpr ⟨member, something⟩)
  obtain ⟨first, others, split⟩ := List.exists_cons_of_ne_nil (List.ne_nil_of_mem inside)
  rw [margin, split]
  dsimp only
  rw [prefix_foldl_commonFront_iff, ← split, List.forall_mem_map]
  simp only [List.mem_filter, and_imp, Shown]

/-! ## Empty lines at the ends -/

/-- Lines without the empty ones at either end. -/
def withoutEmptyEnds (group : List (List Char)) : List (List Char) :=
  ((group.dropWhile (·.isEmpty)).reverse.dropWhile (·.isEmpty)).reverse

theorem dropWhile_unlines {group : List (List Char)} (single : ∀ line ∈ group, '\n' ∉ line) :
    (unlines group).dropWhile (· == '\n') = unlines (group.dropWhile (·.isEmpty)) := by
  induction group with
  | nil => rfl
  | cons line below ih =>
    obtain ⟨singleLine, singleBelow⟩ := List.forall_mem_cons.mp single
    cases line with
    | nil =>
      rw [List.dropWhile_cons_of_pos rfl, ← ih singleBelow]
      by_cases last : below = []
      · rw [last]
        rfl
      · rw [unlines_cons last, List.nil_append, List.dropWhile_cons_of_pos (by simp)]
    | cons c more =>
      have kept (rest : List Char) : (c :: rest).dropWhile (· == '\n') = c :: rest := by
        refine List.dropWhile_cons_of_neg ?_
        rw [beq_iff_eq]
        rintro rfl
        exact singleLine List.mem_cons_self
      rw [List.dropWhile_cons_of_neg (by simp)]
      by_cases last : below = []
      · rw [last, unlines, List.intercalate_singleton, kept]
      · rw [unlines_cons last, List.cons_append, kept]

theorem reverse_unlines (group : List (List Char)) : (unlines group).reverse = unlines (group.reverse.map List.reverse) := by
  induction group with
  | nil => rfl
  | cons line below ih =>
    by_cases last : below = []
    · subst last
      simp [unlines]
    · rw [unlines_cons last, List.reverse_append, List.reverse_cons, ih, List.reverse_cons, List.map_append,
        List.map_cons, List.map_nil, unlines_concat (by simpa using last), List.append_assoc, List.singleton_append]

theorem stripLineFeeds_unlines {group : List (List Char)} (single : ∀ line ∈ group, '\n' ∉ line) :
    stripLineFeeds (unlines group) = unlines (withoutEmptyEnds group) := by
  have singleBack : ∀ line ∈ (group.dropWhile (·.isEmpty)).reverse.map List.reverse, '\n' ∉ line := by
    intro line member
    obtain ⟨turned, inside, rfl⟩ := List.mem_map.mp member
    rw [List.mem_reverse]
    exact single turned ((List.dropWhile_suffix _).subset (List.mem_reverse.mp inside))
  have sameEmpty : (fun line : List Char => line.isEmpty) ∘ List.reverse = fun line => line.isEmpty :=
    funext fun line => List.isEmpty_reverse
  rw [stripLineFeeds, dropWhile_unlines single, reverse_unlines, dropWhile_unlines singleBack, List.dropWhile_map, sameEmpty,
    reverse_unlines, ← List.map_reverse, List.map_map, List.reverse_involutive.comp_self, List.map_id, withoutEmptyEnds]

end Text

namespace Aiken

/-! ## Writing a documentation -/

/-- A text that does not end with a blank. -/
def EndsVisibly (text : List Char) : Prop :=
  ∀ c ∈ text.getLast?, isBlank c = false

instance (text : List Char) : Decidable (EndsVisibly text) :=
  Option.decidableForallMem text.getLast?

/-- A documentation: no line ends with a blank, and some line begins at the margin. -/
structure IsDocumentation (docs : List (List Char)) : Prop where
  tidy : ∀ doc ∈ docs, EndsVisibly doc
  flush : ∃ doc ∈ docs, ∃ c ∈ doc.head?, isMargin c = false

/-- A line of a documentation, behind three slashes and a space. -/
def docLine (doc : List Char) : List Char :=
  "/// ".toList ++ doc

/-- What is read from a line of a documentation: with the space in front of it, unless it is empty. -/
def readBack (doc : List Char) : List Char :=
  trimRight (' ' :: doc)

/-- A line that is not blank. -/
def hasText (line : List Char) : Bool :=
  !(trim line).isEmpty

/-- A line above which no documentation is looked for: text, or a comment about the whole file. -/
def EndsDocumentation (line : List Char) : Prop :=
  trim line ≠ [] ∧ (startsWith (trim line) "///" → startsWith (trim line) "////")

section Line

variable {doc : List Char}

theorem readBack_of_ne_nil (tidy : EndsVisibly doc) (nonempty : doc ≠ []) : readBack doc = ' ' :: doc := by
  refine trimRight_of_last fun c last => tidy c ?_
  rwa [List.getLast?_cons_of_ne_nil nonempty] at last

theorem shown_readBack_iff (tidy : EndsVisibly doc) : Shown (readBack doc) ↔ doc ≠ [] := by
  refine ⟨?_, fun nonempty => ?_⟩
  · rintro shown rfl
    cases shown
  · have last : doc.getLast nonempty ∈ doc.getLast? := List.getLast?_eq_some_getLast nonempty
    have beyond : isMargin (doc.getLast nonempty) = false := by
      refine Bool.eq_false_iff.mpr fun margin => ?_
      have visible := tidy _ last
      rw [isBlank_of_isMargin margin] at visible
      cases visible
    rw [readBack_of_ne_nil tidy nonempty, Shown, List.any_eq_true]
    exact ⟨_, List.mem_cons_of_mem _ (List.getLast_mem nonempty), by rw [beyond]; rfl⟩

theorem trim_docLine (tidy : EndsVisibly doc) : trim (docLine doc) = "///".toList ++ readBack doc := by
  have visible : Visible (docLine doc) := by
    intro c first
    cases first
    rfl
  rw [trim, trimLeft_of_visible visible]
  by_cases empty : doc = []
  · rw [empty]
    rfl
  · rw [readBack_of_ne_nil tidy empty]
    refine trimRight_of_last fun c last => tidy c ?_
    unfold docLine at last
    rwa [List.getLast?_append_of_ne_nil _ empty] at last

theorem docLines_docLine (tidy : EndsVisibly doc) (above : List (List Char)) :
    docLines (docLine doc :: above) = readBack doc :: docLines above := by
  have stable : trimRight (readBack doc) = readBack doc := List.rdropWhile_idempotent _ _
  have single : ¬ startsWith ("///".toList ++ readBack doc) "////" := by
    by_cases empty : doc = []
    · rw [empty]
      decide
    · rw [readBack_of_ne_nil tidy empty]
      exact Bool.false_ne_true
  rw [docLines, trim_docLine tidy, if_neg single, dropFront?_append]
  dsimp only
  rw [stable]

end Line

/-! ## Reading it back -/

/-- Whether blank lines stand among the lines above makes no difference. -/
theorem docLines_filter (above : List (List Char)) : docLines (above.filter hasText) = docLines above := by
  induction above with
  | nil => rfl
  | cons line above ih =>
    by_cases blank : trim line = []
    · rw [List.filter_cons_of_neg (by simp [hasText, blank]), ih, docLines, blank]
      rfl
    · rw [List.filter_cons_of_pos (by simpa [hasText] using blank), docLines, ih, docLines]

theorem docLines_map_docLine {docs : List (List Char)} (tidy : ∀ doc ∈ docs, EndsVisibly doc)
    (above : List (List Char)) : docLines (docs.map docLine ++ above) = docs.map readBack ++ docLines above := by
  induction docs with
  | nil => rfl
  | cons doc more ih =>
    obtain ⟨tidyDoc, tidyMore⟩ := List.forall_mem_cons.mp tidy
    rw [List.map_cons, List.cons_append, docLines_docLine tidyDoc, ih tidyMore]
    rfl

theorem EndsDocumentation.docLines_eq_nil {line : List Char} (ends : EndsDocumentation line) (above : List (List Char)) :
    docLines (line :: above) = [] := by
  obtain ⟨nonempty, wholeFile⟩ := ends
  rw [docLines]
  split
  · rfl
  · next other =>
    rw [dropFront?_eq_none fun begins => other (wholeFile begins)]
    exact if_neg (by simpa using nonempty)

section Block

variable {front block docs : List (List Char)}

/-- The documentation lines are all found, and none above them. -/
theorem docLines_block (written : block.filter hasText = docs.map docLine)
    (tidy : ∀ doc ∈ docs, EndsVisibly doc) (ends : ∀ line ∈ front.getLast?, EndsDocumentation line) :
    docLines (front ++ block).reverse = (docs.map readBack).reverse := by
  have tidyBack : ∀ doc ∈ docs.reverse, EndsVisibly doc :=
    fun doc member => tidy doc (List.mem_reverse.mp member)
  have nothing : docLines (front.filter hasText).reverse = [] := by
    rw [← List.filter_reverse, docLines_filter]
    rcases List.eq_nil_or_concat front with rfl | ⟨rest, line, rfl⟩
    · rfl
    · rw [List.concat_eq_append, List.getLast?_concat] at ends
      rw [List.concat_eq_append, List.reverse_concat]
      exact (ends line rfl).docLines_eq_nil _
  rw [← docLines_filter, List.filter_reverse, List.filter_append, written, List.reverse_append, ← List.map_reverse,
    docLines_map_docLine tidyBack, nothing, List.append_nil, List.map_reverse]

/-- The shared margin of what is read is the space behind the slashes. -/
theorem length_margin_readBack (proper : IsDocumentation docs) : (margin (docs.map readBack)).length = 1 := by
  obtain ⟨doc, member, c, first, flush⟩ := proper.flush
  obtain ⟨more, rfl⟩ : ∃ more, doc = c :: more := List.head?_eq_some_iff.mp first
  have tidy := proper.tidy _ member
  have inside : readBack (c :: more) ∈ docs.map readBack := List.mem_map_of_mem member
  have visible : Shown (readBack (c :: more)) := (shown_readBack_iff tidy).mpr (List.cons_ne_nil c more)
  have shown : ∃ line ∈ docs.map readBack, Shown line := ⟨_, inside, visible⟩
  have least : [' '] <+: margin (docs.map readBack) := by
    rw [prefix_margin_iff shown, List.forall_mem_map]
    intro other listed something
    have nonempty := (shown_readBack_iff (proper.tidy _ listed)).mp something
    rw [readBack_of_ne_nil (proper.tidy _ listed) nonempty, List.takeWhile_cons_of_pos rfl]
    exact List.prefix_append [' '] _
  have most : margin (docs.map readBack) <+: [' '] := by
    have covered := (prefix_margin_iff shown).mp List.prefix_rfl _ inside visible
    rwa [readBack_of_ne_nil tidy (List.cons_ne_nil c more), List.takeWhile_cons_of_pos rfl,
      List.takeWhile_cons_of_neg (by simp [flush])] at covered
  exact Nat.le_antisymm most.length_le least.length_le

theorem dedent_readBack (proper : IsDocumentation docs) : dedent (docs.map readBack) = docs := by
  have back : ∀ doc ∈ docs, (if (readBack doc).all isMargin then [] else (readBack doc).drop 1) = doc := by
    intro doc member
    have tidy := proper.tidy doc member
    by_cases empty : doc = []
    · rw [empty]
      rfl
    · have shown := (shown_readBack_iff tidy).mpr empty
      have notAll : ¬ (readBack doc).all isMargin = true := by
        rw [Shown, List.any_eq_true] at shown
        obtain ⟨c, inside, beyond⟩ := shown
        intro all
        rw [List.all_eq_true.mp all c inside] at beyond
        cases beyond
      rw [if_neg notAll, readBack_of_ne_nil tidy empty]
      rfl
  rw [dedent, length_margin_readBack proper, List.map_map]
  exact (List.map_congr_left back).trans (List.map_id docs)

theorem documentation?_block (written : block.filter hasText = docs.map docLine) (proper : IsDocumentation docs)
    (single : ∀ line ∈ block, '\n' ∉ line) (ends : ∀ line ∈ front.getLast?, EndsDocumentation line) :
    documentation? (front ++ block).reverse = some (String.ofList (unlines (withoutEmptyEnds docs))) := by
  have singleDocs : ∀ doc ∈ docs, '\n' ∉ doc := by
    intro doc member feed
    have inBlock : docLine doc ∈ block.filter hasText := by
      rw [written]
      exact List.mem_map_of_mem member
    exact single _ (List.mem_filter.mp inBlock).1 (List.mem_append_right _ feed)
  have nonempty : (docs.map readBack).reverse ≠ [] := by
    obtain ⟨doc, member, _⟩ := proper.flush
    exact List.ne_nil_of_mem (List.mem_reverse.mpr (List.mem_map_of_mem member))
  rw [documentation?, docLines_block written proper.tidy ends]
  split
  · next empty => exact absurd empty nonempty
  · rw [List.reverse_reverse, dedent_readBack proper, stripLineFeeds_unlines singleDocs]

end Block

/-! ## In a file -/

/-- A documentation that is written above a function is given back line by line, without empty lines at its ends. Blank lines may stand
anywhere in between. It begins at the start of the file, below a comment about the whole file or below text that is no comment. -/
theorem scan_readsDocumentation {origin : Origin} {text : String} {front block below docs : List (List Char)} {head : List Char}
    (split : lines text.toList = front ++ block ++ head :: below)
    (written : block.filter hasText = docs.map docLine) (proper : IsDocumentation docs)
    (ends : ∀ line ∈ front.getLast?, EndsDocumentation line) :
    (∀ f ∈ (scan origin text).functions, f.line = front.length + block.length + 1 →
      f.documentation = some (String.ofList (unlines (withoutEmptyEnds docs)))) ∧
    ((functionHead? (trim head)).isSome → ¬ InSignature origin text (front.length + block.length) →
      ∃ f ∈ (scan origin text).functions, f.line = front.length + block.length + 1) := by
  refine ⟨fun f listed place => ?_, fun isHead outside => ?_⟩
  · obtain ⟨above, line, rest, length, splitAgain, introduced⟩ :=
      introduced_of_mem ((Outline.mem_declarations (.function f)).mpr listed)
    obtain ⟨_, _, rfl, _⟩ := introduced
    have sameLength : above.length = (front ++ block).length := by
      have number : above.reverse.length + 1 = front.length + block.length + 1 := place
      rw [List.length_reverse] at number
      rw [List.length_append]
      omega
    have same := (List.append_inj (splitAgain.symm.trans split) sameLength).1
    have single : ∀ line ∈ block, '\n' ∉ line := by
      intro line member
      have inText : line ∈ lines text.toList := by
        rw [split]
        simp [member]
      exact lineFeed_notMem_of_mem_lines inText
    rw [functionAt, same]
    exact documentation?_block written proper single ends
  · obtain ⟨read, named⟩ := Option.isSome_iff_exists.mp isHead
    have count : (front ++ block).length = front.length + block.length := List.length_append
    have there : (lines text.toList)[front.length + block.length]? = some head := by
      rw [split, ← count, List.getElem?_append_right (Nat.le_refl _), Nat.sub_self]
      rfl
    have above : (lines text.toList).take (front.length + block.length) = front ++ block := by
      rw [split, ← count, List.take_left]
    have introduced : head? (trim head) = some (.function read) := head?_eq_some_iff.mpr named
    have listed := mem_declarations_of_declarationAt? there outside (by rw [declarationAt?, introduced])
    refine ⟨_, (Outline.mem_declarations (.function _)).mp listed, ?_⟩
    rw [above, functionAt, List.length_reverse, count]

theorem scan_readsDocumentation_indented :
    let text := "////\n/// \n/// One.\n\n///   two\n/// \n\nfn f() \x7b\n\x7d"
    ∃ f ∈ (scan ⟨"p", false⟩ text).functions, f.line = 8 ∧ f.documentation = some "One.\n  two" := by
  intro text
  have proper : IsDocumentation ["".toList, "One.".toList, "  two".toList, "".toList] :=
    ⟨by decide, "One.".toList, by decide, 'O', rfl, rfl⟩
  have ends : ∀ line ∈ ["////".toList].getLast?, EndsDocumentation line := by
    rintro line ⟨⟩
    exact ⟨by decide, by decide⟩
  obtain ⟨documented, found⟩ := @scan_readsDocumentation ⟨"p", false⟩ text ["////".toList]
    ["/// ".toList, "/// One.".toList, [], "///   two".toList, "/// ".toList, []] ["\x7d".toList] _ "fn f() \x7b".toList
    (by decide +kernel) (by decide +kernel) proper ends
  obtain ⟨f, listed, place⟩ := found (by decide +kernel) (by decide +kernel)
  exact ⟨f, listed, place, documented f listed place⟩

end Aiken
end DeclIndex
