import DeclIndex.Proofs.ListedLines

/-!
# Exports on the line of a declaration

Whether a line declares something and whether it exports something is told by different patterns. On a line that begins with the word
`export`, they agree about constants, and about types unless the word `extends` is written right onto the name. Of functions, only
those are exported whose keyword and name follow with no other modifiers than `default` and `async`, and neither methods nor
generators.
-/

namespace DeclIndex.TypeScript
open DeclIndex.Text

/-! ## Patterns -/

/-- A text that does not go on a name before it. -/
def NameEnd : TextPattern := {rest | alphabet.Stops rest}
/-- A whole name, and anything behind it. -/
def Named (name : List Char) : TextPattern := Captured alphabet.Names name * NameEnd
/-- One of some keywords and a name, with the word `async` in front or not. -/
def Keyed (keywords : List String) (name : List Char) : TextPattern :=
  Marked "async" * (OneOf keywords * (Gap * Named name))
/-- The lines that export a function. -/
def ExportedFunction (name : List Char) : TextPattern :=
  Word "export" * (Gap * (Marked "default" * Keyed ["function", "const"] name)) + Word "export" * (Gap * Keyed ["let"] name)
/-- The lines of types whose name runs into the word `extends`. -/
def JoinedType (name : List Char) : TextPattern :=
  Marked "export" * (Marked "declare" * (OneOf ["type", "interface"] * (Gap *
    (Captured alphabet.Names name * (Word "extends" * (Gap * Anything))))))

theorem mem_named_iff {text name : List Char} : text ∈ Named name ↔ ∃ rest, alphabet.ident? text = some (name, rest) := by
  have stops : Opens NameEnd (alphabet.later · = false) := fun rest member => member
  rw [Named, mem_captured_iff stops]
  constructor
  · rintro ⟨⟨_, rest⟩, read, rfl, _⟩
    exact ⟨rest, read⟩
  · rintro ⟨rest, read⟩
    exact ⟨(name, rest), read, rfl, Alphabet.stops_of_ident? read⟩

theorem mem_keyword_anything_iff {word : String} {text : List Char} :
    text ∈ Word word * (Gap * Anything) ↔ ∃ rest, dropKeyword? word text = some rest := by
  constructor
  · intro member
    obtain ⟨_, rfl, spaced, inGap, rfl⟩ := Language.mem_mul.mp member
    obtain ⟨gap, isGap, rest, _, rfl⟩ := Language.mem_mul.mp inGap
    obtain ⟨blank, more, rfl⟩ := List.exists_cons_of_ne_nil isGap.2
    refine ⟨trimLeft (more ++ rest), ?_⟩
    rw [dropKeyword?, dropFront?_append, Option.bind_some, List.cons_append, dropBlanks?, if_pos (isGap.1 blank List.mem_cons_self)]
  · rintro ⟨rest, read⟩
    exact mem_of_dropKeyword? read trivial

/-! ## Inline exports -/

section Keywords

variable {keywords others : List String} {keyword : String} {text name : List Char}

theorem declaredName?_eq_some_iff (unbroken : ∀ word ∈ keywords, Unbroken word) :
    declaredName? keywords text = some (keyword, name) ↔
      keyword ∈ keywords ∧ ∃ rest left, dropKeyword? keyword (takeKeyword "async" text).2 = some rest ∧
        alphabet.ident? rest = some (name, left) := by
  simp only [declaredName?, Option.bind_eq_bind, Option.bind_eq_some_iff]
  constructor
  · rintro ⟨⟨_, rest⟩, taken, ⟨_, left⟩, named, same⟩
    cases same
    obtain ⟨member, read⟩ := (takeOneOf?_eq_some_iff unbroken).mp taken
    exact ⟨member, rest, left, read, named⟩
  · rintro ⟨member, rest, left, read, named⟩
    exact ⟨(keyword, rest), (takeOneOf?_eq_some_iff unbroken).mpr ⟨member, read⟩, (name, left), named, rfl⟩

/-- Which other keywords are looked for plays no role. -/
theorem declaredName?_of_mem (unbroken : ∀ word ∈ keywords, Unbroken word) (unbrokenOthers : ∀ word ∈ others, Unbroken word)
    (declared : declaredName? keywords text = some (keyword, name)) (member : keyword ∈ others) :
    declaredName? others text = some (keyword, name) :=
  (declaredName?_eq_some_iff unbrokenOthers).mpr ⟨member, ((declaredName?_eq_some_iff unbroken).mp declared).2⟩

theorem opens_keyed {allowed : Char → Prop} (async : allowed 'a') (words : ∀ word ∈ keywords, Starts allowed word) :
    Opens (Keyed keywords name) allowed :=
  Opens.optional (opens_oneOf words) (opens_word rfl async)

theorem mem_keyed_iff (unbroken : ∀ word ∈ keywords, Unbroken word)
    (words : ∀ word ∈ keywords, Starts (· ≠ 'a') word) :
    text ∈ Keyed keywords name ↔ ∃ keyword, declaredName? keywords text = some (keyword, name) := by
  have visible : Opens (OneOf keywords * (Gap * Named name)) (isBlank · = false) := by
    refine opens_oneOf fun word member => ?_
    obtain ⟨c, first, _⟩ := words word member
    exact ⟨c, first, unbroken word member c (List.mem_of_mem_head? first)⟩
  have letters : Opens (OneOf keywords * (Gap * Named name)) (· ≠ 'a') := opens_oneOf words
  have named : Opens (Named name) (isBlank · = false) := opens_captured isBlank_of_first
  rw [Keyed, mem_marked_iff visible fun rest => dropKeyword?_of_opens letters rfl, mem_oneOf_iff unbroken named]
  simp only [mem_named_iff, declaredName?_eq_some_iff unbroken]
  constructor
  · rintro ⟨⟨keyword, rest⟩, taken, left, named⟩
    obtain ⟨member, read⟩ := (takeOneOf?_eq_some_iff unbroken).mp taken
    exact ⟨keyword, member, rest, left, read, named⟩
  · rintro ⟨keyword, member, rest, left, read, named⟩
    exact ⟨(keyword, rest), (takeOneOf?_eq_some_iff unbroken).mpr ⟨member, read⟩, left, named⟩

end Keywords

/-- The keywords of inline exports. -/
def exportKeywords : List String := ["function", "const", "let", "class", "interface", "type", "enum", "namespace"]

theorem unbroken_exportKeywords : ∀ word ∈ exportKeywords, Unbroken word := by
  decide

theorem exportsOn_of_declaredName? {line rest name : List Char} {keyword : String} (marked : dropKeyword? "export" line = some rest)
    (noDefault : dropKeyword? "default" rest = none)
    (declared : declaredName? exportKeywords (takeKeyword "declare" rest).2 = some (keyword, name)) :
    exportsOn line = [(name, keyword, false)] := by
  have notDefault : defaultExport? line = none := by
    simp [defaultExport?, marked, noDefault]
  have exported : namedExport? line = some (keyword, name) := by
    rw [namedExport?, marked]
    exact declared
  rw [exportsOn, notDefault, exported]

/-! ## Exported functions -/

/-- A text that begins like a name. -/
def Lettered (text : List Char) : Prop := ∃ c ∈ text.head?, alphabet.first c = true

section Lettered

variable {word : String} {text rest : List Char}

theorem Lettered.noMethod (lettered : Lettered text) : text ∉ Generic * Body := by
  intro member
  obtain ⟨c, first, letter⟩ := lettered
  obtain ⟨d, firstToo, noLetter⟩ := exists_of_genericBody member
  obtain rfl : c = d := Option.some.inj (first.symm.trans firstToo)
  rw [letter] at noLetter
  cases noLetter

theorem lettered_of_dropKeyword? (spelled : alphabet.Spells word.toList) (read : dropKeyword? word text = some rest) : Lettered text := by
  obtain ⟨c, more, split, first, _⟩ := spelled
  exact ⟨c, head?_of_dropKeyword? split read, first⟩

theorem lettered_of_ident? {name left : List Char} (read : alphabet.ident? text = some (name, left)) : Lettered text := by
  obtain ⟨c, more, rfl, first, _⟩ := Alphabet.spells_ident? read
  refine ⟨c, ?_, first⟩
  rw [← append_of_ident? read]
  rfl

theorem Lettered.of_takeKeyword (spelled : alphabet.Spells word.toList) (lettered : Lettered (takeKeyword word text).2) : Lettered text := by
  cases read : dropKeyword? word text with
  | some rest => exact lettered_of_dropKeyword? spelled read
  | none => rwa [takeKeyword_of_none read] at lettered

theorem Begins.behindOption {groups : List (List String)} (worded : Worded groups) (ordinary : Ordinary word)
    (lettered : Lettered (takeKeyword word text).2) (begins : Begins groups text) :
    ∃ later, later <:+ groups ∧ Begins later (takeKeyword word text).2 := by
  unfold takeKeyword at *
  cases read : dropKeyword? word text with
  | some rest =>
    rw [read] at lettered
    exact (begins.behind worded ordinary read lettered.noMethod).2
  | none => exact ⟨groups, List.suffix_rfl, begins⟩

end Lettered

theorem worded_of_suffix {groups : List (List String)} (suffix : groups <:+ modifiers) : Worded groups :=
  fun words member => distinct_modifiers.worded words (suffix.subset member)

theorem mem_modifiers_of_suffix {groups : List (List String)} {word : String} (suffix : groups <:+ modifiers)
    (member : word ∈ groups.flatten) : word ∈ modifiers.flatten := by
  obtain ⟨words, inGroups, inWords⟩ := List.mem_flatten.mp member
  exact List.mem_flatten.mpr ⟨words, suffix.subset inGroups, inWords⟩

/-- The keyword of a function behind its modifiers is none of the words that declare something else. -/
theorem Begins.keyword {groups : List (List String)} {keyword : String} {text rest : List Char} (begins : Begins groups text)
    (suffix : groups <:+ modifiers) (read : dropKeyword? keyword (takeKeyword "async" text).2 = some rest) (lettered : Lettered rest)
    (ordinary : Ordinary keyword) : keyword ∈ modifiers.flatten := by
  have letteredToo := lettered_of_dropKeyword? ordinary.1 read
  obtain ⟨later, more, begins⟩ := begins.behindOption (worded_of_suffix suffix) (by decide) letteredToo
  have inside := more.trans suffix
  exact mem_modifiers_of_suffix inside (begins.behind (worded_of_suffix inside) ordinary read lettered.noMethod).1

theorem begins_of_calls {line name : List Char} (calls : Calls line name) : Begins modifiers line := by
  rcases calls with function | ⟨method, _⟩
  · obtain ⟨rest, left, declared⟩ := mem_functionLine_iff.mp function
    exact ⟨rest, left, name, Or.inl declared⟩
  · obtain ⟨rest, left, method⟩ := mem_methodLine_iff.mp method
    exact ⟨rest, left, name, Or.inr method⟩

theorem stops_of_trimLeft {left list : List Char} (brace : trimLeft left = '{' :: list) : alphabet.Stops left := by
  intro c first
  cases left with
  | nil => cases first
  | cons d more =>
    cases first
    by_cases blank : isBlank c
    · exact later_of_isBlank c blank
    · rw [trimLeft, List.dropWhile_cons_of_neg blank] at brace
      cases brace
      decide

theorem exportList?_eq_some {line rest items : List Char} (marked : dropKeyword? "export" line = some rest)
    (listed : exportList? line = some items) :
    (∃ list, rest = '{' :: list) ∨ ∃ left list, rest = "type".toList ++ left ∧ trimLeft left = '{' :: list := by
  obtain ⟨spaced, front, blank⟩ := Option.bind_eq_some_iff.mp marked
  obtain ⟨_, rfl⟩ := dropBlanks?_eq_some blank
  obtain ⟨_, frontAgain, listed⟩ := Option.bind_eq_some_iff.mp listed
  rw [← Option.some.inj (front.symm.trans frontAgain)] at listed
  dsimp only at listed
  split at listed
  · next list brace =>
    unfold dropFront at brace
    cases type : dropFront? "type".toList (trimLeft spaced) with
    | none =>
      rw [type, Option.getD_none, trimLeft, trimLeft, List.dropWhile_idempotent] at brace
      exact Or.inl ⟨list, brace⟩
    | some left =>
      rw [type, Option.getD_some] at brace
      exact Or.inr ⟨left, list, (append_of_dropFront? type).symm, brace⟩
  · cases listed

/-- An export list begins no function. -/
theorem exportList?_of_begins {line rest : List Char} (marked : dropKeyword? "export" line = some rest) (begins : Begins modifiers line) :
    exportList? line = none := by
  have braceless : Opens (Generic * Body) (fun c => c ≠ '{' ∧ c ≠ 't') := opens_genericBody (by decide) (by decide)
  refine Option.eq_none_iff_forall_ne_some.mpr fun items listed => ?_
  rcases exportList?_eq_some marked listed with ⟨list, rfl⟩ | ⟨left, list, rfl, brace⟩
  · have noMethod : '{' :: list ∉ Generic * Body := fun member => (braceless _ member '{' rfl).1 rfl
    obtain ⟨_, groups, suffix, kept, inKept, head⟩ := begins.behind distinct_modifiers.worded (by decide) marked noMethod
    rw [eq_of_mem_stripped (fun words member => takeOneOf?_of_first (worded_of_suffix suffix words member) rfl (by decide)) inKept] at head
    exact absurd (head.opens '{' rfl) (by decide)
  · have noMethod : "type".toList ++ left ∉ Generic * Body := fun member => (braceless _ member 't' rfl).2 rfl
    obtain ⟨_, groups, suffix, kept, inKept, head⟩ := begins.behind distinct_modifiers.worded (by decide) marked noMethod
    have others : ∀ words ∈ modifiers, ∀ word ∈ words, Starts (· ≠ 't') word := by decide
    rw [eq_of_mem_stripped (fun words member => takeOneOf?_of_head? rfl (others words (suffix.subset member))) inKept] at head
    obtain ⟨name, declared | method⟩ := head
    · have letters : Opens (Declared name) (· ≠ 't') := opens_declared (by decide) (by decide) (by decide)
      exact letters _ declared 't' rfl rfl
    · have body := genericBody_of_method (by decide) (stops_of_trimLeft brace) method
      rw [brace] at body
      exact (braceless _ body '{' rfl).1 rfl

/-- The keywords of exports that begin no function are no modifiers. -/
theorem ordinary_exportKeywords : ∀ keyword ∈ exportKeywords, alphabet.Spells keyword.toList ∧ keyword ∉ modifiers.flatten ∧
    (keyword ∉ ["function", "const", "let"] → Ordinary keyword) := by
  decide

theorem exportedFunction_of_defaultExport? {line rest name : List Char} {keyword : String}
    (marked : dropKeyword? "export" line = some rest) (begins : Begins modifiers line)
    (exported : defaultExport? line = some (keyword, name)) : line ∈ ExportedFunction name := by
  obtain ⟨second, default, declared⟩ : ∃ second, dropKeyword? "default" rest = some second ∧
      declaredName? ["function", "const", "class", "interface", "type", "enum"] second = some (keyword, name) := by
    simpa [defaultExport?, marked, Option.bind_eq_some_iff] using exported
  obtain ⟨inKeywords, behind, left, read, named⟩ := (declaredName?_eq_some_iff (by decide)).mp declared
  have known : ∀ word ∈ ["function", "const", "class", "interface", "type", "enum"], word ∈ exportKeywords ∧ word ≠ "let" := by
    decide
  obtain ⟨spelled, noModifier, ordinary⟩ := ordinary_exportKeywords keyword (known keyword inKeywords).1
  have letteredSecond := (lettered_of_dropKeyword? spelled read).of_takeKeyword (by decide)
  have letteredRest : Lettered rest := lettered_of_dropKeyword? (by decide) default
  obtain ⟨_, groups, suffix, begins⟩ := begins.behind distinct_modifiers.worded (by decide) marked letteredRest.noMethod
  obtain ⟨_, later, more, begins⟩ := begins.behind (worded_of_suffix suffix) (by decide) default letteredSecond.noMethod
  have function : keyword ∈ ["function", "const"] := by
    by_contra other
    refine noModifier (begins.keyword (more.trans suffix) read (lettered_of_ident? named) (ordinary ?_))
    simpa [(known keyword inKeywords).2] using other
  refine Or.inl (mem_of_dropKeyword? marked (mem_optional_iff.mpr (Or.inr (mem_of_dropKeyword? default ?_))))
  exact (mem_keyed_iff (by decide) (by decide)).mpr ⟨keyword, declaredName?_of_mem (by decide) (by decide) declared function⟩

theorem exportedFunction_of_namedExport? {line rest name : List Char} {keyword : String}
    (marked : dropKeyword? "export" line = some rest) (begins : Begins modifiers line)
    (exported : namedExport? line = some (keyword, name)) : line ∈ ExportedFunction name := by
  have declared : declaredName? exportKeywords (takeKeyword "declare" rest).2 = some (keyword, name) := by
    rwa [namedExport?, marked] at exported
  obtain ⟨inKeywords, behind, left, read, named⟩ := (declaredName?_eq_some_iff unbroken_exportKeywords).mp declared
  obtain ⟨spelled, noModifier, ordinary⟩ := ordinary_exportKeywords keyword inKeywords
  have lettered := (lettered_of_dropKeyword? spelled read).of_takeKeyword (by decide)
  have letteredRest : Lettered rest := lettered.of_takeKeyword (by decide)
  obtain ⟨_, groups, suffix, begins⟩ := begins.behind distinct_modifiers.worded (by decide) marked letteredRest.noMethod
  have noDeclare : takeKeyword "declare" rest = (false, rest) := by
    refine takeKeyword_of_none (Option.eq_none_iff_forall_ne_some.mpr fun second declare => ?_)
    rw [takeKeyword, declare] at lettered
    have member := (begins.behind (worded_of_suffix suffix) (by decide) declare lettered.noMethod).1
    exact absurd (mem_modifiers_of_suffix suffix member) (by decide)
  rw [noDeclare] at declared read
  have function : keyword ∈ ["function", "const", "let"] := by
    by_contra other
    exact noModifier (begins.keyword suffix read (lettered_of_ident? named) (ordinary other))
  by_cases mutable : keyword = "let"
  · refine Or.inr (mem_of_dropKeyword? marked ((mem_keyed_iff (by decide) (by decide)).mpr ⟨keyword, ?_⟩))
    exact declaredName?_of_mem unbroken_exportKeywords (by decide) declared (List.mem_singleton.mpr mutable)
  · refine Or.inl (mem_of_dropKeyword? marked (mem_optional_iff.mpr (Or.inl ?_)))
    refine (mem_keyed_iff (by decide) (by decide)).mpr ⟨keyword, ?_⟩
    exact declaredName?_of_mem unbroken_exportKeywords (by decide) declared (by simpa [mutable] using function)

theorem exportsOn_of_keyed {keywords : List String} {line rest name : List Char} (marked : dropKeyword? "export" line = some rest)
    (known : ∀ word ∈ keywords, word ∈ exportKeywords)
    (words : ∀ word ∈ keywords, Starts (fun c => c ≠ 'a' ∧ c ≠ 'd') word)
    (keyed : rest ∈ Keyed keywords name) : ∃ item ∈ exportsOn line, item.1 = name := by
  have unbroken : ∀ word ∈ keywords, Unbroken word := fun word member => unbroken_exportKeywords word (known word member)
  have letters : Opens (Keyed keywords name) (· ≠ 'd') :=
    opens_keyed (by decide) fun word member => (words word member).imp fun c => And.imp_right And.right
  obtain ⟨keyword, declared⟩ :=
    (mem_keyed_iff unbroken fun word member => (words word member).imp fun c => And.imp_right And.left).mp keyed
  have inKeywords := ((declaredName?_eq_some_iff unbroken).mp declared).1
  have declaredToo := declaredName?_of_mem unbroken unbroken_exportKeywords declared (known keyword inKeywords)
  have noDeclare : dropKeyword? "declare" rest = none := dropKeyword?_of_opens letters rfl keyed
  rw [exportsOn_of_declaredName? marked (dropKeyword?_of_opens letters rfl keyed) (by rw [takeKeyword_of_none noDeclare]; exact declaredToo)]
  exact ⟨_, List.mem_cons_self, rfl⟩

theorem exportsOn_of_exportedFunction {line name : List Char} (exported : line ∈ ExportedFunction name) :
    ∃ item ∈ exportsOn line, item.1 = name := by
  have functions : Opens (Keyed ["function", "const"] name) (isBlank · = false) := opens_keyed (by decide) (by decide)
  have changing : Opens (Keyed ["let"] name) (isBlank · = false) := opens_keyed (by decide) (by decide)
  rcases exported with function | mutable
  · obtain ⟨rest, marked, inRest⟩ := (mem_keyword_iff (functions.optional (opens_word rfl (by decide)))).mp function
    rcases mem_optional_iff.mp inRest with keyed | default
    · exact exportsOn_of_keyed marked (by decide) (by decide) keyed
    · obtain ⟨second, default, keyed⟩ := (mem_keyword_iff functions).mp default
      obtain ⟨keyword, declared⟩ := (mem_keyed_iff (by decide) (by decide)).mp keyed
      have known : ∀ word ∈ ["function", "const"], word ∈ ["function", "const", "class", "interface", "type", "enum"] := by decide
      have exported : defaultExport? line = some (keyword, name) := by
        rw [defaultExport?, marked, Option.bind_eq_bind, Option.bind_some, default]
        refine declaredName?_of_mem (by decide) (by decide) declared (known keyword ?_)
        exact ((declaredName?_eq_some_iff (by decide)).mp declared).1
      rw [exportsOn, exported]
      exact ⟨_, List.mem_cons_self, rfl⟩
  · obtain ⟨rest, marked, keyed⟩ := (mem_keyword_iff changing).mp mutable
    exact exportsOn_of_keyed marked (by decide) (by decide) keyed

/-- A line that begins a function behind the word `export` exports a name exactly if it is of a form that exports functions. -/
theorem exportsOn_function_iff {line rest name called : List Char} (marked : dropKeyword? "export" line = some rest)
    (calls : Calls line called) : (∃ item ∈ exportsOn line, item.1 = name) ↔ line ∈ ExportedFunction name := by
  have begins := begins_of_calls calls
  refine ⟨?_, exportsOn_of_exportedFunction⟩
  rintro ⟨item, member, rfl⟩
  unfold exportsOn at member
  split at member
  · next keyword name exported =>
    rw [List.mem_singleton.mp member]
    exact exportedFunction_of_defaultExport? marked begins exported
  · split at member
    · next keyword name exported =>
      rw [List.mem_singleton.mp member]
      exact exportedFunction_of_namedExport? marked begins exported
    · rw [exportList?_of_begins marked begins] at member
      cases member

/-! ## Exported constants and types -/

theorem exportsOn_constant {line rest : List Char} {head : ConstantHead} (marked : dropKeyword? "export" line = some rest)
    (read : constantHead? line = some head) : exportsOn line = [(head.name, "const", false)] := by
  have behindExport : (takeKeyword "export" line).2 = rest := by rw [takeKeyword, marked]
  rw [constantHead?_eq, behindExport] at read
  obtain ⟨behind, const, read⟩ := Option.bind_eq_some_iff.mp read
  obtain ⟨⟨name, left⟩, named, read⟩ := Option.bind_eq_some_iff.mp read
  obtain ⟨given, _, read⟩ := Option.bind_eq_some_iff.mp read
  obtain ⟨_, same⟩ := Option.ite_none_left_eq_some.mp read
  cases same
  have others : ∀ word ∈ ["default", "declare", "async"], dropKeyword? word rest = none := by
    have different : ∀ word ∈ ["default", "declare", "async"], Unbroken word ∧ "const" ≠ word := by decide
    exact fun word member => dropKeyword?_of_other (by decide) (different word member).1 const (different word member).2
  refine exportsOn_of_declaredName? marked (others _ (by simp)) ((declaredName?_eq_some_iff unbroken_exportKeywords).mpr ?_)
  rw [takeKeyword_of_none (others _ (by simp)), takeKeyword_of_none (others _ (by simp))]
  exact ⟨by decide, behind, left, const, named⟩

/-- A type goes on behind its name with a letter only if this begins the word `extends`. -/
theorem stops_or_extends {tail : List Char} (member : tail ∈ TypeGeneric * (Blanks * Definition)) :
    alphabet.Stops tail ∨ tail ∈ Word "extends" * (Gap * Anything) := by
  rcases mem_optional_iff.mp member with plain | generic
  · obtain ⟨blanks, blank, behind, defined, rfl⟩ := Language.mem_mul.mp plain
    cases blanks with
    | cons c more =>
      refine Or.inl fun d first => ?_
      cases first
      exact later_of_isBlank c (blank c List.mem_cons_self)
    | nil =>
      rcases mem_optional_iff.mp defined with assigned | extended
      · have stops : Opens Assigned (alphabet.later · = false) := (opens_word rfl (by decide)).add (opens_word rfl (by decide))
        exact Or.inl (stops behind assigned)
      · obtain ⟨_, rfl, _, gap, rfl⟩ := Language.mem_mul.mp extended
        rw [mul_assoc] at gap
        obtain ⟨blanks, inGap, rest, _, rfl⟩ := Language.mem_mul.mp gap
        rw [List.nil_append]
        exact Or.inr (Language.append_mem_mul rfl (Language.append_mem_mul inGap trivial))
  · have stops : Opens (Blanks * (Word "<" * (Without '>' * Word ">") * (Blanks * Definition))) (alphabet.later · = false) := by
      rw [mul_assoc]
      exact Opens.blanks (opens_word rfl (by decide)) later_of_isBlank
    exact Or.inl (stops tail generic)

theorem exportsOn_type {line rest : List Char} {head : TypeHead} (marked : dropKeyword? "export" line = some rest)
    (read : typeHead? line = some head) :
    ∃ name keyword, exportsOn line = [(name, keyword, false)] ∧ (name = head.name ↔ line ∉ JoinedType head.name) := by
  have behindExport : (takeKeyword "export" line).2 = rest := by rw [takeKeyword, marked]
  obtain ⟨⟨keyword, behind⟩, taken, inBehind⟩ := mem_typeLine_iff.mp (mem_typeLine read)
  obtain ⟨_, ⟨rfl, spelled⟩, tail, inTail, rfl⟩ := Language.mem_mul.mp inBehind
  refine ⟨head.name ++ tail.takeWhile alphabet.later, keyword, ?_, ?_⟩
  · rw [behindExport] at taken
    obtain ⟨inWords, typed⟩ := (takeOneOf?_eq_some_iff (by decide)).mp taken
    have words : ∀ word ∈ ["type", "interface"],
        Unbroken word ∧ word ∈ exportKeywords ∧ word ≠ "async" ∧ word ≠ "default" := by decide
    obtain ⟨unbroken, known, noAsync, noDefault⟩ := words keyword inWords
    refine exportsOn_of_declaredName? marked ?_ ((declaredName?_eq_some_iff unbroken_exportKeywords).mpr ?_)
    · cases declare : dropKeyword? "declare" rest with
      | some second => exact dropKeyword?_of_other (by decide) (by decide) declare (by decide)
      | none =>
        rw [takeKeyword_of_none declare] at typed
        exact dropKeyword?_of_other unbroken (by decide) typed noDefault
    · rw [takeKeyword_of_none (dropKeyword?_of_other unbroken (by decide) typed noAsync)]
      exact ⟨known, _, _, typed, Alphabet.ident?_spelled spelled tail⟩
  · rw [List.append_right_eq_self, Alphabet.takeWhile_eq_nil_iff, JoinedType, mem_typeKeyword_iff (opens_captured isBlank_of_first)]
    constructor
    · rintro stops ⟨found, takenAgain, joined⟩
      cases Option.some.inj (taken.symm.trans takenAgain)
      obtain ⟨_, ⟨rfl, _⟩, _, extended, same⟩ := Language.mem_mul.mp joined
      rw [List.append_cancel_left same] at extended
      obtain ⟨_, rfl, _, _, rfl⟩ := Language.mem_mul.mp extended
      exact absurd (stops 'e' rfl) (by decide)
    · intro apart
      refine (stops_or_extends inTail).resolve_right fun extended => apart ⟨_, taken, ?_⟩
      exact Language.append_mem_mul ⟨rfl, spelled⟩ extended

/-! ## Public declarations -/

/-- The line of a declaration, which begins with the word `export`, exports the declaration. -/
def ShowsExport (line : List Char) : Declaration → Prop
  | .imported _ => False
  | .function f => line ∈ ExportedFunction f.name.toList
  | .type t => line ∉ JoinedType t.baseName.toList
  | .constant _ => True

section Public

variable {source text name : String} {index : Nat} {line : List Char} {declaration : Declaration}

theorem exists_export_iff (there : (lines text.toList)[index]? = some line) :
    (∃ e ∈ exports source text.toList, e.line = index + 1 ∧ e.name = name) ↔
      ∃ item ∈ exportsOn (trim line), String.ofList item.1 = name := by
  simp only [exports, exportsAt, List.mem_flatMap, List.mem_map]
  constructor
  · rintro ⟨_, ⟨⟨other, _⟩, member, item, inLine, rfl⟩, same, rfl⟩
    cases same
    rw [List.mem_zipIdx_iff_getElem?, there] at member
    cases member
    exact ⟨item, inLine, rfl⟩
  · rintro ⟨item, inLine, rfl⟩
    exact ⟨_, ⟨(line, index), List.mem_zipIdx_iff_getElem?.mpr there, item, inLine, rfl⟩, rfl, rfl⟩

theorem exportsOn_iff_showsExport (member : declaration ∈ (scan source text).declarations)
    (named : declaration.exportName? = some name) (there : (lines text.toList)[index]? = some line)
    (here : declaration.line = index + 1) (inline : trim line ∈ Word "export" * (Gap * Anything)) :
    (∃ item ∈ exportsOn (trim line), String.ofList item.1 = name) ↔ ShowsExport (trim line) declaration := by
  obtain ⟨rest, marked⟩ := mem_keyword_anything_iff.mp inline
  obtain ⟨length, found⟩ := declarationAt?_of_mem there member here
  have introduced := declarationAt?_introduces found
  cases declaration with
  | imported i => cases named
  | function f =>
    obtain ⟨called, read, rfl, _⟩ := introduced
    cases named
    simp only [functionAt, String.ofList_inj, ShowsExport, String.toList_ofList]
    exact exportsOn_function_iff marked (namedFunction?_eq_some_iff.mp read).1
  | type t =>
    obtain ⟨head, read, same⟩ := introduced
    cases same
    cases named
    have single : '\n' ∉ trim line := fun feed => lineFeed_notMem_of_mem_lines (List.mem_of_getElem? there) (mem_of_mem_trim feed)
    obtain ⟨full, keyword, exported, whole⟩ := exportsOn_type marked read
    simp only [ShowsExport, TypeDef.baseName, String.toList_ofList, withoutGenerics_typeHead? single read, String.ofList_inj, exported,
      List.mem_singleton, exists_eq_left]
    exact whole
  | constant c =>
    obtain ⟨head, read, rfl⟩ := Option.map_eq_some_iff.mp introduced.1
    cases named
    rw [exportsOn_constant marked read]
    exact iff_of_true ⟨_, List.mem_cons_self, rfl⟩ trivial

/-- A declaration whose line begins with the word `export` is public exactly if another line exports its name or its own line does: for
a constant always, for a type unless its name runs into the word `extends`, and for a function if the keyword and the name follow with
no other modifiers than `default` and `async`. -/
theorem isPublic_iff_showsExport (member : declaration ∈ (scan source text).declarations)
    (named : declaration.exportName? = some name) (there : (lines text.toList)[index]? = some line)
    (here : declaration.line = index + 1) (inline : trim line ∈ Word "export" * (Gap * Anything)) :
    declaration.isPublic = true ↔ ShowsExport (trim line) declaration ∨
      ∃ e ∈ exports source text.toList, e.line ≠ declaration.line ∧ e.name = name := by
  rw [isPublic_iff_exported member named, ← exportsOn_iff_showsExport member named there here inline, ← exists_export_iff there, here]
  constructor
  · rintro ⟨e, exported, same⟩
    by_cases own : e.line = index + 1
    · exact Or.inl ⟨e, exported, own, same⟩
    · exact Or.inr ⟨e, exported, own, same⟩
  · rintro (⟨e, exported, _, same⟩ | ⟨e, exported, _, same⟩)
    · exact ⟨e, exported, same⟩
    · exact ⟨e, exported, same⟩

end Public

/-- A generator that is exported where it is declared. -/
def idGenerator : String :=
  "export function* ids() \x7b\n  yield 1;\n\x7d"

/-- The generator is not public, though its line begins with the word `export`. -/
theorem generator_not_public :
    (scan "ts" idGenerator).functions.map (fun f => (f.name, f.line, f.isPublic)) = [("ids", 1, false)] ∧
      (lines idGenerator.toList)[0]? = some "export function* ids() \x7b".toList ∧
      "export function* ids() \x7b".toList ∈ Word "export" * (Gap * Anything) :=
  ⟨by decide +kernel, by decide +kernel, mem_keyword_anything_iff.mpr ⟨"function* ids() \x7b".toList, by decide +kernel⟩⟩

/-- An asynchronous function that is the default export. -/
def orderTotal : String :=
  "export default async function total(prices: number[]) \x7b\n  return prices;\n\x7d"

theorem isPublic_iff_showsExport_total :
    ∃ declaration ∈ (scan "ts" orderTotal).declarations, declaration.exportName? = some "total" ∧
      (declaration.isPublic = true ↔
        ShowsExport (trim "export default async function total(prices: number[]) \x7b".toList) declaration ∨
          ∃ e ∈ exports "ts" orderTotal.toList, e.line ≠ declaration.line ∧ e.name = "total") := by
  obtain ⟨f, listed, named, here⟩ : ∃ f ∈ (scan "ts" orderTotal).functions, f.name = "total" ∧ f.line = 1 := by decide +kernel
  have member := (Outline.mem_declarations (.function f)).mpr listed
  have exported : (Declaration.function f).exportName? = some "total" := congrArg some named
  refine ⟨.function f, member, exported, isPublic_iff_showsExport member exported (by decide +kernel) here ?_⟩
  exact mem_keyword_anything_iff.mpr ⟨"default async function total(prices: number[]) \x7b".toList, by decide +kernel⟩

end DeclIndex.TypeScript
