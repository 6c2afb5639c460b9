import DeclIndex.Proofs.TypeScriptPatterns

/-!
# Lines that begin a function

A function may have modifiers in front of it, one of each of five groups, and a method may have the name of a modifier. Still at most
one way to take modifiers away leaves a function, so that the order in which they are tried plays no role, and the name of the
function on a line can be told from the patterns alone.
-/

namespace DeclIndex.TypeScript
open DeclIndex.Text

/-! ## Patterns -/

/-- The words that may stand in front of a function, in their order. -/
def modifiers : List (List String) := [["export"], ["default"], ["public", "private", "protected"], ["static"], ["async"]]
/-- Optional words with blanks after them, one of each group. -/
def Modifiers : List (List String) → TextPattern
  | [] => 1
  | words :: more => (1 + OneOf words * Gap) * Modifiers more

/-- A function with the word for it or as a value. -/
def Declared (name : List Char) : TextPattern := NamedFunction name + FunctionValue name
/-- The lines that begin a function with the word for it or as a value. -/
def FunctionLine (name : List Char) : TextPattern := Modifiers modifiers * Declared name
/-- The lines that begin a method. -/
def MethodLine (name : List Char) : TextPattern := Modifiers modifiers * Method name
/-- A line begins a function of a name. It is read as a method only where it begins no function otherwise. -/
def Calls (line name : List Char) : Prop :=
  line ∈ FunctionLine name ∨ line ∈ MethodLine name ∧ ∀ other, line ∉ FunctionLine other

/-! ## Modifiers -/

/-- The texts after optional words of some groups. -/
def stripped (groups : List (List String)) (text : List Char) : List (List Char) :=
  groups.foldl (fun texts words => texts.flatMap (withoutOption words)) [text]

theorem mem_foldl_flatMap {α β : Type} {f : β → α → List α} {steps : List β} {start : List α} {a : α} :
    a ∈ steps.foldl (fun group step => group.flatMap (f step)) start ↔
      ∃ b ∈ start, a ∈ steps.foldl (fun group step => group.flatMap (f step)) [b] := by
  induction steps generalizing start with
  | nil => simp
  | cons step steps ih =>
    simp only [List.foldl_cons, List.flatMap_singleton]
    rw [ih]
    simp only [List.mem_flatMap]
    constructor
    · rintro ⟨c, ⟨b, inStart, inStep⟩, later⟩
      exact ⟨b, inStart, ih.mpr ⟨c, inStep, later⟩⟩
    · rintro ⟨b, inStart, later⟩
      obtain ⟨c, inStep, later⟩ := ih.mp later
      exact ⟨c, ⟨b, inStart, inStep⟩, later⟩

theorem mem_stripped_cons {words : List String} {groups : List (List String)} {text rest : List Char} :
    rest ∈ stripped (words :: groups) text ↔
      rest ∈ stripped groups text ∨ ∃ found, takeOneOf? words text = some found ∧ rest ∈ stripped groups found.2 := by
  rw [stripped, List.foldl_cons, List.flatMap_singleton, mem_foldl_flatMap, withoutOption]
  cases takeOneOf? words text with
  | none => simp [stripped]
  | some found => simp [stripped, or_comm]

/-- Every word of some groups is an identifier. -/
def Worded (groups : List (List String)) : Prop :=
  ∀ words ∈ groups, ∀ word ∈ words, alphabet.Spells word.toList

theorem unbroken_of_spells {word : String} (spelled : alphabet.Spells word.toList) : Unbroken word := by
  obtain ⟨c, rest, split, first, later⟩ := spelled
  rw [Unbroken, split]
  exact List.forall_mem_cons.mpr ⟨isBlank_of_first c first, fun d member => isBlank_of_later (later d member)⟩

theorem opens_modifiers {groups : List (List String)} {behind : TextPattern} (worded : Worded groups)
    (opens : Opens behind (alphabet.first · = true)) : Opens (Modifiers groups * behind) (alphabet.first · = true) := by
  induction groups with
  | nil => rwa [Modifiers, one_mul]
  | cons words groups ih =>
    obtain ⟨wordedFirst, wordedMore⟩ := List.forall_mem_cons.mp worded
    rw [Modifiers, mul_assoc]
    refine (ih wordedMore).optional (opens_oneOf fun word member => ?_)
    obtain ⟨c, rest, split, first, _⟩ := wordedFirst word member
    exact ⟨c, by rw [split]; rfl, first⟩

theorem exists_stripped_iff {groups : List (List String)} {behind : TextPattern} {text : List Char} (worded : Worded groups)
    (opens : Opens behind (alphabet.first · = true)) :
    (∃ rest ∈ stripped groups text, rest ∈ behind) ↔ text ∈ Modifiers groups * behind := by
  induction groups generalizing text with
  | nil => simp [stripped, Modifiers]
  | cons words groups ih =>
    obtain ⟨wordedFirst, wordedMore⟩ := List.forall_mem_cons.mp worded
    have visible : Opens (Modifiers groups * behind) (isBlank · = false) :=
      fun rest member c first => isBlank_of_first c (opens_modifiers wordedMore opens rest member c first)
    rw [Modifiers, mul_assoc, mem_optional_iff, mem_oneOf_iff (fun word member => unbroken_of_spells (wordedFirst word member)) visible]
    simp only [mem_stripped_cons]
    constructor
    · rintro ⟨rest, kept | ⟨found, taken, left⟩, inBehind⟩
      · exact Or.inl ((ih wordedMore).mp ⟨rest, kept, inBehind⟩)
      · exact Or.inr ⟨found, taken, (ih wordedMore).mp ⟨rest, left, inBehind⟩⟩
    · rintro (member | ⟨found, taken, member⟩)
      · obtain ⟨rest, left, inBehind⟩ := (ih wordedMore).mpr member
        exact ⟨rest, Or.inl left, inBehind⟩
      · obtain ⟨rest, left, inBehind⟩ := (ih wordedMore).mpr member
        exact ⟨rest, Or.inr ⟨found, taken, left⟩, inBehind⟩

/-! ## Functions without modifiers -/

/-- A function behind its modifiers. -/
def IsHead (text : List Char) : Prop := ∃ name, text ∈ Declared name ∨ text ∈ Method name

/-- What follows the name of a method. -/
theorem genericBody_of_method {word left name : List Char} (spelled : alphabet.Spells word) (stops : alphabet.Stops left)
    (method : word ++ left ∈ Method name) : trimLeft left ∈ Generic * Body := by
  obtain ⟨found, named, _, behind⟩ := (mem_captured_iff stops_genericBody).mp method
  rw [Alphabet.ident?_append spelled stops] at named
  cases named
  exact (mem_blanks_iff (opens_genericBody (by decide) (by decide))).mp behind

theorem opens_functionValue {allowed : Char → Prop} {name : List Char} (const : allowed 'c') (mutable : allowed 'l') :
    Opens (FunctionValue name) allowed := by
  refine opens_oneOf fun word member => ?_
  rcases List.mem_pair.mp member with rfl | rfl
  · exact ⟨'c', rfl, const⟩
  · exact ⟨'l', rfl, mutable⟩

theorem opens_declared {allowed : Char → Prop} {name : List Char} (function : allowed 'f') (const : allowed 'c')
    (mutable : allowed 'l') : Opens (Declared name) allowed :=
  (opens_word rfl function).add (opens_functionValue const mutable)

theorem IsHead.opens {text : List Char} (head : IsHead text) : ∀ c ∈ text.head?, alphabet.first c := by
  obtain ⟨name, declared | method⟩ := head
  · exact opens_declared (by decide) (by decide) (by decide) text declared
  · exact opens_captured (fun _ => id) text method

theorem exists_of_genericBody {text : List Char} (member : text ∈ Generic * Body) : ∃ c ∈ text.head?, alphabet.first c = false := by
  rw [Generic, mem_optional_iff, mem_letter_iff '<' rfl] at member
  rcases member with body | ⟨rest, rfl, _⟩
  · obtain ⟨rest, rfl, _⟩ := (mem_letter_iff '(' rfl).mp body
    exact ⟨'(', rfl, by decide⟩
  · exact ⟨'<', rfl, by decide⟩

/-- A word that declares no function. -/
def Ordinary (word : String) : Prop :=
  alphabet.Spells word.toList ∧ word ∉ ["const", "let"] ∧ word.toList.head? ≠ some 'f'

instance (word : String) : Decidable (Ordinary word) :=
  inferInstanceAs (Decidable (_ ∧ _ ∧ _))

/-- A function that such a word and blanks begin is a method of its name. -/
theorem genericBody_of_keyword {word : String} {text rest : List Char} (ordinary : Ordinary word)
    (read : dropKeyword? word text = some rest) (head : IsHead text) : rest ∈ Generic * Body := by
  obtain ⟨spelled, noValue, noFunction⟩ := ordinary
  obtain ⟨spaced, front, blank⟩ := Option.bind_eq_some_iff.mp read
  obtain ⟨⟨c, more, split, isBlank⟩, rfl⟩ := dropBlanks?_eq_some blank
  obtain ⟨name, (function | value) | method⟩ := head
  · obtain ⟨d, others, spelling, _⟩ := spelled
    obtain ⟨behind, word, _⟩ := mem_word_iff.mp function
    rw [spelling, List.head?_cons, ← head?_of_dropKeyword? spelling read] at noFunction
    exact absurd (head?_of_dropFront? word) noFunction
  · obtain ⟨found, taken, _⟩ := (mem_oneOf_iff (by decide) (opens_captured isBlank_of_first)).mp value
    obtain ⟨member, readAgain⟩ := (takeOneOf?_eq_some_iff (by decide)).mp taken
    have unbroken : ∀ word ∈ ["const", "let"], Unbroken word := by decide
    obtain rfl := keyword_unique (unbroken_of_spells spelled) (unbroken _ member) read readAgain
    exact absurd member noValue
  · rw [← append_of_dropFront? front] at method
    refine genericBody_of_method spelled (fun d first => ?_) method
    rw [split] at first
    cases first
    exact later_of_isBlank c isBlank

/-! ## One way to take modifiers away -/

/-- Nothing is taken from a text that begins with no modifier. -/
theorem eq_of_mem_stripped {groups : List (List String)} {text rest : List Char} (none : ∀ words ∈ groups, takeOneOf? words text = none)
    (left : rest ∈ stripped groups text) : rest = text := by
  induction groups with
  | nil => exact List.mem_singleton.mp left
  | cons words groups ih =>
    obtain ⟨noneFirst, noneMore⟩ := List.forall_mem_cons.mp none
    rcases mem_stripped_cons.mp left with kept | ⟨found, taken, _⟩
    · exact ih noneMore kept
    · rw [noneFirst] at taken
      cases taken

theorem takeOneOf?_of_first {words : List String} {text : List Char} {c : Char} (spelled : ∀ word ∈ words, alphabet.Spells word.toList)
    (first : c ∈ text.head?) (other : alphabet.first c = false) : takeOneOf? words text = none := by
  refine takeOneOf?_of_head? first fun word member => ?_
  obtain ⟨d, rest, split, isFirst, _⟩ := spelled word member
  refine ⟨d, by rw [split]; rfl, ?_⟩
  rintro rfl
  rw [other] at isFirst
  cases isFirst

/-- Groups of words that can be told from one another and from the words that declare a function. -/
structure Distinct (groups : List (List String)) : Prop where
  ordinary : ∀ words ∈ groups, ∀ word ∈ words, Ordinary word
  apart : groups.Pairwise fun words others => ∀ word ∈ words, word ∉ others

section Distinct

variable {words : List String} {groups : List (List String)} {text : List Char}

theorem Distinct.worded (distinct : Distinct groups) : Worded groups :=
  fun words inGroups word member => (distinct.ordinary words inGroups word member).1

theorem Distinct.more (distinct : Distinct (words :: groups)) : Distinct groups :=
  ⟨(List.forall_mem_cons.mp distinct.ordinary).2, (List.pairwise_cons.mp distinct.apart).2⟩

/-- A text that begins with a modifier is a function only as a method of this name. -/
theorem genericBody_of_kept {kept : List Char} {found : String × List Char} (distinct : Distinct (words :: groups))
    (taken : takeOneOf? words text = some found) (inKept : kept ∈ stripped groups text) (head : IsHead kept) :
    found.2 ∈ Generic * Body := by
  obtain ⟨ordinary, _⟩ := List.forall_mem_cons.mp distinct.ordinary
  obtain ⟨apart, _⟩ := List.pairwise_cons.mp distinct.apart
  have unbroken : ∀ word ∈ words, Unbroken word := fun word member => unbroken_of_spells (ordinary word member).1
  obtain ⟨member, read⟩ := (takeOneOf?_eq_some_iff unbroken).mp taken
  obtain rfl : kept = text := by
    refine eq_of_mem_stripped (fun others inGroups => ?_) inKept
    refine Option.eq_none_iff_forall_ne_some.mpr fun ⟨again, rest⟩ takenAgain => ?_
    have unbrokenToo : ∀ word ∈ others, Unbroken word :=
      fun word inside => unbroken_of_spells (distinct.more.worded others inGroups word inside)
    obtain ⟨inOthers, readAgain⟩ := (takeOneOf?_eq_some_iff unbrokenToo).mp takenAgain
    have same := keyword_unique (unbroken _ member) (unbrokenToo again inOthers) read readAgain
    exact apart others inGroups found.1 member (same ▸ inOthers)
  exact genericBody_of_keyword (ordinary _ member) read head

/-- If a function is left where a modifier is kept, none is left where it is taken away. -/
theorem not_isHead_of_kept {kept left : List Char} {found : String × List Char} (distinct : Distinct (words :: groups))
    (taken : takeOneOf? words text = some found) (inKept : kept ∈ stripped groups text) (inLeft : left ∈ stripped groups found.2)
    (head : IsHead kept) : ¬ IsHead left := by
  obtain ⟨c, first, noLetter⟩ := exists_of_genericBody (genericBody_of_kept distinct taken inKept head)
  obtain rfl : left = found.2 :=
    eq_of_mem_stripped (fun others inGroups => takeOneOf?_of_first (distinct.more.worded others inGroups) first noLetter) inLeft
  intro headToo
  rw [headToo.opens c first] at noLetter
  cases noLetter

/-- At most one way to take modifiers away leaves a function. -/
theorem stripped_unique {rest again : List Char} (distinct : Distinct groups) (left : rest ∈ stripped groups text) (head : IsHead rest)
    (leftAgain : again ∈ stripped groups text) (headAgain : IsHead again) : rest = again := by
  induction groups generalizing text with
  | nil => rw [List.mem_singleton.mp left, List.mem_singleton.mp leftAgain]
  | cons words groups ih =>
    rcases mem_stripped_cons.mp left with kept | ⟨found, taken, left⟩
    · rcases mem_stripped_cons.mp leftAgain with keptAgain | ⟨found, taken, leftAgain⟩
      · exact ih distinct.more kept keptAgain
      · exact absurd headAgain (not_isHead_of_kept distinct taken kept leftAgain head)
    · rcases mem_stripped_cons.mp leftAgain with keptAgain | ⟨_, takenAgain, leftAgain⟩
      · exact absurd head (not_isHead_of_kept distinct taken keptAgain left headAgain)
      · cases Option.some.inj (taken.symm.trans takenAgain)
        exact ih distinct.more left leftAgain

end Distinct

/-- Some way to take modifiers of some groups away leaves a function. -/
def Begins (groups : List (List String)) (text : List Char) : Prop := ∃ rest ∈ stripped groups text, IsHead rest

/-- A word with something else than parameters behind it is not the name of a method, so the function begins behind the word, and
the word is a modifier. -/
theorem Begins.behind {word : String} {groups : List (List String)} {text rest : List Char} (worded : Worded groups)
    (ordinary : Ordinary word) (read : dropKeyword? word text = some rest) (noMethod : rest ∉ Generic * Body)
    (begins : Begins groups text) : word ∈ groups.flatten ∧ ∃ later, later <:+ groups ∧ Begins later rest := by
  induction groups with
  | nil =>
    obtain ⟨_, kept, head⟩ := begins
    rw [List.mem_singleton.mp kept] at head
    exact absurd (genericBody_of_keyword ordinary read head) noMethod
  | cons words groups ih =>
    obtain ⟨wordedFirst, wordedMore⟩ := List.forall_mem_cons.mp worded
    obtain ⟨left, inLeft, head⟩ := begins
    rcases mem_stripped_cons.mp inLeft with kept | ⟨⟨other, behind⟩, taken, inLeft⟩
    · obtain ⟨member, later, suffix, begins⟩ := ih wordedMore ⟨left, kept, head⟩
      exact ⟨List.mem_append_right words member, later, suffix.trans (List.suffix_cons words groups), begins⟩
    · have unbroken : ∀ word ∈ words, Unbroken word := fun word member => unbroken_of_spells (wordedFirst word member)
      obtain ⟨member, readOther⟩ := (takeOneOf?_eq_some_iff unbroken).mp taken
      obtain rfl := keyword_unique (unbroken_of_spells ordinary.1) (unbroken other member) read readOther
      obtain rfl := Option.some.inj (read.symm.trans readOther)
      exact ⟨List.mem_append_left _ member, groups, List.suffix_cons words groups, left, inLeft, head⟩

/-! ## Functions -/

/-- The name of the function that begins a text without modifiers. -/
def headName? (text : List Char) : Option (List Char) :=
  functionName? text <|> arrowName? text <|> methodName? text

theorem headName?_eq_some_iff {text name : List Char} :
    headName? text = some name ↔ text ∈ Declared name ∨ text ∈ Method name ∧ ∀ other, text ∉ Declared other := by
  simp only [headName?, Declared, Language.mem_add, ← functionName?_eq_some_iff, ← arrowName?_eq_some_iff, ← methodName?_eq_some_iff]
  cases function : functionName? text with
  | some spelled =>
    have noValue : arrowName? text = none := by
      refine Option.eq_none_iff_forall_ne_some.mpr fun other value => ?_
      obtain ⟨behind, front, _⟩ := Option.bind_eq_some_iff.mp function
      have letters : Opens (FunctionValue other) (· ≠ 'f') := opens_functionValue (by decide) (by decide)
      exact letters text (arrowName?_eq_some_iff.mp value) 'f' (head?_of_dropFront? front) rfl
    simp [noValue]
  | none =>
    cases value : arrowName? text with
    | some spelled => simp
    | none => simp

theorem distinct_modifiers : Distinct modifiers where
  ordinary := by decide
  apart := by decide

theorem isHead_of_headName? {text name : List Char} (read : headName? text = some name) : IsHead text := by
  rcases headName?_eq_some_iff.mp read with declared | ⟨method, _⟩
  · exact ⟨name, Or.inl declared⟩
  · exact ⟨name, Or.inr method⟩

theorem mem_functionLine_iff {line name : List Char} :
    line ∈ FunctionLine name ↔ ∃ rest ∈ stripped modifiers line, rest ∈ Declared name :=
  (exists_stripped_iff distinct_modifiers.worded (opens_declared (by decide) (by decide) (by decide))).symm

theorem mem_methodLine_iff {line name : List Char} :
    line ∈ MethodLine name ↔ ∃ rest ∈ stripped modifiers line, rest ∈ Method name :=
  (exists_stripped_iff distinct_modifiers.worded (opens_captured fun _ => id)).symm

theorem functionHead?_eq_some_iff {line name : List Char} : functionHead? line = some name ↔ Calls line name := by
  have found : functionHead? line = some name ↔ ∃ rest ∈ stripped modifiers line, headName? rest = some name := by
    change (stripped modifiers line).findSome? headName? = some name ↔ _
    refine ⟨List.exists_of_findSome?_eq_some, fun ⟨rest, left, read⟩ => ?_⟩
    cases first : (stripped modifiers line).findSome? headName? with
    | none =>
      rw [List.findSome?_eq_none_iff.mp first rest left] at read
      cases read
    | some other =>
      obtain ⟨again, leftAgain, readAgain⟩ := List.exists_of_findSome?_eq_some first
      obtain rfl := stripped_unique distinct_modifiers left (isHead_of_headName? read) leftAgain (isHead_of_headName? readAgain)
      exact readAgain.symm.trans read
  simp only [found, headName?_eq_some_iff, Calls, mem_functionLine_iff, mem_methodLine_iff]
  constructor
  · rintro ⟨rest, left, declared | ⟨method, noFunction⟩⟩
    · exact Or.inl ⟨rest, left, declared⟩
    · refine Or.inr ⟨⟨rest, left, method⟩, ?_⟩
      rintro other ⟨again, leftAgain, declared⟩
      obtain rfl := stripped_unique distinct_modifiers left ⟨name, Or.inr method⟩ leftAgain ⟨other, Or.inl declared⟩
      exact noFunction other declared
  · rintro (⟨rest, left, declared⟩ | ⟨⟨rest, left, method⟩, noFunction⟩)
    · exact ⟨rest, left, Or.inl declared⟩
    · exact ⟨rest, left, Or.inr ⟨method, fun other declared => noFunction other ⟨rest, left, declared⟩⟩⟩

end DeclIndex.TypeScript
