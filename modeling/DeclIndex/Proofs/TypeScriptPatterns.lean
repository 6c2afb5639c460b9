import DeclIndex.Proofs.Readers
import DeclIndex.TypeScript.Head

/-!
# The patterns of TypeScript heads

The patterns of types, constants and the three forms of functions, as languages that say nothing of how a line is read, and that the
readers of heads accept exactly what the patterns describe. What a pattern captures is a parameter of its language. The modifiers of
functions come later.
-/

namespace DeclIndex.TypeScript
open DeclIndex.Text

/-! ## Patterns -/

/-- The type of a value, or none. -/
def Typed : TextPattern := 1 + Word ":" * (Without '=' - 1)
/-- The lines that begin a constant. -/
def ConstantLine (name : List Char) : TextPattern :=
  Marked "export" * (Word "const" * (Gap * (Captured alphabet.Names name * (Blanks * (Typed * (Word "=" * (Anything - 1)))))))

/-- What opens parameters or generic parameters. -/
def Opening : TextPattern := Word "(" * Anything + Word "<" * Anything
/-- A function with the word for it, and a star if it is a generator. -/
def NamedFunction (name : List Char) : TextPattern :=
  Word "function" * (Blanks * ((1 + Word "*" * Blanks) * (Captured alphabet.Names name * (Blanks * Opening))))

/-- A text that does not go on a word before it. -/
def Boundary : TextPattern := {text | ∀ c ∈ text.head?, isWordChar c = false}
/-- What opens a function as a value. -/
def Callable : TextPattern := Word "function" * Boundary + Word "(" * Anything
/-- A constant or a variable whose value is a function. -/
def FunctionValue (name : List Char) : TextPattern :=
  OneOf ["const", "let"] * (Gap * (Captured alphabet.Names name * (Blanks * (Typed * (Word "=" *
    (Blanks * (Marked "async" * Callable)))))))

/-- Generic parameters, or none. -/
def Generic : TextPattern := 1 + Word "<" * (Without '>' * Word ">")
/-- Parameters in parentheses and a body, with or without a return type between them. -/
def Body : TextPattern :=
  Word "(" * (Without ')' * (Word ")" * (Blanks * ((1 + Word ":" * Without '{') * (Word "\x7b" * Anything)))))
/-- A method. -/
def Method (name : List Char) : TextPattern := Captured alphabet.Names name * (Blanks * (Generic * Body))

/-- Generic parameters of a type, or none. -/
def TypeGeneric : TextPattern := 1 + Blanks * (Word "<" * (Without '>' * Word ">"))
/-- What opens the definition of a type. -/
def Assigned : TextPattern := Word "=" * Anything + Word "\x7b" * Anything
/-- The types that a type extends, or none, and its definition. -/
def Definition : TextPattern := (1 + Word "extends" * (Gap * (Without '{' - 1))) * Assigned
/-- The lines that begin a type. -/
def TypeLine (name : List Char) : TextPattern :=
  Marked "export" * (Marked "declare" * (OneOf ["type", "interface"] * (Gap * (Captured alphabet.Names name *
    (TypeGeneric * (Blanks * Definition))))))

/-! ## Letters -/

theorem isBlank_of_later {c : Char} (later : alphabet.later c) : isBlank c = false := by
  rw [alphabet, Bool.or_eq_true, Bool.or_eq_true, beq_iff_eq, beq_iff_eq] at later
  rcases later with (letter | rfl) | rfl
  · exact isBlank_of_isAlphanum letter
  · decide
  · decide

theorem later_of_first {c : Char} (first : alphabet.first c) : alphabet.later c := by
  simp only [alphabet, Bool.or_eq_true, beq_iff_eq, Char.isAlphanum] at first ⊢
  tauto

theorem isBlank_of_first (c : Char) (first : alphabet.first c) : isBlank c = false :=
  isBlank_of_later (later_of_first first)

theorem later_of_isBlank (c : Char) (blank : isBlank c) : alphabet.later c = false := by
  by_contra later
  rw [isBlank_of_later (Bool.eq_true_of_not_eq_false later)] at blank
  cases blank

/-! ## Named functions -/

theorem opens_opening {allowed : Char → Prop} (parenthesis : allowed '(') (bracket : allowed '<') : Opens Opening allowed :=
  (opens_word rfl parenthesis).add (opens_word rfl bracket)

theorem mem_opening_iff {text : List Char} : text ∈ Opening ↔ (∃ rest, text = '(' :: rest) ∨ ∃ rest, text = '<' :: rest := by
  rw [Opening, Language.mem_add, mem_begin_iff '(' rfl, mem_begin_iff '<' rfl]

/-- A name is called if parameters or generic parameters follow. -/
theorem called_iff {spelled left name : List Char} :
    (match trimLeft left with
      | '(' :: _ => some spelled
      | '<' :: _ => some spelled
      | _ => none) = some name ↔ spelled = name ∧ left ∈ Blanks * Opening := by
  rw [mem_blanks_iff (opens_opening (by decide) (by decide)), mem_opening_iff]
  split
  · simp [*]
  · simp [*]
  · next noCall noGeneric => simpa using fun _ => ⟨noCall, noGeneric⟩

theorem functionName?_eq_some_iff {text name : List Char} : functionName? text = some name ↔ text ∈ NamedFunction name := by
  have stops : Opens (Blanks * Opening) (alphabet.later · = false) :=
    (opens_opening (by decide) (by decide)).blanks later_of_isBlank
  have letters : Opens (Captured alphabet.Names name * (Blanks * Opening)) (alphabet.first · = true) := opens_captured fun _ => id
  have visible : Opens (Captured alphabet.Names name * (Blanks * Opening)) (isBlank · = false) := opens_captured isBlank_of_first
  rw [NamedFunction, mem_word_iff]
  simp only [functionName?, Option.bind_eq_bind, Option.bind_eq_some_iff]
  refine exists_congr fun behind => and_congr_right fun _ => ?_
  refine (exists_congr fun _ => and_congr_right fun _ => called_iff).trans ?_
  rw [← mem_captured_iff stops, mem_blanks_iff (visible.optional (opens_word rfl (by decide))), mem_optional_iff,
    mem_letter_iff '*' rfl]
  split
  · next beyond star =>
    have noName : '*' :: beyond ∉ Captured alphabet.Names name * (Blanks * Opening) := by
      intro named
      exact absurd (letters _ named '*' rfl) (by decide)
    simp [star, noName, mem_blanks_iff visible]
  · next noStar => exact (or_iff_left fun ⟨rest, star, _⟩ => noStar rest star).symm

/-! ## Constants and function values -/

/-- The type and the value behind the name of a constant or variable. -/
def valued? (text : List Char) : Option (Option (List Char) × List Char) :=
  match trimLeft text with
  | '=' :: value => some (none, value)
  | ':' :: type => (takeTo? '=' type).bind fun found => if found.1.isEmpty then none else some (some (trim found.1), found.2)
  | _ => none

theorem valued?_bind {α : Type} (text : List Char) (next : Option (List Char) × List Char → Option α) :
    (valued? text).bind next =
      match trimLeft text with
      | '=' :: value => next (none, value)
      | ':' :: type => (takeTo? '=' type).bind fun found => if found.1.isEmpty then none else next (some (trim found.1), found.2)
      | _ => none := by
  unfold valued?
  split
  · rfl
  · rw [Option.bind_assoc]
    refine Option.bind_congr fun found _ => ?_
    split <;> rfl
  · rfl

theorem arrowName?_eq (text : List Char) :
    arrowName? text = (takeOneOf? ["const", "let"] text).bind fun keyword => (alphabet.ident? keyword.2).bind fun called =>
      (valued? called.2).bind fun given => if isFunctionValue given.2 then some called.1 else none := by
  simp only [valued?_bind]
  rfl

theorem constantHead?_eq (line : List Char) :
    constantHead? line = (dropKeyword? "const" (takeKeyword "export" line).2).bind fun rest => (alphabet.ident? rest).bind fun called =>
      (valued? called.2).bind fun given => if given.2.isEmpty then none else some ⟨called.1, given.1, trim given.2⟩ := by
  simp only [valued?_bind]
  rfl

section Valued

variable {value : TextPattern}

theorem opens_valued {allowed : Char → Prop} (equals : allowed '=') (colon : allowed ':') :
    Opens (Typed * (Word "=" * value)) allowed :=
  Opens.optional (opens_word rfl equals) (opens_word rfl colon)

theorem stops_valued : Opens (Blanks * (Typed * (Word "=" * value))) (alphabet.later · = false) :=
  (opens_valued (by decide) (by decide)).blanks later_of_isBlank

theorem exists_valued?_iff {text : List Char} :
    (∃ given, valued? text = some given ∧ given.2 ∈ value) ↔ text ∈ Blanks * (Typed * (Word "=" * value)) := by
  rw [mem_blanks_iff (opens_valued (by decide) (by decide)), Typed, mem_optional_iff, mem_letter_iff '=' rfl, mem_letter_iff ':' rfl, valued?]
  split
  · simp [*]
  · next type colon =>
    have typed : type ∈ (Without '=' - 1) * (Word "=" * value) ↔ _ := mem_somethingUpTo_iff rfl
    simp only [colon, List.cons.injEq, Option.bind_eq_some_iff, Option.ite_none_left_eq_some, Option.some.injEq,
      List.isEmpty_iff]
    constructor
    · rintro ⟨_, ⟨found, cut, nonempty, rfl⟩, inValue⟩
      exact Or.inr ⟨type, ⟨trivial, rfl⟩, typed.mpr ⟨found, cut, nonempty, inValue⟩⟩
    · rintro (⟨rest, ⟨other, _⟩, _⟩ | ⟨_, ⟨_, rfl⟩, inType⟩)
      · exact absurd other (by decide)
      · obtain ⟨found, cut, nonempty, inValue⟩ := typed.mp inType
        exact ⟨_, ⟨found, cut, nonempty, rfl⟩, inValue⟩
  · next noValue noType =>
    refine iff_of_false (by simp) ?_
    rintro (⟨rest, found, _⟩ | ⟨rest, found, _⟩)
    · exact noValue rest found
    · exact noType rest found

end Valued

theorem opens_callable {allowed : Char → Prop} (function : allowed 'f') (parenthesis : allowed '(') : Opens Callable allowed :=
  (opens_word rfl function).add (opens_word rfl parenthesis)

theorem isFunctionValue_iff {text : List Char} : isFunctionValue text ↔ text ∈ Blanks * (Marked "async" * Callable) := by
  have visible : Opens Callable (isBlank · = false) := opens_callable (by decide) (by decide)
  have markedVisible : Opens (Marked "async" * Callable) (isBlank · = false) := visible.optional (opens_word rfl (by decide))
  have letters : Opens Callable (· ≠ 'a') := opens_callable (by decide) (by decide)
  rw [mem_blanks_iff markedVisible, mem_marked_iff visible fun rest => dropKeyword?_of_opens letters rfl, Callable, Language.mem_add,
    mem_begin_iff '(' rfl, mem_word_iff]
  unfold isFunctionValue
  dsimp only
  split
  · simp [*]
  · next noParenthesis =>
    rw [or_iff_left fun ⟨rest, found⟩ => noParenthesis rest found]
    have boundary : ∀ rest, rest ∈ Boundary ↔ ∀ c ∈ rest.head?, isWordChar c = false := fun _ => Iff.rfl
    split
    · next found => simp only [found, Option.some.injEq, exists_eq_left', boundary]; simp
    · next found => simp only [found, Option.some.injEq, exists_eq_left', boundary]; simp
    · next found => simp only [found]; simp

theorem arrowName?_eq_some_iff {text name : List Char} : arrowName? text = some name ↔ text ∈ FunctionValue name := by
  rw [FunctionValue, mem_oneOf_iff (by decide) (opens_captured isBlank_of_first), arrowName?_eq]
  simp only [Option.bind_eq_some_iff, Option.ite_none_right_eq_some, Option.some.injEq, mem_captured_iff stops_valued, isFunctionValue_iff,
    ← exists_valued?_iff]
  refine exists_congr fun keyword => and_congr_right fun _ => exists_congr fun called => and_congr_right fun _ => ?_
  constructor
  · rintro ⟨given, valued, function, rfl⟩
    exact ⟨rfl, given, valued, function⟩
  · rintro ⟨rfl, given, valued, function⟩
    exact ⟨given, valued, function, rfl⟩

theorem constantHead?_name_iff {line name : List Char} :
    (∃ head, constantHead? line = some head ∧ head.name = name) ↔ line ∈ ConstantLine name := by
  have something : ∀ value, value ∈ Anything - 1 ↔ value ≠ [] := fun value => and_iff_right trivial
  rw [ConstantLine, mem_marked_iff (opens_word rfl (by decide)), mem_keyword_iff (opens_captured isBlank_of_first), constantHead?_eq]
  · simp only [Option.bind_eq_some_iff, Option.ite_none_left_eq_some, Option.some.injEq, mem_captured_iff stops_valued, List.isEmpty_iff,
      ← exists_valued?_iff, something]
    constructor
    · rintro ⟨_, ⟨rest, const, called, named, given, valued, nonempty, rfl⟩, rfl⟩
      exact ⟨rest, const, called, named, rfl, given, valued, nonempty⟩
    · rintro ⟨rest, const, called, named, rfl, given, valued, nonempty⟩
      exact ⟨_, ⟨rest, const, called, named, given, valued, nonempty, rfl⟩, rfl⟩
  · intro rest member
    have letters : Opens (Word "const" * (Gap * (Captured alphabet.Names name * (Blanks * (Typed * (Word "=" * (Anything - 1)))))))
        (· ≠ 'e') := opens_word rfl (by decide)
    exact dropKeyword?_of_opens letters rfl member

/-! ## Methods -/

/-- What follows the generic parameters of a method, which need not be there. -/
def afterGenerics? (text : List Char) : Option (List Char) :=
  match trimLeft text with
  | '<' :: generic => (takeTo? '>' generic).map (·.2)
  | rest => some rest

/-- Whether parameters in parentheses and a body follow. -/
def hasBody : List Char → Bool
  | '(' :: parameters => (takeTo? ')' parameters).any fun found =>
    match trimLeft found.2 with
    | '{' :: _ => true
    | ':' :: type => type.contains '{'
    | _ => false
  | _ => false

theorem afterGenerics?_bind {α : Type} (text : List Char) (next : List Char → Option α) :
    (afterGenerics? text).bind next =
      match trimLeft text with
      | '<' :: generic => ((takeTo? '>' generic).map (·.2)).bind next
      | rest => next rest := by
  unfold afterGenerics?
  split <;> rfl

theorem ite_hasBody (spelled rest : List Char) :
    (if hasBody rest then some spelled else none) =
      match rest with
      | '(' :: parameters => (takeTo? ')' parameters).bind fun found =>
        match trimLeft found.2 with
        | '{' :: _ => some spelled
        | ':' :: type => if type.contains '{' then some spelled else none
        | _ => none
      | _ => none := by
  unfold hasBody
  split
  · next parameters =>
    cases takeTo? ')' parameters with
    | none => rfl
    | some found =>
      rw [Option.bind_some, Option.any_some]
      split <;> rfl
  · rfl

theorem methodName?_eq (text : List Char) :
    methodName? text = (alphabet.ident? text).bind fun called => (afterGenerics? called.2).bind fun rest =>
      if hasBody rest then some called.1 else none := by
  simp only [afterGenerics?_bind, ite_hasBody]
  rfl

theorem hasBody_iff {text : List Char} : hasBody text ↔ text ∈ Body := by
  have visible : Opens ((1 + Word ":" * Without '{') * (Word "\x7b" * Anything)) (isBlank · = false) :=
    Opens.optional (opens_word rfl (by decide)) (opens_word rfl (by decide))
  have braced : ∀ type, type ∈ Without '{' * (Word "\x7b" * Anything) ↔ '{' ∈ type := fun type => mem_contains_iff '{' rfl
  rw [Body, mem_letter_iff '(' rfl]
  unfold hasBody
  split
  · next parameters =>
    have cut : parameters ∈ Without ')' * (Word ")" * (Blanks * ((1 + Word ":" * Without '{') * (Word "\x7b" * Anything)))) ↔ _ :=
      mem_upTo_iff rfl
    simp only [List.cons.injEq, true_and, exists_eq_left', cut, Option.any_eq_true]
    refine exists_congr fun found => and_congr_right fun _ => ?_
    rw [mem_blanks_iff visible, mem_optional_iff, mem_begin_iff '{' rfl, mem_letter_iff ':' rfl]
    split
    · simp [*]
    · next type colon => simp [colon, braced]
    · next noBody noType =>
      refine iff_of_false (by simp) ?_
      rintro (⟨rest, found⟩ | ⟨rest, found, _⟩)
      · exact noBody rest found
      · exact noType rest found
  · next other => exact iff_of_false (by simp) fun ⟨rest, opened, _⟩ => other rest opened

theorem opens_genericBody {allowed : Char → Prop} (bracket : allowed '<') (parenthesis : allowed '(') :
    Opens (Generic * Body) allowed :=
  Opens.optional (opens_word rfl parenthesis) (opens_word rfl bracket)

theorem stops_genericBody : Opens (Blanks * (Generic * Body)) (alphabet.later · = false) :=
  (opens_genericBody (by decide) (by decide)).blanks later_of_isBlank

theorem exists_afterGenerics?_iff {text : List Char} :
    (∃ rest, afterGenerics? text = some rest ∧ rest ∈ Body) ↔ text ∈ Blanks * (Generic * Body) := by
  have letters : Opens Body (· = '(') := opens_word rfl rfl
  rw [mem_blanks_iff (opens_genericBody (by decide) (by decide)), Generic, mem_optional_iff, mem_letter_iff '<' rfl]
  unfold afterGenerics?
  split
  · next generic found =>
    have cut : generic ∈ Without '>' * (Word ">" * Body) ↔ _ := mem_upTo_iff rfl
    have noBody : '<' :: generic ∉ Body := fun body => absurd (letters _ body '<' rfl) (by decide)
    simp only [found, noBody, mul_assoc, List.cons.injEq, true_and, exists_eq_left', cut, false_or, Option.map_eq_some_iff]
    constructor
    · rintro ⟨_, ⟨found, closed, rfl⟩, body⟩
      exact ⟨found, closed, body⟩
    · rintro ⟨found, closed, body⟩
      exact ⟨_, ⟨found, closed, rfl⟩, body⟩
  · next noGeneric =>
    simp only [Option.some.injEq, exists_eq_left']
    exact (or_iff_left fun ⟨rest, found, _⟩ => noGeneric rest found).symm

theorem methodName?_eq_some_iff {text name : List Char} : methodName? text = some name ↔ text ∈ Method name := by
  rw [Method, mem_captured_iff stops_genericBody, methodName?_eq]
  simp only [Option.bind_eq_some_iff, Option.ite_none_right_eq_some, Option.some.injEq, hasBody_iff, ← exists_afterGenerics?_iff]
  refine exists_congr fun called => and_congr_right fun _ => ?_
  constructor
  · rintro ⟨rest, generic, body, rfl⟩
    exact ⟨rfl, rest, generic, body⟩
  · rintro ⟨rfl, rest, generic, body⟩
    exact ⟨rest, generic, body, rfl⟩

/-! ## Types -/

theorem mem_assigned_iff {text : List Char} : text ∈ Assigned ↔ (∃ rest, text = '=' :: rest) ∨ ∃ rest, text = '{' :: rest := by
  rw [Assigned, Language.mem_add, mem_begin_iff '=' rfl, mem_begin_iff '{' rfl]

/-- Something extended and a definition: the first equals sign or brace behind it opens the definition. -/
theorem mem_extended_iff {text : List Char} :
    text ∈ Gap * ((Without '{' - 1) * Assigned) ↔ ∃ blank c others, text = blank :: c :: others ∧
      isBlank blank ∧ c ≠ '{' ∧ ∃ other ∈ others, other = '=' ∨ other = '{' := by
  constructor
  · intro member
    obtain ⟨gap, ⟨blanks, nonempty⟩, _, behind, rfl⟩ := Language.mem_mul.mp member
    obtain ⟨extended, ⟨free, something⟩, assigned, opened, rfl⟩ := Language.mem_mul.mp behind
    obtain ⟨blank, more, rfl⟩ := List.exists_cons_of_ne_nil nonempty
    obtain ⟨blankFirst, blankMore⟩ := List.forall_mem_cons.mp blanks
    obtain ⟨c, others, split⟩ := List.exists_cons_of_ne_nil (List.append_ne_nil_of_right_ne_nil more something)
    refine ⟨blank, c, others ++ assigned, ?_, blankFirst, ?_, ?_⟩
    · rw [List.cons_append, ← List.append_assoc, split, List.cons_append]
    · rintro rfl
      rcases List.mem_append.mp (split ▸ List.mem_cons_self) with inMore | inExtended
      · exact absurd (blankMore '{' inMore) (by decide)
      · exact free inExtended
    · rcases mem_assigned_iff.mp opened with ⟨rest, rfl⟩ | ⟨rest, rfl⟩
      · exact ⟨'=', List.mem_append_right others List.mem_cons_self, Or.inl rfl⟩
      · exact ⟨'{', List.mem_append_right others List.mem_cons_self, Or.inr rfl⟩
  · rintro ⟨blank, c, others, rfl, isBlank, noBrace, other, member, opens⟩
    obtain ⟨d, found⟩ : ∃ d, others.find? (fun other => other == '=' || other == '{') = some d := by
      refine Option.isSome_iff_exists.mp (List.find?_isSome.mpr ⟨other, member, ?_⟩)
      simpa using opens
    obtain ⟨opensToo, before, after, rfl, others⟩ := List.find?_eq_some_iff_append.mp found
    refine Language.append_mem_mul (a := [blank]) ⟨?_, List.cons_ne_nil blank []⟩
      (Language.append_mem_mul (a := c :: before) (b := d :: after) ⟨?_, List.cons_ne_nil c before⟩ ?_)
    · exact fun e inside => List.mem_singleton.mp inside ▸ isBlank
    · intro brace
      rcases List.mem_cons.mp brace with rfl | inside
      · exact noBrace rfl
      · exact absurd (others '{' inside) (by decide)
    · rw [mem_assigned_iff]
      simpa using opensToo

theorem opens_definition {allowed : Char → Prop} (extending : allowed 'e') (equals : allowed '=') (brace : allowed '{') :
    Opens Definition allowed :=
  Opens.optional ((opens_word rfl equals).add (opens_word rfl brace)) (opens_word rfl extending)

theorem hasDefinition_iff {text : List Char} : hasDefinition text ↔ text ∈ Blanks * Definition := by
  rw [mem_blanks_iff (opens_definition (by decide) (by decide) (by decide)), Definition, mem_optional_iff, mem_assigned_iff, mem_word_iff, mul_assoc]
  simp only [mem_extended_iff]
  unfold hasDefinition
  split
  · simp [*]
  · simp [*]
  · next noValue noBrace =>
    rw [or_iff_right (by rintro (⟨rest, found⟩ | ⟨rest, found⟩); exacts [noValue rest found, noBrace rest found])]
    split
    · next blank c others found =>
      have extended : (isBlank blank && c != '{' && others.any fun other => other == '=' || other == '{') = true ↔
          isBlank blank ∧ c ≠ '{' ∧ ∃ other ∈ others, other = '=' ∨ other = '{' := by
        simp [and_assoc]
      rw [extended, found]
      constructor
      · exact fun holds => ⟨_, rfl, blank, c, others, rfl, holds⟩
      · rintro ⟨_, same, _, _, _, rfl, holds⟩
        cases same
        exact holds
    · next other =>
      refine iff_of_false (by simp) ?_
      rintro ⟨_, front, blank, c, others, rfl, _⟩
      exact other blank c others front

theorem hasDefinition_generics_iff {left : List Char} :
    hasDefinition (generics left).2 ↔ left ∈ TypeGeneric * (Blanks * Definition) := by
  have opened : Opens Definition (· ≠ '<') := opens_definition (by decide) (by decide) (by decide)
  have visible : Opens (Word "<" * (Without '>' * Word ">" * (Blanks * Definition))) (isBlank · = false) := opens_word rfl (by decide)
  rw [hasDefinition_iff, TypeGeneric, mem_optional_iff, mul_assoc, mem_blanks_iff visible, mem_letter_iff '<' rfl]
  unfold generics
  split
  · next rest bracket =>
    have noDefinition : left ∉ Blanks * Definition := by
      rw [mem_blanks_iff (opens_definition (by decide) (by decide) (by decide)), bracket]
      exact fun defined => opened _ defined '<' rfl rfl
    have cut : rest ∈ Without '>' * (Word ">" * (Blanks * Definition)) ↔ _ := mem_upTo_iff rfl
    simp only [bracket, noDefinition, false_or, List.cons.injEq, true_and, exists_eq_left', mul_assoc, cut]
    cases takeTo? '>' rest with
    | none => simpa using noDefinition
    | some found => simp
  · next noGeneric => exact (or_iff_left fun ⟨rest, bracket, _⟩ => noGeneric rest bracket).symm

theorem opens_typeWords {allowed : Char → Prop} {behind : TextPattern} (type : allowed 't') (interface : allowed 'i') :
    Opens (OneOf ["type", "interface"] * behind) allowed := by
  refine opens_oneOf fun word member => ?_
  rcases List.mem_pair.mp member with rfl | rfl
  · exact ⟨'t', rfl, type⟩
  · exact ⟨'i', rfl, interface⟩

/-- What stands behind the keyword of a type. -/
theorem mem_typeKeyword_iff {line : List Char} {behind : TextPattern} (visible : Opens behind (isBlank · = false)) :
    line ∈ Marked "export" * (Marked "declare" * (OneOf ["type", "interface"] * (Gap * behind))) ↔
      ∃ found, takeOneOf? ["type", "interface"] (takeKeyword "declare" (takeKeyword "export" line).2).2 = some found ∧
        found.2 ∈ behind := by
  have opens : ∀ {allowed : Char → Prop}, allowed 'd' → allowed 't' → allowed 'i' →
      Opens (Marked "declare" * (OneOf ["type", "interface"] * (Gap * behind))) allowed :=
    fun declare type interface => (opens_typeWords type interface).optional (opens_word rfl declare)
  have noExport : Opens (Marked "declare" * (OneOf ["type", "interface"] * (Gap * behind))) (· ≠ 'e') :=
    opens (by decide) (by decide) (by decide)
  have noDeclare : Opens (OneOf ["type", "interface"] * (Gap * behind)) (· ≠ 'd') := opens_typeWords (by decide) (by decide)
  rw [mem_marked_iff (opens (by decide) (by decide) (by decide)) fun rest => dropKeyword?_of_opens noExport rfl,
    mem_marked_iff (opens_typeWords (by decide) (by decide)) fun rest => dropKeyword?_of_opens noDeclare rfl,
    mem_oneOf_iff (by decide) visible]

theorem mem_typeLine_iff {line name : List Char} :
    line ∈ TypeLine name ↔
      ∃ found, takeOneOf? ["type", "interface"] (takeKeyword "declare" (takeKeyword "export" line).2).2 = some found ∧
        found.2 ∈ Captured alphabet.Names name * (TypeGeneric * (Blanks * Definition)) :=
  mem_typeKeyword_iff (opens_captured isBlank_of_first)

theorem mem_typeLine {line : List Char} {head : TypeHead} (read : typeHead? line = some head) : line ∈ TypeLine head.name := by
  obtain ⟨found, keyword, read⟩ := Option.bind_eq_some_iff.mp read
  obtain ⟨name, left, read, split, spelled⟩ := Alphabet.identThen?_eq_some read
  obtain ⟨defined, same⟩ := Option.ite_none_right_eq_some.mp read
  cases same
  refine mem_typeLine_iff.mpr ⟨found, keyword, ?_⟩
  rw [← split]
  exact Language.append_mem_mul ⟨rfl, spelled⟩ (hasDefinition_generics_iff.mp defined)

theorem exists_typeHead? {line name : List Char} (member : line ∈ TypeLine name) : ∃ head, typeHead? line = some head := by
  obtain ⟨found, keyword, member⟩ := mem_typeLine_iff.mp member
  obtain ⟨_, ⟨rfl, spelled⟩, left, inLeft, split⟩ := Language.mem_mul.mp member
  have defined := hasDefinition_generics_iff.mpr inLeft
  unfold typeHead?
  dsimp only
  rw [keyword, Option.bind_eq_bind, Option.bind_some, ← split]
  exact Alphabet.exists_identThen? spelled (if_pos defined)

end DeclIndex.TypeScript
