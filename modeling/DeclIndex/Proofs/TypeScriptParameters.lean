import DeclIndex.Proofs.ParameterLists
import DeclIndex.Proofs.TypeScriptPatterns
import DeclIndex.TypeScript.Parameters

/-!
# Parameters of TypeScript functions

Parameter lists as they are written: names, question marks, and types of names, type arguments, arrays and functions in any nesting. The
type of a parameter is read up to the first equals sign, where a default value would begin. The arrow of a function type has one, so a
list is read as it is written exactly if there is no function type in it.
-/

namespace DeclIndex.TypeScript
open DeclIndex.Text DeclIndex.Bracket

/-- Types. Lists of arguments and parameters may be empty. -/
inductive TypeExpr where
  | named (name : Identifier alphabet)
  | generic (name : Identifier alphabet) (arguments : List TypeExpr)
  | array (item : TypeExpr)
  | function (parameters : List (Identifier alphabet × TypeExpr)) (result : TypeExpr)

namespace TypeExpr

mutual

/-- How a type is written. -/
def text : TypeExpr → List Char
  | named name => name.letters
  | generic name arguments => name.letters ++ '<' :: (joined (texts arguments) ++ ['>'])
  | array item => item.text ++ "[]".toList
  | function parameters result => '(' :: (joined (entries parameters) ++ [')']) ++ (" => ".toList ++ result.text)

def texts : List TypeExpr → List (List Char)
  | [] => []
  | type :: more => type.text :: texts more

def entries : List (Identifier alphabet × TypeExpr) → List (List Char)
  | [] => []
  | (name, type) :: more => (name.letters ++ (": ".toList ++ type.text)) :: entries more

end

mutual

/-- Whether no function type stands in a type. -/
def isArrowFree : TypeExpr → Bool
  | named _ => true
  | generic _ arguments => areArrowFree arguments
  | array item => item.isArrowFree
  | function _ _ => false

def areArrowFree : List TypeExpr → Bool
  | [] => true
  | type :: more => type.isArrowFree && areArrowFree more

end

theorem plain_name (name : Identifier alphabet) : Unmarked name.letters :=
  name.plain (by decide)

theorem nonblank_name (name : Identifier alphabet) : Nonblank name.letters :=
  name.nonblank isBlank_of_first fun _ => isBlank_of_later

theorem equals_notMem_name (name : Identifier alphabet) : '=' ∉ name.letters :=
  name.spelled.notMem (by decide) (by decide)

mutual

theorem equals_mem_text : ∀ type : TypeExpr, type.isArrowFree = false → '=' ∈ type.text
  | named _, arrow => by simp [isArrowFree] at arrow
  | generic name arguments, arrow => by
    have inside : '=' ∈ joined (texts arguments) := (mem_joined_iff (by decide)).mpr (equals_mem_texts arguments arrow)
    simp [text, inside]
  | array item, arrow => List.mem_append_left _ (equals_mem_text item arrow)
  | function parameters result, _ => by simp [text]

theorem equals_mem_texts : ∀ types : List TypeExpr, areArrowFree types = false → ∃ text ∈ texts types, '=' ∈ text
  | [], arrow => by simp [areArrowFree] at arrow
  | type :: more, arrow => by
    rw [areArrowFree, Bool.and_eq_false_iff] at arrow
    rcases arrow with here | later
    · exact ⟨_, List.mem_cons_self, equals_mem_text type here⟩
    · obtain ⟨text, member, inside⟩ := equals_mem_texts more later
      exact ⟨text, List.mem_cons_of_mem _ member, inside⟩

end

/-- A type that the reader of parameters takes as a whole. -/
structure Readable (text : List Char) : Prop where
  spaced : SingleSpaced text
  written : text ≠ []
  after : ∀ nesting : Nesting, nesting.after text = nesting
  uncut : ∀ nesting : Nesting, cuts nesting text = 0
  unequal : '=' ∉ text

mutual

theorem readable_text : ∀ type : TypeExpr, type.isArrowFree → Readable type.text
  | named name, _ => ⟨singleSpaced_of_nonblank (nonblank_name name), name.ne_nil, fun _ => after_of_plain (plain_name name),
      fun _ => cuts_of_plain (plain_name name), equals_notMem_name name⟩
  | generic name arguments, free => by
    have each := readable_texts arguments free
    have listed : SingleSpaced ('<' :: (joined (texts arguments) ++ ['>'])) := singleSpaced_enclosed (by decide) fun text member =>
      ⟨(each text member).spaced, (each text member).written⟩
    -- between the angle brackets no comma stands outside
    have within (nesting : Nesting) : (⟨nesting.level, nesting.angle + 1⟩ : Nesting).isOutside = false := by simp [Nesting.isOutside]
    have list (nesting : Nesting) := cuts_joined_inside (within nesting) fun text member =>
      ⟨(each text member).after _, (each text member).uncut _⟩
    refine ⟨(singleSpaced_of_nonblank (nonblank_name name)).append listed, ?_, ?_, ?_, ?_⟩
    · simp [text]
    · intro nesting
      have opened : nesting.read '<' = ⟨nesting.level, nesting.angle + 1⟩ := rfl
      rw [text, Nesting.after_append, after_of_plain (plain_name name), Nesting.after_cons, Nesting.after_append, opened, (list nesting).1]
      rfl
    · intro nesting
      rw [text, cuts_append, cuts_of_plain (plain_name name), after_of_plain (plain_name name), cuts_angles, (list nesting).2]
    · have unequal : '=' ∉ joined (texts arguments) := by
        rw [mem_joined_iff (by decide)]
        rintro ⟨text, member, inside⟩
        exact (each text member).unequal inside
      simp [text, equals_notMem_name name, unequal]
  | array item, free => by
    obtain ⟨spaced, written, after, uncut, unequal⟩ := readable_text item free
    have brackets : SingleSpaced "[]".toList := singleSpaced_of_nonblank (by decide)
    refine ⟨spaced.append brackets, ?_, ?_, ?_, ?_⟩
    · simp [text, written]
    · intro nesting
      rw [text, Nesting.after_append, after]
      simp [Nesting.read]
    · intro nesting
      rw [text, cuts_append, uncut, after]
      rfl
    · simp [text, unequal]

theorem readable_texts : ∀ types : List TypeExpr, areArrowFree types → ∀ text ∈ texts types, Readable text
  | [], _ => by simp [texts]
  | type :: more, free => by
    rw [areArrowFree, Bool.and_eq_true] at free
    exact List.forall_mem_cons.mpr ⟨readable_text type free.1, readable_texts more free.2⟩

end

end TypeExpr

/-! ## Parameters -/

/-- A parameter with its type, as it is written in the head of a function. -/
structure TypedName where
  name : Identifier alphabet
  isOptional : Bool
  type : TypeExpr

namespace TypedName

def text (parameter : TypedName) : List Char :=
  parameter.name.letters ++ ((if parameter.isOptional then "?: ".toList else ": ".toList) ++ parameter.type.text)

/-- What is to be known of the parameter. -/
def toParameter (parameter : TypedName) : Parameter where
  name := String.ofList parameter.name.letters
  type := String.ofList parameter.type.text
  optional := parameter.isOptional

variable {parameter : TypedName}

theorem singleSpaced_text (readable : TypeExpr.Readable parameter.type.text) : SingleSpaced parameter.text := by
  have name := singleSpaced_of_nonblank (TypeExpr.nonblank_name parameter.name)
  have colon : SingleSpaced [':'] := singleSpaced_of_nonblank (by decide)
  have question : SingleSpaced ['?', ':'] := singleSpaced_of_nonblank (by decide)
  have required := (name.append colon).join (by simp) readable.spaced readable.written
  have optional := (name.append question).join (by simp) readable.spaced readable.written
  rw [text]
  split
  · simpa using optional
  · simpa using required

theorem neutral_text (readable : TypeExpr.Readable parameter.type.text) : Closed parameter.text ∧ cuts {} parameter.text = 0 := by
  have colon : Unmarked (if parameter.isOptional then "?: ".toList else ": ".toList) := by
    split <;> decide
  have name := TypeExpr.plain_name parameter.name
  rw [Closed, text, Nesting.after_append, after_of_plain name, Nesting.after_append, after_of_plain colon, readable.after, cuts_append,
    cuts_of_plain name, after_of_plain name, cuts_append, cuts_of_plain colon, after_of_plain colon, readable.uncut]
  exact ⟨rfl, rfl⟩

end TypedName

/-- A parameter is read as it is written, if its type can be read as a whole. -/
theorem parameter_text {written : TypedName} (readable : TypeExpr.Readable written.type.text) :
    parameter written.text = written.toParameter := by
  have undotted : dropFront "...".toList written.text = written.text := by
    obtain ⟨c, rest, same, first, _⟩ := written.name.spelled
    have other : '.' ≠ c := by
      rintro rfl
      cases first
    have dots : dropFront? "...".toList written.text = none := by
      rw [TypedName.text, same]
      exact if_neg other
    rw [dropFront, dots, Option.getD_none]
  have named : alphabet.ident? written.text = some (written.name.letters,
      (if written.isOptional then "?: ".toList else ": ".toList) ++ written.type.text) := by
    refine Alphabet.ident?_append written.name.spelled fun c first => ?_
    cases optional : written.isOptional with
    | true =>
      rw [optional] at first
      cases first
      rfl
    | false =>
      rw [optional] at first
      cases first
      rfl
  have passes : ∀ c ∈ ' ' :: written.type.text, (c != '=') = true := passes_of_notMem (by simp [readable.unequal])
  have type : trim (' ' :: written.type.text) = written.type.text := readable.spaced.toTidy.trim_eq
  have entry : parameterParts? written.text =
      (defaultEnd? ((' ' :: written.type.text).dropWhile (· != '='))).bind fun hasDefault =>
        some ⟨written.name.letters, written.isOptional, some (trim ((' ' :: written.type.text).takeWhile (· != '='))), hasDefault⟩ := by
    rw [parameterParts?, undotted, named]
    cases written.isOptional <;> rfl
  rw [List.takeWhile_eq_self_iff.mpr passes, List.dropWhile_eq_nil_iff.mpr passes, type] at entry
  rw [parameter, entry]
  simp [defaultEnd?, trimLeft, TypedName.toParameter]

theorem equals_notMem_of_entry {entry : List Char} {parts : ParameterEntry} (read : parameterParts? entry = some parts) :
    ∀ type ∈ parts.type, '=' ∉ type := by
  obtain ⟨⟨name, rest⟩, _, read⟩ := Option.bind_eq_some_iff.mp read
  dsimp only at read
  split at read
  · next left _ =>
    obtain ⟨_, read⟩ := Option.ite_none_left_eq_some.mp read
    obtain ⟨hasDefault, _, same⟩ := Option.bind_eq_some_iff.mp read
    cases same
    intro type given member
    have taken : trim (left.takeWhile (· != '=')) = type := Option.some.inj given
    have passed := List.mem_takeWhile_imp (mem_of_mem_trim (taken ▸ member))
    simp at passed
  · obtain ⟨hasDefault, _, same⟩ := Option.bind_eq_some_iff.mp read
    cases same
    simp

/-- The type of a parameter ends in front of the first equals sign. -/
theorem equals_notMem_type (entry : List Char) : '=' ∉ (parameter entry).type.toList := by
  rw [parameter]
  split
  · next parts read =>
    have unequal := equals_notMem_of_entry read
    cases given : parts.type with
    | none => simp
    | some type => simpa using unequal type given
  · simp

/-- The parameters of a list are read as they are written exactly if no function type stands in their types. -/
theorem parameters_eq_iff_isArrowFree (listed : List TypedName) :
    parameters (joined (listed.map TypedName.text)) = listed.map TypedName.toParameter ↔
      ∀ parameter ∈ listed, parameter.type.isArrowFree := by
  constructor
  · intro recovered written member
    by_contra arrow
    have inside : '=' ∈ written.toParameter.type.toList := by
      simpa [TypedName.toParameter] using written.type.equals_mem_text (Bool.eq_false_iff.mpr arrow)
    have read : written.toParameter ∈ parameters (joined (listed.map TypedName.text)) := recovered ▸ List.mem_map_of_mem member
    obtain ⟨entry, _, same⟩ := List.mem_map.mp read
    exact equals_notMem_type entry (same ▸ inside)
  · intro free
    have readable : ∀ written ∈ listed, TypeExpr.Readable written.type.text := fun written member =>
      written.type.readable_text (free written member)
    have spaced : ∀ entry ∈ listed.map TypedName.text, SingleSpaced entry ∧ entry ≠ [] :=
      List.forall_mem_map.mpr fun written member => ⟨TypedName.singleSpaced_text (readable written member), by
        simp [TypedName.text, written.name.ne_nil]⟩
    have closed : ∀ entry ∈ listed.map TypedName.text, Closed entry :=
      List.forall_mem_map.mpr fun written member => (TypedName.neutral_text (readable written member)).1
    have uncut : ∀ entry ∈ listed.map TypedName.text, cuts {} entry = 0 :=
      List.forall_mem_map.mpr fun written member => (TypedName.neutral_text (readable written member)).2
    rw [parameters, (singleSpaced_joined spaced).normalize_eq,
      splitParameters_joined closed uncut fun entry member => ⟨(spaced entry member).1.toTidy, (spaced entry member).2⟩, List.map_map]
    exact List.map_congr_left fun written member => parameter_text (readable written member)

/-- The type of a callback is cut at its arrow, which is taken for a default value. -/
theorem parameters_cut_callback :
    let number : TypeExpr := .named ⟨"number".toList, by decide⟩
    let void : TypeExpr := .named ⟨"void".toList, by decide⟩
    let callback : TypedName := ⟨⟨"callback".toList, by decide⟩, false, .function [(⟨"value".toList, by decide⟩, number)] void⟩
    callback.text = "callback: (value: number) => void".toList ∧
      parameters (joined ([callback].map TypedName.text)) = [⟨"callback", "(value: number)", true⟩] ∧
      parameters (joined ([callback].map TypedName.text)) ≠ [callback].map TypedName.toParameter := by
  refine ⟨rfl, ?_, ?_⟩ <;> decide +kernel

end DeclIndex.TypeScript
