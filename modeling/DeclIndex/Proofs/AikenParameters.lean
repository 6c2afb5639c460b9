import DeclIndex.Aiken.Parameters
import DeclIndex.Proofs.LineBreaks
import DeclIndex.Proofs.ParameterLists
import DeclIndex.Proofs.Substrings

/-!
# Parameters of Aiken functions

Parameter lists as they are written: names with types of names, type arguments, functions and tuples in any nesting. A list is cut at
commas outside of brackets, but the arrow of a function type is taken for a closing angle bracket too. So a type can be cut behind an
arrow among its type arguments, and a list is read as it is written exactly if that happens to none of its types.
-/

namespace DeclIndex.Aiken
open DeclIndex.Text DeclIndex.Bracket

/-- Types. Lists of arguments, parameters and items may be empty. -/
inductive TypeExpr where
  | named (name : Identifier alphabet)
  | generic (name : Identifier alphabet) (arguments : List TypeExpr)
  | function (parameters : List TypeExpr) (result : TypeExpr)
  | tuple (items : List TypeExpr)

namespace TypeExpr

mutual

/-- How a type is written. -/
def text : TypeExpr → List Char
  | named name => name.letters
  | generic name arguments => name.letters ++ '<' :: (joined (texts arguments) ++ ['>'])
  | function parameters result => "fn".toList ++ '(' :: (joined (texts parameters) ++ [')']) ++ (" -> ".toList ++ result.text)
  | tuple items => '(' :: (joined (texts items) ++ [')'])

def texts : List TypeExpr → List (List Char)
  | [] => []
  | type :: more => type.text :: texts more

end

mutual

/-- How many function types stand in a type, itself included. -/
def arrows : TypeExpr → Nat
  | named _ => 0
  | generic _ arguments => arrowsIn arguments
  | function parameters result => arrowsIn parameters + (1 + result.arrows)
  | tuple items => arrowsIn items

def arrowsIn : List TypeExpr → Nat
  | [] => 0
  | type :: more => type.arrows + arrowsIn more

end

mutual

/-- Whether a type is not cut where so many angle brackets are open in front of it: each comma between type arguments has fewer arrows in
front of it than angle brackets are open there. Nothing is cut in parentheses. -/
def staysWhole (angle : Nat) : TypeExpr → Bool
  | named _ => true
  | generic _ arguments => stayWhole (angle + 1) arguments
  | function parameters result => result.staysWhole (angle - (arrowsIn parameters + 1))
  | tuple _ => true

def stayWhole (angle : Nat) : List TypeExpr → Bool
  | [] => true
  | [type] => type.staysWhole angle
  | type :: next :: more =>
    type.staysWhole angle && decide (type.arrows < angle) && stayWhole (angle - type.arrows) (next :: more)

end

theorem joined_texts (type next : TypeExpr) (more : List TypeExpr) :
    joined (texts (type :: next :: more)) = type.text ++ (", ".toList ++ joined (texts (next :: more))) :=
  joined_cons_cons type.text next.text (texts more)

theorem plain_name (name : Identifier alphabet) : Unmarked name.letters :=
  name.plain (by decide)

theorem nonblank_name (name : Identifier alphabet) : Nonblank name.letters :=
  name.nonblank (fun _ => isBlank_of_first) (fun _ => isBlank_of_later)

theorem bracketed_arrow : Bracketed 1 " -> ".toList :=
  ⟨fun _ => rfl, fun _ _ => rfl⟩

/-! ## Brackets -/

mutual

theorem bracketed_text : ∀ type : TypeExpr, Bracketed type.arrows type.text
  | named name => bracketed_of_plain (plain_name name)
  | generic name arguments => by
    have both := (bracketed_of_plain (plain_name name)).append (bracketed_texts arguments).angles
    rwa [Nat.zero_add] at both
  | function parameters result => by
    have keyword : Bracketed 0 "fn".toList := bracketed_of_plain (by decide)
    have all := (keyword.append (bracketed_texts parameters).parens).append (bracketed_arrow.append (bracketed_text result))
    rwa [Nat.zero_add] at all
  | tuple items => (bracketed_texts items).parens

theorem bracketed_texts : ∀ types : List TypeExpr, Bracketed (arrowsIn types) (joined (texts types))
  | [] => bracketed_of_plain (by decide)
  | [type] => by simpa [texts, arrowsIn] using bracketed_text type
  | type :: next :: more => by
    have all := (bracketed_text type).append (bracketed_separator.append (bracketed_texts (next :: more)))
    rw [Nat.zero_add] at all
    rwa [joined_texts]

end

mutual

/-- A type is cut nowhere exactly if it stays whole. -/
theorem cuts_text (angle : Nat) : ∀ type : TypeExpr, cuts ⟨0, angle⟩ type.text = 0 ↔ type.staysWhole angle
  | named name => by simp [text, staysWhole, cuts_of_plain (plain_name name)]
  | generic name arguments => by
    rw [text, cuts_append, cuts_of_plain (plain_name name), after_of_plain (plain_name name), Nat.zero_add, cuts_angles, staysWhole]
    exact cuts_texts (angle + 1) arguments
  | function parameters result => by
    -- only what stands behind the arrow can be cut, and there the arrows in front of it have closed their angle brackets
    have keyword : Unmarked "fn".toList := by decide
    have listed := bracketed_texts parameters
    rw [text, cuts_append, cuts_append, Nesting.after_append, after_of_plain keyword, cuts_of_plain keyword,
      listed.cuts_parens (Int.le_refl 0), listed.parens.after, cuts_append, bracketed_arrow.after, staysWhole]
    have arrow : cuts ⟨0, angle - arrowsIn parameters⟩ " -> ".toList = 0 := rfl
    rw [arrow, Nat.sub_sub, Nat.zero_add, Nat.zero_add]
    exact cuts_text (angle - (arrowsIn parameters + 1)) result
  | tuple items => by
    rw [text, (bracketed_texts items).cuts_parens (Int.le_refl 0)]
    simp [staysWhole]

theorem cuts_texts (angle : Nat) : ∀ types : List TypeExpr, cuts ⟨0, angle⟩ (joined (texts types)) = 0 ↔ stayWhole angle types
  | [] => by simp [texts, stayWhole, cuts]
  | [type] => by simpa [texts, stayWhole] using cuts_text angle type
  | type :: next :: more => by
    have here := cuts_text angle type
    have later := cuts_texts (angle - type.arrows) (next :: more)
    have comma : (if (⟨0, angle - type.arrows⟩ : Nesting).isOutside then 1 else 0) = 0 ↔ type.arrows < angle := by
      simp [Nesting.isOutside]
      omega
    rw [joined_texts, cuts_append, (bracketed_text type).after, cuts_comma_space, stayWhole, Bool.and_eq_true, Bool.and_eq_true,
      decide_eq_true_eq, ← here, ← later, ← comma]
    simp only [Nat.add_eq_zero_iff, and_assoc]

end

/-! ## Spaces -/

mutual

theorem singleSpaced_text : ∀ type : TypeExpr, SingleSpaced type.text ∧ type.text ≠ []
  | named name => ⟨singleSpaced_of_nonblank (nonblank_name name), name.ne_nil⟩
  | generic name arguments => by
    have listed : SingleSpaced ('<' :: (joined (texts arguments) ++ ['>'])) :=
      singleSpaced_enclosed (by decide) (singleSpaced_texts arguments)
    exact ⟨(singleSpaced_of_nonblank (nonblank_name name)).append listed, by simp [text]⟩
  | function parameters result => by
    have keyword : SingleSpaced "fn".toList := singleSpaced_of_nonblank (by decide)
    have listed : SingleSpaced ('(' :: (joined (texts parameters) ++ [')'])) :=
      singleSpaced_enclosed (by decide) (singleSpaced_texts parameters)
    have arrow : SingleSpaced ['-', '>'] := singleSpaced_of_nonblank (by decide)
    obtain ⟨spaced, written⟩ := singleSpaced_text result
    have all := (keyword.append listed).join (by simp) (arrow.join (by simp) spaced written) (by simp)
    exact ⟨by simpa [text] using all, by simp [text]⟩
  | tuple items => ⟨singleSpaced_enclosed (by decide) (singleSpaced_texts items), by simp [text]⟩

theorem singleSpaced_texts : ∀ types : List TypeExpr, ∀ text ∈ texts types, SingleSpaced text ∧ text ≠ []
  | [] => by simp [texts]
  | type :: more => List.forall_mem_cons.mpr ⟨singleSpaced_text type, singleSpaced_texts more⟩

end

/-! ## Options -/

/-- A text in which no option is written with parentheses. -/
def Optionless (text : List Char) : Prop :=
  ¬ "Option".toList ++ ['('] <:+: text

theorem Optionless.append_cons {front rest : List Char} {c : Char} (before : Optionless front) (behind : Optionless rest)
    (other : c ∉ "Option".toList ++ ['(']) : Optionless (front ++ c :: rest) :=
  fun inside => ((infix_append_cons_iff other front rest).mp inside).elim before behind

theorem Optionless.append_paren {rest : List Char} (front : List Char) (short : front.length < 6) (behind : Optionless rest) :
    Optionless (front ++ '(' :: rest) := by
  intro inside
  rcases infix_of_concat_infix (by decide) inside with before | ends | later
  · have := before.length_le
    simp at this
    omega
  · have := ends.length_le
    simp at this
    omega
  · exact behind later

theorem optionless_nil : Optionless [] := by
  simp [Optionless]

theorem optionless_name (name : Identifier alphabet) : Optionless name.letters := by
  intro inside
  have parenthesis : '(' ∈ name.letters := inside.subset (by decide)
  exact plain_name name '(' parenthesis (by decide)

mutual

theorem optionless_text : ∀ type : TypeExpr, Optionless type.text
  | named name => optionless_name name
  | generic name arguments =>
    (optionless_name name).append_cons ((optionless_texts arguments).append_cons optionless_nil (by decide)) (by decide)
  | function parameters result => by
    have behind : Optionless (" -> ".toList ++ result.text) :=
      optionless_nil.append_cons (optionless_nil.append_cons (optionless_nil.append_cons
        (optionless_nil.append_cons (optionless_text result) (by decide)) (by decide)) (by decide)) (by decide)
    have inner : Optionless (joined (texts parameters) ++ ')' :: (" -> ".toList ++ result.text)) :=
      (optionless_texts parameters).append_cons behind (by decide)
    have all := Optionless.append_paren "fn".toList (by decide) inner
    simpa [text] using all
  | tuple items => Optionless.append_paren [] (by decide) ((optionless_texts items).append_cons optionless_nil (by decide))

theorem optionless_texts : ∀ types : List TypeExpr, Optionless (joined (texts types))
  | [] => optionless_nil
  | [type] => by simpa [texts] using optionless_text type
  | type :: next :: more => by
    rw [joined_texts]
    exact (optionless_text type).append_cons (optionless_nil.append_cons (optionless_texts (next :: more)) (by decide)) (by decide)

end

end TypeExpr

/-! ## Parameters -/

/-- A parameter with its type, as it is written in the head of a function. -/
structure TypedName where
  name : Identifier alphabet
  type : TypeExpr

namespace TypedName

def text (parameter : TypedName) : List Char :=
  parameter.name.letters ++ (": ".toList ++ parameter.type.text)

/-- What is to be known of the parameter. -/
def toParameter (parameter : TypedName) : Parameter where
  name := String.ofList parameter.name.letters
  type := String.ofList parameter.type.text
  optional := false

variable (parameter : TypedName)

theorem singleSpaced_text : SingleSpaced parameter.text ∧ parameter.text ≠ [] := by
  have name := singleSpaced_of_nonblank (TypeExpr.nonblank_name parameter.name)
  have colon : SingleSpaced [':'] := singleSpaced_of_nonblank (by decide)
  obtain ⟨spaced, written⟩ := parameter.type.singleSpaced_text
  have all := (name.append colon).join (by simp) spaced written
  exact ⟨by simpa [text] using all, by simp [text]⟩

theorem closed_text : Closed parameter.text := by
  have colon : Bracketed 0 ": ".toList := bracketed_of_plain (by decide)
  exact ((bracketed_of_plain (TypeExpr.plain_name parameter.name)).append (colon.append parameter.type.bracketed_text)).closed

theorem cuts_text : cuts {} parameter.text = cuts {} parameter.type.text := by
  have colon : Unmarked ": ".toList := by decide
  have name := TypeExpr.plain_name parameter.name
  rw [text, cuts_append, cuts_append, cuts_of_plain name, after_of_plain name, cuts_of_plain colon, after_of_plain colon, Nat.zero_add,
    Nat.zero_add]

theorem count_text : parameter.text.count ',' = parameter.type.text.count ',' := by
  have name : ',' ∉ parameter.name.letters := fun member => TypeExpr.plain_name parameter.name ',' member (by decide)
  rw [text, List.count_append, List.count_append, List.count_eq_zero.mpr name, Nat.zero_add]
  exact Nat.zero_add _

theorem parameter?_text : parameter? parameter.text = some parameter.toParameter := by
  have named : alphabet.ident? parameter.text = some (parameter.name.letters, ": ".toList ++ parameter.type.text) :=
    Alphabet.ident?_append parameter.name.spelled (by intro c first; cases first; rfl)
  have type : trim (' ' :: parameter.type.text) = parameter.type.text := parameter.type.singleSpaced_text.1.toTidy.trim_eq
  have plain : occurs "Option(".toList parameter.type.text = false := by
    rw [← Bool.not_eq_true, occurs_iff]
    exact parameter.type.optionless_text
  have entry : parameterParts? parameter.text = some (parameter.name.letters, some parameter.type.text) := by
    rw [parameterParts?, named]
    exact congrArg (fun type => some (parameter.name.letters, some type)) type
  rw [parameter?, entry]
  exact congrArg (fun optional => some (Parameter.mk _ _ optional)) plain

end TypedName

theorem sublist_of_entry {entry name type : List Char} (read : parameterParts? entry = some (name, some type)) :
    type.Sublist entry := by
  obtain ⟨⟨name, rest⟩, found, read⟩ := Option.bind_eq_some_iff.mp read
  dsimp only at read
  have behind : (trimLeft rest).Sublist entry := by
    rw [← append_of_ident? found]
    exact (List.dropWhile_sublist _).trans (List.sublist_append_right _ _)
  split at read
  · cases read
  · next text colon =>
    obtain ⟨_, same⟩ := Option.ite_none_left_eq_some.mp read
    cases same
    rw [colon] at behind
    exact (trim_sublist text).trans ((List.sublist_cons_self _ _).trans behind)
  · cases read

theorem count_parameter? {entry : List Char} {parameter : Parameter} (read : parameter? entry = some parameter) :
    parameter.type.toList.count ',' ≤ entry.count ',' := by
  obtain ⟨⟨name, type⟩, found, same⟩ := Option.bind_eq_some_iff.mp read
  cases same
  cases type with
  | none =>
    have unknown : (String.ofList "Unknown".toList).toList.count ',' = 0 := by decide
    exact unknown ▸ Nat.zero_le _
  | some type => simpa using (sublist_of_entry found).count_le ','

theorem count_filterMap (entries : List (List Char)) :
    ((entries.filterMap parameter?).flatMap (·.type.toList)).count ',' ≤ entries.flatten.count ',' := by
  induction entries with
  | nil => exact Nat.le_refl _
  | cons entry more ih =>
    rw [List.flatten_cons, List.count_append]
    cases read : parameter? entry with
    | none =>
      rw [List.filterMap_cons_none read]
      omega
    | some parameter =>
      have := count_parameter? read
      rw [List.filterMap_cons_some read, List.flatMap_cons, List.count_append]
      omega

theorem count_types (listed : List TypedName) :
    ((listed.map TypedName.toParameter).flatMap (·.type.toList)).count ',' = (listed.map TypedName.text).flatten.count ',' := by
  induction listed with
  | nil => rfl
  | cons parameter more ih =>
    rw [List.map_cons, List.map_cons, List.flatMap_cons, List.flatten_cons, List.count_append, List.count_append, ih, parameter.count_text]
    simp [TypedName.toParameter]

/-- The parameters of a list are read as they are written exactly if every type stays whole: the arrow of a function type closes an angle
bracket, and a comma that then stands outside of all brackets cuts the type. -/
theorem parameters_eq_iff_staysWhole (listed : List TypedName) :
    parameters (joined (listed.map TypedName.text)) = listed.map TypedName.toParameter ↔
      ∀ parameter ∈ listed, parameter.type.staysWhole 0 := by
  have spaced : SingleSpaced (joined (listed.map TypedName.text)) :=
    singleSpaced_joined (List.forall_mem_map.mpr fun parameter _ => parameter.singleSpaced_text)
  have closed : ∀ entry ∈ listed.map TypedName.text, Closed entry :=
    List.forall_mem_map.mpr fun parameter _ => parameter.closed_text
  rw [parameters, spaced.normalize_eq]
  constructor
  · intro recovered parameter member
    have kept : (listed.map TypedName.text).flatten.count ',' ≤
        (splitParameters (joined (listed.map TypedName.text))).flatten.count ',' := by
      calc (listed.map TypedName.text).flatten.count ','
        _ = ((listed.map TypedName.toParameter).flatMap (·.type.toList)).count ',' := (count_types listed).symm
        _ ≤ _ := recovered ▸ count_filterMap _
    have uncut := cuts_eq_zero_of_count closed kept parameter.text (List.mem_map_of_mem member)
    rw [parameter.cuts_text] at uncut
    exact (parameter.type.cuts_text 0).mp uncut
  · intro whole
    have uncut : ∀ entry ∈ listed.map TypedName.text, cuts {} entry = 0 := by
      refine List.forall_mem_map.mpr fun parameter member => ?_
      rw [parameter.cuts_text]
      exact (parameter.type.cuts_text 0).mpr (whole parameter member)
    have tidy : ∀ entry ∈ listed.map TypedName.text, Tidy entry ∧ entry ≠ [] :=
      List.forall_mem_map.mpr fun parameter _ => ⟨parameter.singleSpaced_text.1.toTidy, parameter.singleSpaced_text.2⟩
    rw [splitParameters_joined closed uncut tidy, List.filterMap_map, List.filterMap_congr fun parameter _ => parameter.parameter?_text,
      List.filterMap_eq_map']

/-- Where two angle brackets are open, one arrow does no harm. -/
example :
    let int : TypeExpr := .named ⟨"Int".toList, by decide⟩
    (TypeExpr.generic ⟨"List".toList, by decide⟩ [.generic ⟨"Pair".toList, by decide⟩ [.function [int] int, int]]).staysWhole 0 = true :=
  rfl

/-- A function type in front of another type argument: its arrow closes the angle bracket, and the comma behind it cuts the type. -/
theorem parameters_cut_functionArgument :
    let int : TypeExpr := .named ⟨"Int".toList, by decide⟩
    let bool : TypeExpr := .named ⟨"Bool".toList, by decide⟩
    let pair : TypedName := ⟨⟨"pair".toList, by decide⟩, .generic ⟨"Pair".toList, by decide⟩ [.function [int] int, bool]⟩
    pair.text = "pair: Pair<fn(Int) -> Int, Bool>".toList ∧
      parameters (joined ([pair].map TypedName.text)) = [⟨"pair", "Pair<fn(Int) -> Int", false⟩] ∧
      parameters (joined ([pair].map TypedName.text)) ≠ [pair].map TypedName.toParameter := by
  refine ⟨rfl, ?_, ?_⟩ <;> decide +kernel

end DeclIndex.Aiken
