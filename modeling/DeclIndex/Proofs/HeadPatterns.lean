import DeclIndex.Proofs.AikenHeads
import Mathlib.Computability.Language

/-!
# The patterns of Aiken heads

The patterns of the four kinds of heads, as languages that say nothing of how a line is read, and that every head that is read
matches the pattern of its kind. What a pattern captures is a parameter of its language.
-/

namespace DeclIndex
open scoped Computability

/-- A set of texts. -/
abbrev TextPattern := Language Char

namespace Text

/-! ## Pieces of patterns -/

/-- Blanks, or none. -/
def Blanks : TextPattern := {text | ∀ c ∈ text, isBlank c}
/-- One blank or more. -/
def Gap : TextPattern := Blanks - 1
/-- One word alone. -/
def Word (word : String) : TextPattern := {word.toList}
/-- A text without `stop`. -/
def Without (stop : Char) : TextPattern := {text | stop ∉ text}
/-- Anything at all. -/
def Anything : TextPattern := {_text | True}
/-- Something besides line feeds. -/
def Something : TextPattern := {text | ∃ c ∈ text, c ≠ '\n'}
/-- An optional word and the blanks after it, which is there or not. -/
def Mark (word : String) : Bool → TextPattern
  | true => Word word * Gap
  | false => 1
/-- The one word `text` of a language. -/
def Captured (pattern : TextPattern) (text : List Char) : TextPattern := {other | other = text ∧ text ∈ pattern}
/-- The identifiers of an alphabet. -/
def Alphabet.Names (alphabet : Alphabet) : TextPattern := {name | alphabet.Spells name}

/-! ## What the readers leave

Each lemma says what a text is, given a language that holds what a reader leaves of it.
-/

section Readers

variable {text rest : List Char} {behind : TextPattern}

theorem append_of_dropFront? {front : List Char} (read : dropFront? front text = some rest) : front ++ rest = text := by
  fun_induction dropFront? front text with
  | case1 => cases read; rfl
  | case2 f front text ih => rw [List.cons_append, ih read]
  | case3 => cases read
  | case4 => cases read

theorem mem_of_trimLeft (left : trimLeft text ∈ behind) : text ∈ Blanks * behind := by
  refine Language.mem_mul.mpr ⟨text.takeWhile isBlank, ?_, trimLeft text, left, List.takeWhile_append_dropWhile⟩
  intro c member
  exact List.mem_takeWhile_imp member

theorem mem_of_dropBlanks? (read : dropBlanks? text = some rest) (left : rest ∈ behind) : text ∈ Gap * behind := by
  cases text with
  | nil => cases read
  | cons c more =>
    rw [dropBlanks?] at read
    split at read
    · next blank =>
      cases read
      obtain ⟨blanks, allBlank, others, inOthers, rfl⟩ := Language.mem_mul.mp (mem_of_trimLeft left)
      refine Language.mem_mul.mpr ⟨c :: blanks, ⟨?_, List.cons_ne_nil c blanks⟩, others, inOthers, rfl⟩
      exact List.forall_mem_cons.mpr ⟨blank, allBlank⟩
    · cases read

theorem mem_of_dropKeyword? {word : String} (read : dropKeyword? word text = some rest) (left : rest ∈ behind) :
    text ∈ Word word * (Gap * behind) := by
  obtain ⟨between, dropped, spaced⟩ := Option.bind_eq_some_iff.mp read
  rw [← append_of_dropFront? dropped]
  exact Language.append_mem_mul rfl (mem_of_dropBlanks? spaced left)

theorem mem_of_takeKeyword (word : String) (left : (takeKeyword word text).2 ∈ behind) :
    text ∈ Mark word (takeKeyword word text).1 * behind := by
  unfold takeKeyword at *
  cases read : dropKeyword? word text with
  | some rest =>
    rw [read] at left
    rw [Mark, mul_assoc]
    exact mem_of_dropKeyword? read left
  | none =>
    rw [read] at left
    rwa [Mark, one_mul]

theorem append_of_ident? {alphabet : Alphabet} {name : List Char} (read : alphabet.ident? text = some (name, rest)) :
    name ++ rest = text := by
  cases text with
  | nil => cases read
  | cons c more =>
    simp only [Alphabet.ident?] at read
    split at read
    · cases read
      rw [List.cons_append, List.takeWhile_append_dropWhile]
    · cases read

theorem mem_of_ident? {alphabet : Alphabet} {name : List Char} (read : alphabet.ident? text = some (name, rest))
    (left : rest ∈ behind) : text ∈ Captured alphabet.Names name * behind := by
  rw [← append_of_ident? read]
  exact Language.append_mem_mul ⟨rfl, Alphabet.spells_ident? read⟩ left

theorem append_of_takeTo? {stop : Char} {inner : List Char} (read : takeTo? stop text = some (inner, rest)) :
    stop ∉ inner ∧ inner ++ stop :: rest = text := by
  unfold takeTo? at read
  split at read
  · next c others found =>
    cases read
    have stopped : c = stop := by
      have first := List.head?_dropWhile_not (· != stop) text
      rw [found] at first
      simpa using first
    subst stopped
    refine ⟨fun member => ?_, ?_⟩
    · simpa using List.mem_takeWhile_imp member
    · rw [← found, List.takeWhile_append_dropWhile]
  · cases read

end Readers

end Text

namespace Aiken
open DeclIndex.Text

/-! ## Patterns -/

/-- The path of a module. -/
def ModulePath : TextPattern := alphabet.Names * (Word "/" * alphabet.Names)∗ * (Word "." * alphabet.Names)∗

/-- The names that an import picks, if it does. -/
def Picked : TextPattern := 1 + Word ".\x7b" * ((Without '}' - 1) * Word "\x7d")
/-- The new name that an import gives, if it does. -/
def Renamed : TextPattern := 1 + Word "as" * (Gap * alphabet.Names)
/-- The lines that import a module. -/
def ImportLine (module : List Char) : TextPattern :=
  Word "use" * (Gap * (Captured ModulePath module * (Blanks * (Picked * (Blanks * (Renamed * Blanks))))))

/-- The lines that begin a function. -/
def FunctionLine (isPublic : Bool) (name : List Char) : TextPattern :=
  Mark "pub" isPublic * (Word "fn" * (Gap * (Captured alphabet.Names name * (Blanks * (Word "(" * Anything)))))

/-- The lines that begin a type. -/
def TypeLine (isPublic isOpaque : Bool) (name : List Char) : TextPattern :=
  Mark "pub" isPublic * (Mark "opaque" isOpaque * (Word "type" * (Gap *
    (Captured (alphabet.Names * (1 + Word "<" * (Without '>' * Word ">"))) name *
      (Blanks * (1 + (Word "=" + Word "\x7b") * Anything))))))

/-- The lines that begin a constant. -/
def ConstantLine (isPublic : Bool) (name : List Char) : TextPattern :=
  Mark "pub" isPublic * (Word "const" * (Gap * (Captured alphabet.Names name * (Blanks *
    ((1 + Word ":" * (Without '=' - 1)) * (Word "=" * Something))))))

/-! ## Functions, types and constants -/

theorem mem_functionLine {line : List Char} {head : FunctionHead} (read : functionHead? line = some head) :
    line ∈ FunctionLine head.isPublic head.name := by
  obtain ⟨rest, dropped, read⟩ := Option.bind_eq_some_iff.mp read
  obtain ⟨name, called, read⟩ := Option.bind_eq_some_iff.mp read
  obtain ⟨⟨spelled, left⟩, found, called⟩ := Option.bind_eq_some_iff.mp called
  cases read
  dsimp only at called
  split at called
  · next opened =>
    cases called
    refine mem_of_takeKeyword "pub" (mem_of_dropKeyword? dropped (mem_of_ident? found (mem_of_trimLeft ?_)))
    rw [opened]
    exact Language.append_mem_mul (a := ['(']) rfl trivial
  · cases called

theorem generics_split (text : List Char) :
    (generics text).1 ∈ 1 + Word "<" * (Without '>' * Word ">") ∧ (generics text).1 ++ (generics text).2 = text := by
  unfold generics
  split
  · next rest =>
    cases read : takeTo? '>' rest with
    | some pair =>
      obtain ⟨inner, left⟩ := pair
      obtain ⟨free, rfl⟩ := append_of_takeTo? read
      refine ⟨Or.inr (Language.append_mem_mul (a := ['<']) rfl (Language.append_mem_mul free rfl)), ?_⟩
      simp
    | none => exact ⟨Or.inl rfl, rfl⟩
  · exact ⟨Or.inl rfl, rfl⟩

theorem mem_of_typeBody? {text body : List Char} (read : typeBody? text = some body) :
    trimLeft text ∈ 1 + (Word "=" + Word "\x7b") * Anything := by
  unfold typeBody? at read
  split at read
  · next nothing =>
    rw [nothing]
    exact Or.inl rfl
  · next c rest found =>
    rw [found]
    split at read
    · next opens =>
      refine Or.inr (Language.append_mem_mul (a := [c]) ?_ trivial)
      rw [Bool.or_eq_true, decide_eq_true_eq, decide_eq_true_eq] at opens
      rcases opens with rfl | rfl
      · exact Or.inl rfl
      · exact Or.inr rfl
    · cases read

theorem mem_typeLine {line : List Char} {head : TypeHead} (read : typeHead? line = some head) :
    line ∈ TypeLine head.isPublic head.isOpaque head.name := by
  obtain ⟨rest, dropped, read⟩ := Option.bind_eq_some_iff.mp read
  obtain ⟨⟨name, left⟩, found, read⟩ := Option.bind_eq_some_iff.mp read
  obtain ⟨body, bodied, read⟩ := Option.bind_eq_some_iff.mp read
  cases read
  obtain ⟨bracketed, split⟩ := generics_split left
  have named : name ++ (generics left).1 ++ (generics left).2 = rest := by
    rw [List.append_assoc, split, append_of_ident? found]
  refine mem_of_takeKeyword "pub" (mem_of_takeKeyword "opaque" (mem_of_dropKeyword? dropped ?_))
  rw [← named]
  refine Language.append_mem_mul ⟨rfl, ?_⟩ (mem_of_trimLeft (mem_of_typeBody? bodied))
  exact Language.append_mem_mul (Alphabet.spells_ident? found) bracketed

theorem mem_of_valueAfter? {text value : List Char} (read : valueAfter? text = some value) : text ∈ Something := by
  unfold valueAfter? at read
  split at read
  · split at read
    · next other =>
      obtain ⟨c, member, visible⟩ := List.any_eq_true.mp other
      exact ⟨c, member, by simpa using visible⟩
    · cases read
  · next found =>
    -- the first character that is not blank is no line feed
    obtain ⟨c, more, first⟩ := List.exists_cons_of_ne_nil found
    have visible : isBlank c = false := by
      have stopped := List.head?_dropWhile_not isBlank text
      rw [← trimLeft, first] at stopped
      simpa using stopped
    have member : c ∈ trimLeft text := by
      rw [first]
      exact List.mem_cons_self
    refine ⟨c, List.dropWhile_subset isBlank member, ?_⟩
    rintro rfl
    exact absurd visible (by decide)

theorem mem_constantLine {line : List Char} {head : ConstantHead} (read : constantHead? line = some head) :
    line ∈ ConstantLine head.isPublic head.name := by
  obtain ⟨rest, dropped, read⟩ := Option.bind_eq_some_iff.mp read
  obtain ⟨⟨name, left⟩, found, read⟩ := Option.bind_eq_some_iff.mp read
  dsimp only at read
  split at read
  · next right valued =>
    obtain ⟨value, given, read⟩ := Option.bind_eq_some_iff.mp read
    cases read
    refine mem_of_takeKeyword "pub" (mem_of_dropKeyword? dropped (mem_of_ident? found (mem_of_trimLeft ?_)))
    rw [valued]
    exact Language.append_mem_mul (a := []) (Or.inl rfl)
      (Language.append_mem_mul (a := ['=']) rfl (mem_of_valueAfter? given))
  · next typed colon =>
    obtain ⟨⟨type, right⟩, cut, read⟩ := Option.bind_eq_some_iff.mp read
    dsimp only at read
    split at read
    · cases read
    · next nonempty =>
      obtain ⟨value, given, read⟩ := Option.bind_eq_some_iff.mp read
      cases read
      obtain ⟨free, rfl⟩ := append_of_takeTo? cut
      refine mem_of_takeKeyword "pub" (mem_of_dropKeyword? dropped (mem_of_ident? found (mem_of_trimLeft ?_)))
      rw [colon]
      refine Language.append_mem_mul (a := ':' :: type) (Or.inr ?_)
        (Language.append_mem_mul (a := ['=']) rfl (mem_of_valueAfter? given))
      exact Language.append_mem_mul (a := [':']) rfl ⟨free, fun empty => nonempty (List.isEmpty_iff.mpr empty)⟩
  · cases read

/-! ## Imports -/

theorem moreParts_split (separator : Char) (fuel : Nat) (text : List Char) :
    (moreParts separator fuel text).1 ∈ (({[separator]} : TextPattern) * alphabet.Names)∗ ∧
      (moreParts separator fuel text).1 ++ (moreParts separator fuel text).2 = text := by
  fun_induction moreParts separator fuel text with
  | case1 fuel rest name left found parts beyond more ih =>
    rw [more] at ih
    obtain ⟨⟨words, flat, legal⟩, split⟩ := ih
    have part : separator :: name ∈ ({[separator]} : TextPattern) * alphabet.Names :=
      Language.append_mem_mul (a := [separator]) rfl (Alphabet.spells_ident? found)
    refine ⟨⟨(separator :: name) :: words, ?_, List.forall_mem_cons.mpr ⟨part, legal⟩⟩, ?_⟩
    · rw [List.flatten_cons, ← flat]
    · rw [List.cons_append, List.cons_append, List.append_assoc, split, append_of_ident? found]
  | case2 => exact ⟨Language.nil_mem_kstar _, rfl⟩
  | case3 => exact ⟨Language.nil_mem_kstar _, rfl⟩
  | case4 => exact ⟨Language.nil_mem_kstar _, rfl⟩

theorem modulePath?_split {text path rest : List Char} (read : modulePath? text = some (path, rest)) :
    path ∈ ModulePath ∧ path ++ rest = text := by
  obtain ⟨⟨first, left⟩, found, read⟩ := Option.bind_eq_some_iff.mp read
  cases read
  obtain ⟨inFolders, foldersSplit⟩ := moreParts_split '/' left.length left
  obtain ⟨inMembers, membersSplit⟩ :=
    moreParts_split '.' (moreParts '/' left.length left).2.length (moreParts '/' left.length left).2
  constructor
  · exact Language.append_mem_mul (Language.append_mem_mul (Alphabet.spells_ident? found) inFolders) inMembers
  · rw [List.append_assoc, membersSplit, List.append_assoc, foldersSplit, append_of_ident? found]

theorem mem_of_useRename? {text : List Char} {renamed : Option (List Char)} (read : useRename? text = some renamed) :
    text ∈ Blanks * (Renamed * Blanks) := by
  refine mem_of_trimLeft ?_
  unfold useRename? at read
  split at read
  · next nothing =>
    rw [nothing]
    exact Language.append_mem_mul (a := []) (Or.inl rfl) (List.forall_mem_nil _)
  · obtain ⟨behind, dropped, read⟩ := Option.bind_eq_some_iff.mp read
    obtain ⟨⟨name, left⟩, found, read⟩ := Option.bind_eq_some_iff.mp read
    dsimp only at read
    split at read
    · next blank =>
      rw [Renamed, add_mul, mul_assoc, mul_assoc]
      refine Or.inr (mem_of_dropKeyword? dropped ?_)
      rw [← append_of_ident? found]
      exact Language.append_mem_mul (Alphabet.spells_ident? found) (List.all_eq_true.mp blank)
    · cases read

theorem mem_of_useEnd? {text : List Char} {items renamed : Option (List Char)} (read : useEnd? text = some (items, renamed)) :
    text ∈ Blanks * (Picked * (Blanks * (Renamed * Blanks))) := by
  unfold useEnd? at read
  split at read
  · next list opened =>
    obtain ⟨⟨inner, rest⟩, closed, read⟩ := Option.bind_eq_some_iff.mp read
    dsimp only at read
    split at read
    · cases read
    · next nonempty =>
      obtain ⟨name, readOn, read⟩ := Option.bind_eq_some_iff.mp read
      obtain ⟨free, rfl⟩ := append_of_takeTo? closed
      refine mem_of_trimLeft ?_
      rw [← append_of_dropFront? opened, Picked, add_mul, mul_assoc, mul_assoc]
      refine Or.inr (Language.append_mem_mul rfl (Language.append_mem_mul ⟨free, ?_⟩ ?_))
      · exact fun empty => nonempty (List.isEmpty_iff.mpr empty)
      · exact Language.append_mem_mul (a := ['}']) rfl (mem_of_useRename? readOn)
  · obtain ⟨name, readOn, _⟩ := Option.map_eq_some_iff.mp read
    exact Language.append_mem_mul (a := []) (List.forall_mem_nil _)
      (Language.append_mem_mul (a := []) (Or.inl rfl) (mem_of_useRename? readOn))

/-- The last letter of a word may be left out, if the letter before it can end a name. -/
def Shortens (language : TextPattern) : Prop :=
  ∀ front c d, front ++ [c, d] ∈ language → alphabet.later c → front ++ [c] ∈ language

theorem shortens_names : Shortens alphabet.Names := by
  rintro front c d ⟨first, rest, split, isFirst, areLater⟩ later
  cases front with
  | nil =>
    cases split
    exact ⟨c, [], rfl, isFirst, List.forall_mem_nil _⟩
  | cons e more =>
    rw [List.cons_append] at split
    obtain ⟨rfl, rfl⟩ := List.cons.inj split
    refine ⟨e, more ++ [c], rfl, isFirst, fun other member => areLater other ?_⟩
    rw [List.append_cons]
    exact List.mem_append_left [d] member

theorem shortens_part {separator : Char} (divides : alphabet.later separator = false) :
    Shortens ({[separator]} * alphabet.Names) := by
  intro front c d member later
  obtain ⟨_, rfl, name, spelled, split⟩ := Language.mem_mul.mp member
  cases front with
  | nil =>
    -- the letter that stays would be the separator
    cases split
    rw [divides] at later
    cases later
  | cons e more =>
    obtain ⟨rfl, rfl⟩ := List.cons.inj split
    exact Language.append_mem_mul (a := [separator]) rfl (shortens_names more c d spelled later)

theorem exists_lastTwo {word : List Char} (long : 2 ≤ word.length) : ∃ body c d, word = body ++ [c, d] := by
  rcases List.eq_nil_or_concat word with rfl | ⟨most, d, rfl⟩
  · simp at long
  · rcases List.eq_nil_or_concat most with rfl | ⟨body, c, rfl⟩
    · simp at long
    · exact ⟨body, c, d, by simp⟩

theorem Shortens.mul_kstar {first part : TextPattern} (shortens : Shortens first) (shortensPart : Shortens part)
    (long : ∀ word ∈ part, 2 ≤ word.length) : Shortens (first * part∗) := by
  intro front c d member later
  obtain ⟨head, inFirst, _, ⟨words, rfl, legal⟩, split⟩ := Language.mem_mul.mp member
  -- the two letters are those of the last word of the star, or of `first` if there is none
  rcases List.eq_nil_or_concat words with rfl | ⟨init, last, rfl⟩
  · rw [List.flatten_nil, List.append_nil] at split
    subst split
    have shorter := Language.append_mem_mul (shortens front c d inFirst later) (Language.nil_mem_kstar part)
    rwa [List.append_nil] at shorter
  · rw [List.concat_eq_append] at split legal
    obtain ⟨legalInit, inPart⟩ := List.forall_mem_append.mp legal
    obtain ⟨body, e, f, rfl⟩ := exists_lastTwo (long last (inPart last List.mem_cons_self))
    rw [List.flatten_append, List.flatten_singleton, ← List.append_assoc, ← List.append_assoc] at split
    obtain ⟨rfl, same⟩ := List.append_inj' split rfl
    cases same
    rw [List.append_assoc, List.append_assoc]
    refine Language.append_mem_mul inFirst ⟨init ++ [body ++ [c]], ?_, ?_⟩
    · rw [List.flatten_append, List.flatten_singleton]
    · refine List.forall_mem_append.mpr ⟨legalInit, List.forall_mem_singleton.mpr ?_⟩
      exact shortensPart body c d (inPart _ List.mem_cons_self) later

theorem two_le_length_part {separator : Char} {word : List Char}
    (member : word ∈ ({[separator]} : TextPattern) * alphabet.Names) : 2 ≤ word.length := by
  obtain ⟨_, rfl, _, ⟨first, rest, rfl, _⟩, rfl⟩ := Language.mem_mul.mp member
  simp

theorem shortens_modulePath : Shortens ModulePath := by
  have folders : Shortens (alphabet.Names * ({['/']} * alphabet.Names)∗) :=
    shortens_names.mul_kstar (shortens_part (by decide)) fun _ => two_le_length_part
  exact folders.mul_kstar (shortens_part (by decide)) fun _ => two_le_length_part

theorem cutAs?_split {path shorter : List Char} (cut : cutAs? path = some shorter) (inPath : path ∈ ModulePath) :
    shorter ∈ ModulePath ∧ shorter ++ ['a', 's'] = path := by
  unfold cutAs? at cut
  split at cut
  · next c rest backwards =>
    split at cut
    · next later =>
      cases cut
      have split : rest.reverse ++ [c] ++ ['a', 's'] = path := by
        rw [← List.reverse_reverse path, backwards]
        simp
      rw [List.reverse_cons]
      refine ⟨?_, split⟩
      rw [← split, List.append_assoc] at inPath
      have withoutS := shortens_modulePath (rest.reverse ++ [c]) 'a' 's' (by rw [List.append_assoc]; exact inPath) (by decide)
      rw [List.append_assoc] at withoutS
      exact shortens_modulePath rest.reverse c 'a' withoutS later
    · cases cut
  · cases cut

theorem mem_importLine {line : List Char} {head : UseHead} (read : useHead? line = some head) :
    line ∈ ImportLine head.module := by
  obtain ⟨rest, dropped, readPath⟩ := Option.bind_eq_some_iff.mp read
  obtain ⟨⟨path, left⟩, found, readEnd⟩ := Option.bind_eq_some_iff.mp readPath
  obtain ⟨inPath, rfl⟩ := modulePath?_split found
  refine mem_of_dropKeyword? dropped ?_
  dsimp only at readEnd
  split at readEnd
  · next ended =>
    cases readEnd
    exact Language.append_mem_mul ⟨rfl, inPath⟩ (mem_of_useEnd? ended)
  · obtain ⟨shorter, cut, readShorter⟩ := Option.bind_eq_some_iff.mp readEnd
    obtain ⟨⟨items, renamed⟩, ended, same⟩ := Option.bind_eq_some_iff.mp readShorter
    cases same
    obtain ⟨inShorter, rfl⟩ := cutAs?_split cut inPath
    rw [List.append_assoc]
    exact Language.append_mem_mul ⟨rfl, inShorter⟩ (mem_of_useEnd? ended)

/-! ## The word `pub` -/

/-- The lines that begin with the word `pub`. -/
def PublicLine : TextPattern := Word "pub" * (Gap * Anything)

theorem head?_of_mem_word {word : String} {c : Char} {front line : List Char} {behind : TextPattern}
    (spelled : word.toList = c :: front) (member : line ∈ Word word * behind) : line.head? = some c := by
  obtain ⟨_, rfl, rest, _, rfl⟩ := Language.mem_mul.mp member
  rw [spelled, List.cons_append, List.head?_cons]

theorem isPublic_iff_of_mark {isPublic : Bool} {line : List Char} {behind : TextPattern}
    (member : line ∈ Mark "pub" isPublic * behind) (other : ∀ text ∈ behind, text.head? ≠ some 'p') :
    isPublic = true ↔ line ∈ PublicLine := by
  cases isPublic with
  | true =>
    refine iff_of_true rfl ?_
    rw [Mark, mul_assoc] at member
    obtain ⟨word, isWord, rest, inRest, rfl⟩ := Language.mem_mul.mp member
    obtain ⟨gap, inGap, more, _, rfl⟩ := Language.mem_mul.mp inRest
    exact Language.append_mem_mul isWord (Language.append_mem_mul inGap trivial)
  | false =>
    rw [Mark, one_mul] at member
    exact iff_of_false Bool.false_ne_true fun marked => other line member (head?_of_mem_word rfl marked)

theorem isPublic_iff_of_functionLine {isPublic : Bool} {line name : List Char} (member : line ∈ FunctionLine isPublic name) :
    isPublic = true ↔ line ∈ PublicLine := by
  refine isPublic_iff_of_mark member fun text inside => ?_
  rw [head?_of_mem_word rfl inside]
  decide

theorem isPublic_iff_of_constantLine {isPublic : Bool} {line name : List Char} (member : line ∈ ConstantLine isPublic name) :
    isPublic = true ↔ line ∈ PublicLine := by
  refine isPublic_iff_of_mark member fun text inside => ?_
  rw [head?_of_mem_word rfl inside]
  decide

theorem isPublic_iff_of_typeLine {isPublic isOpaque : Bool} {line name : List Char}
    (member : line ∈ TypeLine isPublic isOpaque name) : isPublic = true ↔ line ∈ PublicLine := by
  refine isPublic_iff_of_mark member fun text inside => ?_
  cases isOpaque with
  | true =>
    rw [Mark, mul_assoc] at inside
    rw [head?_of_mem_word rfl inside]
    decide
  | false =>
    rw [Mark, one_mul] at inside
    rw [head?_of_mem_word rfl inside]
    decide

end Aiken
end DeclIndex
