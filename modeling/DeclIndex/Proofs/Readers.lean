import DeclIndex.Proofs.HeadPatterns

/-!
# Reading what a pattern describes

The readers of heads on texts that are put together from the pieces they look for: each takes its piece and leaves the rest. A
rest that begins with a blank, or with a letter that could go on an identifier, is not told apart from the piece before it, so the
lemmas ask how it begins.
-/

namespace DeclIndex.Text

theorem isBlank_of_isAlphanum {c : Char} (letter : c.isAlphanum) : isBlank c = false := by
  unfold Char.isAlphanum Char.isAlpha Char.isUpper Char.isLower Char.isDigit at letter
  simp only [Bool.or_eq_true, Bool.and_eq_true, decide_eq_true_eq, UInt32.le_iff_toNat_le, ge_iff_le] at letter
  change ((65 ≤ c.toNat ∧ c.toNat ≤ 90) ∨ (97 ≤ c.toNat ∧ c.toNat ≤ 122)) ∨ (48 ≤ c.toNat ∧ c.toNat ≤ 57) at letter
  simp only [isBlank, Bool.or_eq_false_iff, Bool.and_eq_false_iff, decide_eq_false_iff_not, beq_eq_false_iff_ne]
  omega

instance (alphabet : Alphabet) (name : List Char) : Decidable (alphabet.Spells name) :=
  match name with
  | [] => isFalse (by rintro ⟨c, rest, empty, _⟩; cases empty)
  | c :: rest => decidable_of_iff (alphabet.first c ∧ rest.all alphabet.later)
    ⟨fun ⟨first, later⟩ => ⟨c, rest, rfl, first, List.all_eq_true.mp later⟩,
      fun ⟨_, _, split, first, later⟩ => by cases split; exact ⟨first, List.all_eq_true.mpr later⟩⟩

/-- A text without blanks. -/
def Nonblank (text : List Char) : Prop :=
  ∀ c ∈ text, isBlank c = false

instance (text : List Char) : Decidable (Nonblank text) :=
  List.decidableBAll (isBlank · = false) text

/-- A text that does not begin with a blank. -/
def Visible (text : List Char) : Prop :=
  ∀ c ∈ text.head?, isBlank c = false

theorem space_mem_gap : [' '] ∈ Gap :=
  ⟨by simp [Blanks]; decide, List.cons_ne_nil ' ' []⟩

section Append

variable {text rest : List Char}

theorem dropFront?_append (front rest : List Char) : dropFront? front (front ++ rest) = some rest := by
  induction front with
  | nil => cases rest <;> rfl
  | cons c front ih => rw [List.cons_append, dropFront?, if_pos rfl, ih]

theorem trimLeft_of_visible (visible : Visible text) : trimLeft text = text := by
  cases text with
  | nil => rfl
  | cons c more => rw [trimLeft, List.dropWhile_cons_of_neg (by simp [visible c rfl])]

theorem trimLeft_blanks_append {blanks : List Char} (blank : blanks ∈ Blanks) (visible : Visible rest) :
    trimLeft (blanks ++ rest) = rest := by
  rw [trimLeft, List.dropWhile_append_of_pos blank]
  exact trimLeft_of_visible visible

theorem dropBlanks?_eq_some {left : List Char} (read : dropBlanks? text = some left) :
    (∃ c more, text = c :: more ∧ isBlank c) ∧ left = trimLeft text := by
  cases text with
  | nil => cases read
  | cons c more =>
    obtain ⟨blank, same⟩ := Option.ite_none_right_eq_some.mp read
    refine ⟨⟨c, more, rfl, blank⟩, ?_⟩
    rw [trimLeft, List.dropWhile_cons_of_pos blank]
    exact (Option.some.inj same).symm

theorem dropBlanks?_append {gap : List Char} (inGap : gap ∈ Gap) (visible : Visible rest) :
    dropBlanks? (gap ++ rest) = some rest := by
  obtain ⟨blank, nonempty⟩ := inGap
  cases gap with
  | nil => exact absurd rfl nonempty
  | cons c more =>
    obtain ⟨blankFirst, blankMore⟩ := List.forall_mem_cons.mp blank
    rw [List.cons_append, dropBlanks?, if_pos blankFirst, trimLeft_blanks_append blankMore visible]

theorem dropKeyword?_append (word : String) {gap : List Char} (inGap : gap ∈ Gap) (visible : Visible rest) :
    dropKeyword? word (word.toList ++ (gap ++ rest)) = some rest := by
  rw [dropKeyword?, dropFront?_append, Option.bind_some, dropBlanks?_append inGap visible]

theorem dropKeyword?_of_head? {word : String} {c : Char} {front : List Char} (spelled : word.toList = c :: front)
    (other : text.head? ≠ some c) : dropKeyword? word text = none := by
  refine Option.eq_none_iff_forall_ne_some.mpr fun rest read => other ?_
  exact head?_of_dropKeyword? spelled read

/-- A text that does not go on an identifier before it. -/
def Alphabet.Stops (alphabet : Alphabet) (text : List Char) : Prop :=
  ∀ c ∈ text.head?, alphabet.later c = false

/-- An identifier is read up to the last letter that can go on it. -/
theorem Alphabet.ident?_spelled {alphabet : Alphabet} {name : List Char} (spelled : alphabet.Spells name) (left : List Char) :
    alphabet.ident? (name ++ left) = some (name ++ left.takeWhile alphabet.later, left.dropWhile alphabet.later) := by
  obtain ⟨first, others, rfl, isFirst, areLater⟩ := spelled
  rw [List.cons_append, ident?, if_pos isFirst, List.takeWhile_append_of_pos areLater, List.dropWhile_append_of_pos areLater,
    List.cons_append]

theorem Alphabet.takeWhile_eq_nil_iff {alphabet : Alphabet} : text.takeWhile alphabet.later = [] ↔ alphabet.Stops text := by
  cases text with
  | nil => simp [Stops]
  | cons c more => simp [Stops, List.takeWhile_cons]

theorem Alphabet.ident?_append {alphabet : Alphabet} {name : List Char} (spelled : alphabet.Spells name)
    (stops : alphabet.Stops rest) : alphabet.ident? (name ++ rest) = some (name, rest) := by
  have nothing := Alphabet.takeWhile_eq_nil_iff.mpr stops
  have all := List.takeWhile_append_dropWhile (p := alphabet.later) (l := rest)
  rw [nothing, List.nil_append] at all
  rw [ident?_spelled spelled, nothing, all, List.append_nil]

theorem Alphabet.stops_of_ident? {alphabet : Alphabet} {name : List Char} (read : alphabet.ident? text = some (name, rest)) :
    alphabet.Stops rest := by
  cases text with
  | nil => cases read
  | cons c more =>
    obtain ⟨_, same⟩ := Option.ite_none_right_eq_some.mp read
    cases same
    intro d first
    have stopped := List.head?_dropWhile_not alphabet.later more
    rw [first] at stopped
    simpa using stopped

/-- What is read behind an identifier or a front part of it. -/
theorem Alphabet.identThen?_eq_some {α : Type} {alphabet : Alphabet} {next : List Char → List Char → Option α} {a : α}
    (read : alphabet.identThen? text next = some a) :
    ∃ name left, next name left = some a ∧ name ++ left = text ∧ alphabet.Spells name := by
  unfold Alphabet.identThen? at read
  split at read
  · cases read
  · next name rest found =>
    obtain ⟨given, inside, read⟩ := List.exists_of_findSome?_eq_some read
    rw [List.mem_range] at inside
    refine ⟨_, _, read, ?_, ?_⟩
    · rw [← List.append_assoc, List.take_append_drop, append_of_ident? found]
    · obtain ⟨first, others, rfl, isFirst, areLater⟩ := Alphabet.spells_ident? found
      rw [List.length_cons] at inside ⊢
      obtain ⟨kept, same⟩ : ∃ kept, others.length + 1 - given = kept + 1 := ⟨others.length - given, by omega⟩
      rw [same, List.take_succ_cons]
      exact ⟨first, _, rfl, isFirst, fun c member => areLater c (List.mem_of_mem_take member)⟩

/-- Whatever can be read behind a front part of an identifier, something is read. -/
theorem Alphabet.exists_identThen? {α : Type} {alphabet : Alphabet} {next : List Char → List Char → Option α}
    {name left : List Char} {a : α} (spelled : alphabet.Spells name) (read : next name left = some a) :
    ∃ b, alphabet.identThen? (name ++ left) next = some b := by
  rw [identThen?, ident?_spelled spelled]
  refine Option.isSome_iff_exists.mp (List.findSome?_isSome_iff.mpr ⟨(left.takeWhile alphabet.later).length, ?_, ?_⟩)
  · obtain ⟨c, rest, rfl, _⟩ := spelled
    rw [List.mem_range, List.length_append, List.length_cons]
    omega
  · dsimp only
    rw [List.length_append, Nat.add_sub_cancel, List.take_left, List.drop_left, List.takeWhile_append_dropWhile, read]
    rfl

theorem passes_of_notMem {stop : Char} (free : stop ∉ text) : ∀ c ∈ text, (c != stop) = true := by
  intro c member
  simpa using fun same : c = stop => free (same ▸ member)

theorem takeTo?_append {stop : Char} {inner : List Char} (free : stop ∉ inner) (rest : List Char) :
    takeTo? stop (inner ++ stop :: rest) = some (inner, rest) := by
  rw [takeTo?, List.dropWhile_append_of_pos (passes_of_notMem free), List.takeWhile_append_of_pos (passes_of_notMem free)]
  simp

end Append

/-- An optional word and the blanks after it. -/
def Marked (word : String) : TextPattern := 1 + Word word * Gap
/-- One of some words. -/
def OneOf (words : List String) : TextPattern := {text | ∃ word ∈ words, word.toList = text}

/-! ## First letters -/

/-- The texts of a pattern begin with letters of some kind only, unless they are empty. -/
def Opens (pattern : TextPattern) (allowed : Char → Prop) : Prop :=
  ∀ text ∈ pattern, ∀ c ∈ text.head?, allowed c

/-- A word begins with a letter of some kind. -/
def Starts (allowed : Char → Prop) (word : String) : Prop :=
  ∃ c ∈ word.toList.head?, allowed c

instance {allowed : Char → Prop} [DecidablePred allowed] (word : String) : Decidable (Starts allowed word) :=
  Option.decidableExistsMem word.toList.head?

section Opens

variable {allowed : Char → Prop} {pattern next other : TextPattern}

theorem Opens.add (opens : Opens pattern allowed) (otherOpens : Opens other allowed) : Opens (pattern + other) allowed := by
  rintro text (inPattern | inOther)
  · exact opens text inPattern
  · exact otherOpens text inOther

theorem Opens.optional (opens : Opens other allowed) (optionOpens : Opens (pattern * (next * other)) allowed) :
    Opens ((1 + pattern * next) * other) allowed := by
  rw [add_mul, one_mul, mul_assoc]
  exact opens.add optionOpens

theorem Opens.blanks (opens : Opens pattern allowed) (blank : ∀ c, isBlank c → allowed c) : Opens (Blanks * pattern) allowed := by
  intro text member c first
  obtain ⟨blanks, allBlank, rest, inPattern, rfl⟩ := Language.mem_mul.mp member
  cases blanks with
  | nil => exact opens rest inPattern c first
  | cons d more =>
    cases first
    exact blank c (allBlank c List.mem_cons_self)

theorem opens_word {word : String} {c : Char} {front : List Char} (spelled : word.toList = c :: front) (ok : allowed c) :
    Opens (Word word * pattern) allowed := by
  intro text member d first
  obtain ⟨_, rfl, rest, _, rfl⟩ := Language.mem_mul.mp member
  rw [spelled] at first
  cases first
  exact ok

theorem opens_oneOf {words : List String} (first : ∀ word ∈ words, Starts allowed word) :
    Opens (OneOf words * pattern) allowed := by
  intro text member c begins
  obtain ⟨_, ⟨word, inWords, rfl⟩, rest, _, rfl⟩ := Language.mem_mul.mp member
  obtain ⟨d, front, ok⟩ := first word inWords
  rw [List.head?_append, front] at begins
  cases begins
  exact ok

theorem opens_captured {alphabet : Alphabet} {name : List Char} (letters : ∀ c, alphabet.first c → allowed c) :
    Opens (Captured alphabet.Names name * pattern) allowed := by
  intro text member c first
  obtain ⟨_, ⟨rfl, d, more, rfl, isFirst, _⟩, rest, _, rfl⟩ := Language.mem_mul.mp member
  cases first
  exact letters c isFirst

theorem spells_of_mem_captured {alphabet : Alphabet} {name text : List Char} (member : text ∈ Captured alphabet.Names name * pattern) :
    alphabet.Spells name := by
  obtain ⟨_, ⟨rfl, spelled⟩, _⟩ := Language.mem_mul.mp member
  exact spelled

theorem exists_mem_of_mem_mul {text : List Char} (member : text ∈ pattern * next) : ∃ rest, rest ∈ next := by
  obtain ⟨_, _, rest, inNext, _⟩ := Language.mem_mul.mp member
  exact ⟨rest, inNext⟩

theorem dropKeyword?_of_opens {word : String} {c : Char} {front text : List Char} (letters : Opens pattern (· ≠ c))
    (spelled : word.toList = c :: front) (member : text ∈ pattern) : dropKeyword? word text = none :=
  dropKeyword?_of_head? spelled fun first => letters text member c first rfl

end Opens

/-! ## Readers and patterns

A reader and what reads on behind it read the product of their patterns.
-/

section Patterns

variable {text : List Char} {behind : TextPattern}

theorem mem_optional_iff {pattern next : TextPattern} :
    text ∈ (1 + pattern * next) * behind ↔ text ∈ behind ∨ text ∈ pattern * (next * behind) := by
  rw [add_mul, one_mul, mul_assoc, Language.mem_add]

theorem mem_word_iff {word : String} :
    text ∈ Word word * behind ↔ ∃ rest, dropFront? word.toList text = some rest ∧ rest ∈ behind := by
  constructor
  · intro member
    obtain ⟨_, rfl, rest, inBehind, rfl⟩ := Language.mem_mul.mp member
    exact ⟨rest, dropFront?_append _ _, inBehind⟩
  · rintro ⟨rest, read, inBehind⟩
    rw [← append_of_dropFront? read]
    exact Language.append_mem_mul rfl inBehind

theorem mem_letter_iff {word : String} (c : Char) (spelled : word.toList = [c]) :
    text ∈ Word word * behind ↔ ∃ rest, text = c :: rest ∧ rest ∈ behind := by
  constructor
  · intro member
    obtain ⟨_, rfl, rest, inBehind, rfl⟩ := Language.mem_mul.mp member
    exact ⟨rest, by rw [spelled, List.singleton_append], inBehind⟩
  · rintro ⟨rest, rfl, inBehind⟩
    exact Language.append_mem_mul (a := [c]) spelled.symm inBehind

theorem mem_begin_iff {word : String} (c : Char) (spelled : word.toList = [c]) :
    text ∈ Word word * Anything ↔ ∃ rest, text = c :: rest := by
  rw [mem_letter_iff c spelled]
  exact exists_congr fun rest => and_iff_left trivial

theorem mem_blanks_iff (visible : Opens behind (isBlank · = false)) : text ∈ Blanks * behind ↔ trimLeft text ∈ behind := by
  refine ⟨fun member => ?_, mem_of_trimLeft⟩
  obtain ⟨blanks, blank, rest, inBehind, rfl⟩ := Language.mem_mul.mp member
  rwa [trimLeft_blanks_append blank (visible rest inBehind)]

theorem mem_keyword_iff {word : String} (visible : Opens behind (isBlank · = false)) :
    text ∈ Word word * (Gap * behind) ↔ ∃ rest, dropKeyword? word text = some rest ∧ rest ∈ behind := by
  constructor
  · intro member
    obtain ⟨_, rfl, spaced, inGap, rfl⟩ := Language.mem_mul.mp member
    obtain ⟨gap, isGap, rest, inBehind, rfl⟩ := Language.mem_mul.mp inGap
    exact ⟨rest, dropKeyword?_append word isGap (visible rest inBehind), inBehind⟩
  · rintro ⟨rest, read, inBehind⟩
    exact mem_of_dropKeyword? read inBehind

theorem mem_captured_iff {alphabet : Alphabet} {name : List Char} (stops : Opens behind (alphabet.later · = false)) :
    text ∈ Captured alphabet.Names name * behind ↔
      ∃ found, alphabet.ident? text = some found ∧ found.1 = name ∧ found.2 ∈ behind := by
  constructor
  · intro member
    obtain ⟨_, ⟨rfl, spelled⟩, rest, inBehind, rfl⟩ := Language.mem_mul.mp member
    exact ⟨_, Alphabet.ident?_append spelled (stops rest inBehind), rfl, inBehind⟩
  · rintro ⟨⟨_, rest⟩, read, rfl, inBehind⟩
    exact mem_of_ident? read inBehind

/-- The first stop ends a piece that has no stop in it. -/
theorem mem_cut_iff {piece : TextPattern} {word : String} {stop : Char} (spelled : word.toList = [stop])
    (free : ∀ inner ∈ piece, stop ∉ inner) :
    text ∈ piece * (Word word * behind) ↔ ∃ found, takeTo? stop text = some found ∧ found.1 ∈ piece ∧ found.2 ∈ behind := by
  constructor
  · intro member
    obtain ⟨inner, inPiece, stopped, inStop, rfl⟩ := Language.mem_mul.mp member
    obtain ⟨rest, rfl, inBehind⟩ := (mem_letter_iff stop spelled).mp inStop
    exact ⟨_, takeTo?_append (free inner inPiece) rest, inPiece, inBehind⟩
  · rintro ⟨⟨inner, rest⟩, read, inPiece, inBehind⟩
    obtain ⟨_, rfl⟩ := append_of_takeTo? read
    exact Language.append_mem_mul inPiece ((mem_letter_iff stop spelled).mpr ⟨rest, rfl, inBehind⟩)

theorem mem_upTo_iff {word : String} {stop : Char} (spelled : word.toList = [stop]) :
    text ∈ Without stop * (Word word * behind) ↔ ∃ found, takeTo? stop text = some found ∧ found.2 ∈ behind := by
  refine (mem_cut_iff spelled fun inner (free : inner ∈ Without stop) => free).trans ?_
  refine exists_congr fun found => and_congr_right fun read => and_iff_right ?_
  exact (append_of_takeTo? read).1

theorem mem_somethingUpTo_iff {word : String} {stop : Char} (spelled : word.toList = [stop]) :
    text ∈ (Without stop - 1) * (Word word * behind) ↔
      ∃ found, takeTo? stop text = some found ∧ found.1 ≠ [] ∧ found.2 ∈ behind := by
  refine (mem_cut_iff spelled fun inner (free : inner ∈ Without stop - 1) => free.1).trans ?_
  refine exists_congr fun found => and_congr_right fun read => and_congr_left fun _ => and_iff_right ?_
  exact (append_of_takeTo? read).1

theorem mem_contains_iff {word : String} (stop : Char) (spelled : word.toList = [stop]) :
    text ∈ Without stop * (Word word * Anything) ↔ stop ∈ text := by
  constructor
  · intro member
    obtain ⟨inner, _, stopped, inStop, rfl⟩ := Language.mem_mul.mp member
    obtain ⟨rest, rfl, _⟩ := (mem_letter_iff stop spelled).mp inStop
    exact List.mem_append_right inner List.mem_cons_self
  · intro inside
    obtain ⟨inner, rest, rfl, free⟩ := List.eq_append_cons_of_mem inside
    exact Language.append_mem_mul free ((mem_letter_iff stop spelled).mpr ⟨rest, rfl, trivial⟩)

end Patterns

/-! ## One of some words -/

/-- A word without blanks. -/
def Unbroken (word : String) : Prop :=
  Nonblank word.toList

instance (word : String) : Decidable (Unbroken word) :=
  inferInstanceAs (Decidable (Nonblank word.toList))

section Words

variable {word : String} {words : List String} {text rest : List Char} {behind : TextPattern}

/-- A keyword is what stands in front of the first blank of a text. -/
theorem takeWhile_of_dropKeyword? (unbroken : Unbroken word) (read : dropKeyword? word text = some rest) :
    text.takeWhile (!isBlank ·) = word.toList := by
  obtain ⟨spaced, front, blank⟩ := Option.bind_eq_some_iff.mp read
  rw [← append_of_dropFront? front, List.takeWhile_append_of_pos fun c member => by simp [unbroken c member]]
  obtain ⟨⟨c, more, rfl, isBlank⟩, _⟩ := dropBlanks?_eq_some blank
  simp [isBlank]

theorem keyword_unique {other : String} {otherRest : List Char} (unbroken : Unbroken word) (otherUnbroken : Unbroken other)
    (read : dropKeyword? word text = some rest) (otherRead : dropKeyword? other text = some otherRest) : word = other := by
  refine String.toList_injective ?_
  rw [← takeWhile_of_dropKeyword? unbroken read, takeWhile_of_dropKeyword? otherUnbroken otherRead]

theorem dropKeyword?_of_other {other : String} (unbroken : Unbroken word) (otherUnbroken : Unbroken other)
    (read : dropKeyword? word text = some rest) (different : word ≠ other) : dropKeyword? other text = none :=
  Option.eq_none_iff_forall_ne_some.mpr fun _ otherRead => different (keyword_unique unbroken otherUnbroken read otherRead)

theorem takeOneOf?_eq_some_iff (unbroken : ∀ word ∈ words, Unbroken word) :
    takeOneOf? words text = some (word, rest) ↔ word ∈ words ∧ dropKeyword? word text = some rest := by
  have sound : ∀ {word rest}, takeOneOf? words text = some (word, rest) → word ∈ words ∧ dropKeyword? word text = some rest := by
    intro word rest read
    obtain ⟨other, member, read⟩ := List.exists_of_findSome?_eq_some read
    obtain ⟨left, read, same⟩ := Option.map_eq_some_iff.mp read
    cases same
    exact ⟨member, read⟩
  refine ⟨sound, fun ⟨member, read⟩ => ?_⟩
  cases found : takeOneOf? words text with
  | none =>
    have missing := List.findSome?_eq_none_iff.mp found word member
    rw [read] at missing
    cases missing
  | some pair =>
    obtain ⟨other, left⟩ := pair
    obtain ⟨otherMember, otherRead⟩ := sound found
    obtain rfl := keyword_unique (unbroken word member) (unbroken other otherMember) read otherRead
    rw [Option.some.inj (read.symm.trans otherRead)]

theorem takeOneOf?_of_head? {c : Char} (first : c ∈ text.head?) (other : ∀ word ∈ words, Starts (· ≠ c) word) :
    takeOneOf? words text = none := by
  refine List.findSome?_eq_none_iff.mpr fun word member => Option.map_eq_none_iff.mpr ?_
  obtain ⟨d, begins, different⟩ := other word member
  obtain ⟨front, split⟩ := List.head?_eq_some_iff.mp begins
  refine dropKeyword?_of_head? split fun same => different ?_
  exact Option.some.inj (same.symm.trans first)

theorem mem_oneOf_iff (unbroken : ∀ word ∈ words, Unbroken word) (visible : Opens behind (isBlank · = false)) :
    text ∈ OneOf words * (Gap * behind) ↔ ∃ found, takeOneOf? words text = some found ∧ found.2 ∈ behind := by
  constructor
  · intro member
    obtain ⟨_, ⟨word, inWords, rfl⟩, spaced, inGap, rfl⟩ := Language.mem_mul.mp member
    obtain ⟨rest, read, inBehind⟩ := (mem_keyword_iff visible).mp (Language.append_mem_mul (l := Word word) rfl inGap)
    exact ⟨_, (takeOneOf?_eq_some_iff unbroken).mpr ⟨inWords, read⟩, inBehind⟩
  · rintro ⟨⟨word, rest⟩, read, inBehind⟩
    obtain ⟨inWords, read⟩ := (takeOneOf?_eq_some_iff unbroken).mp read
    obtain ⟨_, rfl, spaced, inGap, rfl⟩ := Language.mem_mul.mp (mem_of_dropKeyword? read inBehind)
    exact Language.append_mem_mul ⟨word, inWords, rfl⟩ inGap

theorem mem_marked_iff (visible : Opens behind (isBlank · = false)) (other : ∀ rest ∈ behind, dropKeyword? word rest = none) :
    text ∈ Marked word * behind ↔ (takeKeyword word text).2 ∈ behind := by
  rw [Marked, mem_optional_iff, mem_keyword_iff visible, takeKeyword]
  cases read : dropKeyword? word text with
  | none => simp
  | some rest =>
    simp only [Option.some.injEq, exists_eq_left', or_iff_right_iff_imp]
    intro inBehind
    rw [other text inBehind] at read
    cases read

end Words

end DeclIndex.Text

/-! ## Letters of Aiken identifiers -/

namespace DeclIndex.Aiken
open DeclIndex.Text

theorem isBlank_of_first {c : Char} (first : alphabet.first c) : isBlank c = false := by
  have letter : c.isAlpha ∨ c = '_' := by simpa [alphabet] using first
  rcases letter with alpha | rfl
  · exact isBlank_of_isAlphanum (by simp [Char.isAlphanum, alpha])
  · rfl

theorem isBlank_of_later {c : Char} (later : alphabet.later c) : isBlank c = false := by
  have letter : c.isAlphanum ∨ c = '_' := by simpa [alphabet] using later
  rcases letter with alphanum | rfl
  · exact isBlank_of_isAlphanum alphanum
  · rfl

theorem nonblank_of_spells {name : List Char} (spelled : alphabet.Spells name) : Nonblank name := by
  obtain ⟨first, others, rfl, isFirst, areLater⟩ := spelled
  exact List.forall_mem_cons.mpr ⟨isBlank_of_first isFirst, fun c member => isBlank_of_later (areLater c member)⟩

end DeclIndex.Aiken
