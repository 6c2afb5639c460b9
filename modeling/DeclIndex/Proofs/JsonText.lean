import DeclIndex.Json.Parser
import DeclIndex.Json.Printer
import DeclIndex.Proofs.Table
import Mathlib.Data.List.TakeWhile

/-!
# Reading JSON that was written

A value is read back from its text unless it has a number with a fraction or one with too many digits, a field twice, or is
nested too deep.
-/

namespace DeclIndex.Json

/-! ## Blanks -/

/-- The characters that are passed over between values. -/
def isBlank (c : Char) : Bool :=
  c == ' ' || c == '\t' || c == '\n' || c == '\r'

/-- Only blanks are in a text. -/
def Blank (text : List Char) : Prop :=
  ∀ c ∈ text, isBlank c = true

theorem skip_append {blanks : List Char} (blank : Blank blanks) (text : List Char) : skip (blanks ++ text) = skip text :=
  List.dropWhile_append_of_pos blank

theorem skip_visible {c : Char} {text : List Char} (visible : isBlank c = false) : skip (c :: text) = c :: text :=
  List.dropWhile_cons_of_neg (by simpa [isBlank] using visible)

theorem value_append {blanks : List Char} (blank : Blank blanks) (fuel depth : Nat) (text : List Char) :
    value fuel depth (blanks ++ text) = value fuel depth text := by
  cases fuel with
  | zero => simp [value]
  | succ fuel =>
    unfold value
    rw [skip_append blank]

/-! ## Texts in quotes -/

private theorem hex4?_hex : ∀ n < 32,
    (match Text.hex 4 n with | [a, b, c, d] => hex4? a b c d == some n | _ => false) = true := by
  decide +kernel

private theorem quotedRest?_code {c : Char} (control : c.toNat < 32) (done rest : List Char) :
    quotedRest? none done ('\\' :: 'u' :: Text.hex 4 c.toNat ++ rest) = quotedRest? none (c :: done) rest := by
  have digits := hex4?_hex c.toNat control
  split at digits
  · next a b c' d spelled =>
    have code : hex4? a b c' d = some c.toNat := by simpa using digits
    have low : ¬ 0xD800 ≤ c.toNat := by omega
    simp [spelled, quotedRest?, code, low, addCode, codeChar, Char.ofNat_toNat]
  · cases digits

theorem quotedRest?_escaped (c : Char) (done rest : List Char) :
    quotedRest? none done (escaped c ++ rest) = quotedRest? none (c :: done) rest := by
  have ofCode {n : Nat} (same : c.toNat = n) : c = Char.ofNat n := by rw [← same, Char.ofNat_toNat]
  by_cases quote : c = '"'
  · subst quote; rfl
  by_cases backslash : c = '\\'
  · subst backslash; rfl
  by_cases lineFeed : c = '\n'
  · subst lineFeed; rfl
  by_cases carriage : c = '\r'
  · subst carriage; rfl
  by_cases tab : c = '\t'
  · subst tab; rfl
  by_cases backspace : c.toNat = 8
  · rw [ofCode backspace]; rfl
  by_cases formFeed : c.toNat = 12
  · rw [ofCode formFeed]; rfl
  by_cases control : c.toNat < 32
  · simp only [escaped, quote, backslash, lineFeed, carriage, tab, backspace, formFeed, control, decide_false, Bool.or_self,
      Bool.false_eq_true, if_false, if_true]
    exact quotedRest?_code control done rest
  · simp [escaped, quotedRest?, flush, quote, backslash, lineFeed, carriage, tab, backspace, formFeed, control]

theorem quotedRest?_flatMap (text done rest : List Char) :
    quotedRest? none done (text.flatMap escaped ++ '"' :: rest) = some (String.ofList (done.reverse ++ text), rest) := by
  induction text generalizing done with
  | nil => simp [quotedRest?, flush]
  | cons c text ih =>
    rw [List.flatMap_cons, List.append_assoc, quotedRest?_escaped, ih]
    simp

theorem toList_quoted (text : String) : (quoted text).toList = '"' :: (text.toList.flatMap escaped ++ ['"']) := by
  simp [quoted]

/-- A text in quotes is read up to its own end. -/
theorem quotedText_quoted (text : String) (rest : List Char) :
    quotedText (text.toList.flatMap escaped ++ '"' :: rest) = .ok (text, rest) := by
  rw [quotedText, quotedRest?_flatMap]
  simp

/-! ## Numbers -/

/-- What follows a value in a text: nothing, a comma or the end of the line. -/
def Ends (rest : List Char) : Prop :=
  ∀ c ∈ rest.head?, c = ',' ∨ c = '\n'

theorem digitsValue_toDigits (n : Nat) : digitsValue (Nat.toDigits 10 n) = n := by
  have same : digitsValue (Nat.toDigits 10 n) = Nat.ofDigitChars 10 (Nat.toDigits 10 n) 0 := by
    simp only [digitsValue, Nat.ofDigitChars, Nat.mul_comm]
    rfl
  rw [same, Nat.ofDigitChars_toDigits (by omega) (by omega)]

/-- Only zero is written with a zero in front. -/
theorem head?_toDigits {n : Nat} (positive : 0 < n) : (Nat.toDigits 10 n).head? ≠ some '0' := by
  have digits : ∀ n < 10, 0 < n → n.digitChar ≠ '0' := by decide
  induction n using Nat.strongRecOn with
  | _ n ih =>
    by_cases small : n < 10
    · rw [Nat.toDigits_of_lt_base small]
      simpa using digits n small positive
    · rw [Nat.toDigits_of_base_le (by omega) (by omega), List.head?_append_of_ne_nil _ Nat.toDigits_ne_nil]
      exact ih (n / 10) (by omega) (by omega)

theorem Ends.cases {rest : List Char} (ends : Ends rest) :
    rest = [] ∨ (∃ more, rest = ',' :: more) ∨ ∃ more, rest = '\n' :: more := by
  cases rest with
  | nil => exact Or.inl rfl
  | cons c more =>
    rcases ends c rfl with rfl | rfl
    · exact Or.inr (Or.inl ⟨more, rfl⟩)
    · exact Or.inr (Or.inr ⟨more, rfl⟩)

theorem magnitude?_toDigits (isNegative : Bool) {n : Nat} {rest : List Char} (ends : Ends rest)
    (short : (Nat.toDigits 10 n).length ≤ Text.digitLimit) :
    magnitude? isNegative (Nat.toDigits 10 n ++ rest) = some (.ok (.int (if isNegative then -(n : Int) else n), rest)) := by
  have isDigit : ∀ c ∈ Nat.toDigits 10 n, c.isDigit = true := fun c member =>
    Nat.isDigit_of_mem_toDigits (by omega) (by omega) member
  have stop : rest.takeWhile Char.isDigit = [] := by
    rcases ends.cases with rfl | ⟨more, rfl⟩ | ⟨more, rfl⟩ <;> rfl
  have noFraction : fraction rest = ([], rest) := by
    rcases ends.cases with rfl | ⟨more, rfl⟩ | ⟨more, rfl⟩ <;> rfl
  have noExponent : exponent rest = (none, rest) := by
    rcases ends.cases with rfl | ⟨more, rfl⟩ | ⟨more, rfl⟩ <;> rfl
  have whole : wholeDigits (Nat.toDigits 10 n ++ rest) = Nat.toDigits 10 n := by
    unfold wholeDigits
    split
    · next spelled =>
      by_cases zero : n = 0
      · rw [zero, Nat.toDigits_zero]
      · have first := head?_toDigits (Nat.pos_of_ne_zero zero)
        rw [← List.head?_append_of_ne_nil _ Nat.toDigits_ne_nil, spelled] at first
        exact absurd rfl first
    · rw [List.takeWhile_append_of_pos isDigit, stop, List.append_nil]
  simp [magnitude?, whole, Nat.toDigits_ne_nil, noFraction, noExponent, digitsValue_toDigits, Nat.not_lt.mpr short]

/-! ## Values -/

mutual

/-- Whether a value is read back from its text, with at most `depth` arrays and objects around one another. -/
def fits (depth : Nat) : Json → Bool
  | .float _ => false
  | .int n => (Nat.toDigits 10 n.natAbs).length ≤ Text.digitLimit
  | .arr items =>
    match depth with
    | 0 => false
    | depth + 1 => fitsItems depth items
  | .obj fields =>
    match depth with
    | 0 => false
    | depth + 1 => decide (fields.map (·.1)).Nodup && fitsFields depth fields
  | _ => true

/-- Whether the items of an array are read back. -/
def fitsItems (depth : Nat) : List Json → Bool
  | [] => true
  | item :: items => fits depth item && fitsItems depth items

/-- Whether the fields of an object are read back. -/
def fitsFields (depth : Nat) : List (String × Json) → Bool
  | [] => true
  | (_, value) :: fields => fits depth value && fitsFields depth fields

end

theorem fitsItems_eq (depth : Nat) (items : List Json) : fitsItems depth items = items.all (fits depth) := by
  induction items with
  | nil => rfl
  | cons item items ih => rw [fitsItems, ih, List.all_cons]

theorem fitsFields_eq (depth : Nat) (fields : List (String × Json)) :
    fitsFields depth fields = fields.all fun field => fits depth field.2 := by
  induction fields with
  | nil => rfl
  | cons field fields ih => rw [fitsFields, ih, List.all_cons]

theorem indentedItems_eq (pad : String) (items : List Json) : indentedItems pad items = items.map (indented pad) := by
  induction items with
  | nil => rfl
  | cons item items ih => rw [indentedItems, ih, List.map_cons]

/-- Members of an array or object with commas between them, each on a line of its own. -/
def membersText (pad : String) : List String → List Char
  | [] => []
  | [member] => '\n' :: pad.toList ++ member.toList
  | member :: next :: members => '\n' :: pad.toList ++ member.toList ++ ',' :: membersText pad (next :: members)

theorem membersText_cons (pad member : String) (members : List String) :
    membersText pad (member :: members) =
      '\n' :: pad.toList ++ (',' :: '\n' :: pad.toList).intercalate ((member :: members).map String.toList) := by
  induction members generalizing member with
  | nil => simp [membersText]
  | cons next members ih =>
    rw [membersText, ih]
    simp only [List.map_cons, List.intercalate_cons_cons, List.cons_append, List.append_assoc]

theorem toList_bracketed (opening closing pad member : String) (members : List String) :
    (bracketed opening closing pad (member :: members)).toList =
      opening.toList ++ (membersText (pad ++ "  ") (member :: members) ++ '\n' :: (pad.toList ++ closing.toList)) := by
  rw [membersText_cons, bracketed]
  simp [String.toList_intercalate]

/-- A value is read from the front of a text, wherever it is written. -/
def ReadsBack (depth : Nat) (pad : String) (v : Json) : Prop :=
  ∀ fuel rest, Ends rest → 2 * (indented pad v).toList.length ≤ fuel →
    value fuel depth ((indented pad v).toList ++ rest) = .ok (v, rest)

theorem ends_comma (rest : List Char) : Ends (',' :: rest) := by
  simp [Ends]

theorem ends_lineFeed (rest : List Char) : Ends ('\n' :: rest) := by
  simp [Ends]

theorem blank_lineFeed {text : List Char} (blank : Blank text) : Blank ('\n' :: text) :=
  List.forall_mem_cons.mpr ⟨rfl, blank⟩

section Members

variable {depth : Nat} {pad : String} (padBlank : Blank pad.toList) {tail : List Char} (tailBlank : Blank tail)
include padBlank tailBlank

theorem items_membersText {list : List Json} (nonempty : list ≠ []) (members : ∀ item ∈ list, ReadsBack depth pad item)
    {fuel : Nat} (enough : 2 * (membersText pad (list.map (indented pad))).length ≤ fuel) (done : List Json)
    (rest : List Char) :
    items fuel depth done (membersText pad (list.map (indented pad)) ++ '\n' :: (tail ++ ']' :: rest)) =
      .ok (done.reverse ++ list, rest) := by
  have lead := blank_lineFeed padBlank
  have closing : skip ('\n' :: (tail ++ ']' :: rest)) = ']' :: rest :=
    skip_append (blank_lineFeed tailBlank) (']' :: rest)
  induction list generalizing fuel done with
  | nil => exact absurd rfl nonempty
  | cons item list ih =>
    obtain ⟨reads, others⟩ := List.forall_mem_cons.mp members
    cases list with
    | nil =>
      simp only [List.map_cons, List.map_nil, membersText, List.length_append, List.length_cons] at enough ⊢
      obtain ⟨fuel, rfl⟩ := Nat.exists_eq_succ_of_ne_zero (show fuel ≠ 0 by omega)
      rw [items, List.append_assoc, value_append lead, reads fuel _ (ends_lineFeed _) (by omega)]
      simp [closing]
    | cons next list =>
      simp only [List.map_cons, membersText, List.length_append, List.length_cons] at enough ⊢
      obtain ⟨fuel, rfl⟩ := Nat.exists_eq_succ_of_ne_zero (show fuel ≠ 0 by omega)
      have later := @ih (by simp) others fuel (by simp only [List.map_cons]; omega) (item :: done)
      rw [items, List.append_assoc, List.append_assoc, value_append lead, List.cons_append,
        reads fuel _ (ends_comma _) (by omega)]
      simp only [List.map_cons] at later
      simp [skip, later]

omit tailBlank in
private theorem fields_field (name : String) {v : Json} (reads : ReadsBack depth pad v) {fuel : Nat}
    (enough : 2 * (indented pad v).toList.length ≤ fuel) (done : List (String × Json)) {after : List Char}
    (ends : Ends after) :
    let text := '\n' :: pad.toList ++ ((quoted name ++ ": " ++ indented pad v).toList ++ after)
    (∀ beyond, skip after = ',' :: beyond →
      fields (fuel + 1) depth done text = fields fuel depth (putEntry name v done) beyond) ∧
    ∀ beyond, skip after = '}' :: beyond → fields (fuel + 1) depth done text = .ok (putEntry name v done, beyond) := by
  have lead := blank_lineFeed padBlank
  have text : (quoted name ++ ": " ++ indented pad v).toList ++ after =
      '"' :: (name.toList.flatMap escaped ++ '"' :: ':' :: ([' '] ++ ((indented pad v).toList ++ after))) := by
    simp [toList_quoted]
  have member : value fuel depth ([' '] ++ ((indented pad v).toList ++ after)) = .ok (v, after) := by
    rw [value_append (by simp [Blank, isBlank]), reads fuel after ends enough]
  dsimp only
  rw [text, fields, skip_append lead, skip_visible (by decide)]
  simp only [quotedText_quoted, skip_visible (show isBlank ':' = false by decide), member]
  exact ⟨fun beyond next => by simp only [next], fun beyond last => by simp only [last]⟩

theorem fields_membersText {list : List (String × Json)} (nonempty : list ≠ [])
    (members : ∀ field ∈ list, ReadsBack depth pad field.2) {fuel : Nat}
    (enough : 2 * (membersText pad (indentedFields pad list)).length ≤ fuel) {done : List (String × Json)}
    (distinct : ((done ++ list).map (·.1)).Nodup) (rest : List Char) :
    fields fuel depth done (membersText pad (indentedFields pad list) ++ '\n' :: (tail ++ '}' :: rest)) =
      .ok (done ++ list, rest) := by
  have closing : skip ('\n' :: (tail ++ '}' :: rest)) = '}' :: rest :=
    skip_append (blank_lineFeed tailBlank) ('}' :: rest)
  induction list generalizing fuel done with
  | nil => exact absurd rfl nonempty
  | cons field list ih =>
    obtain ⟨name, v⟩ := field
    obtain ⟨reads, others⟩ := List.forall_mem_cons.mp members
    dsimp only at reads
    have fresh : putEntry name v done = done ++ [(name, v)] := by
      -- a field that was read before would be replaced in its old place
      apply putEntry_of_fresh
      rw [List.map_append, List.nodup_append] at distinct
      exact fun held => distinct.2.2 name held name (by simp) rfl
    cases list with
    | nil =>
      simp only [indentedFields, membersText, List.length_append, List.length_cons] at enough ⊢
      obtain ⟨fuel, rfl⟩ := Nat.exists_eq_succ_of_ne_zero (show fuel ≠ 0 by omega)
      have short : 2 * (indented pad v).toList.length ≤ fuel := by
        simp only [String.toList_append, List.length_append] at enough
        omega
      rw [List.append_assoc, (fields_field padBlank name reads short done (ends_lineFeed _)).2 rest closing, fresh]
    | cons next list =>
      simp only [indentedFields, membersText, List.length_append, List.length_cons] at enough ⊢
      obtain ⟨fuel, rfl⟩ := Nat.exists_eq_succ_of_ne_zero (show fuel ≠ 0 by omega)
      have short : 2 * (indented pad v).toList.length ≤ fuel := by
        simp only [String.toList_append, List.length_append] at enough
        omega
      have later := @ih (by simp) others fuel (by simp only [indentedFields]; omega) (done ++ [(name, v)])
        (by simpa using distinct)
      rw [List.append_assoc, List.append_assoc]
      refine ((fields_field padBlank name reads short done (ends_comma _)).1 _ (skip_visible (by decide))).trans ?_
      rw [fresh]
      simpa [indentedFields] using later

end Members

section Texts

variable (pad : String)

private theorem toList_null : (indented pad .null).toList = ['n', 'u', 'l', 'l'] := by
  change "null".toList = _
  simp

private theorem toList_true : (indented pad (.bool true)).toList = ['t', 'r', 'u', 'e'] := by
  change "true".toList = _
  simp

private theorem toList_false : (indented pad (.bool false)).toList = ['f', 'a', 'l', 's', 'e'] := by
  change "false".toList = _
  simp

private theorem toList_emptyArray : (indented pad (.arr [])).toList = ['[', ']'] := by
  change "[]".toList = _
  simp

private theorem toList_emptyObject : (indented pad (.obj [])).toList = ['\x7b', '\x7d'] := by
  change "\x7b\x7d".toList = _
  simp

private theorem toList_natural (n : Nat) : (indented pad (.int n)).toList = Nat.toDigits 10 n := by
  change (toString (n : Int)).toList = _
  simp [Int.repr_eq_if, Nat.repr_eq_ofList_toDigits]

private theorem toList_negative (n : Nat) : (indented pad (.int (.negSucc n))).toList = '-' :: Nat.toDigits 10 (n + 1) := by
  have negative : ¬ 0 ≤ Int.negSucc n := by omega
  change (toString (Int.negSucc n)).toList = _
  simp [Int.repr_eq_if, negative, Nat.repr_eq_ofList_toDigits]

end Texts

private theorem value_other {c : Char} {text : List Char} (fuel depth : Nat) (visible : isBlank c = false)
    (other : c ∉ ['"', '[', '\x7b', '-']) :
    value (fuel + 1) depth (c :: text) = (magnitude? false (c :: text)).getD (word (c :: text)) := by
  simp only [List.mem_cons, List.not_mem_nil, or_false, not_or] at other
  obtain ⟨quote, bracket, brace, sign⟩ := other
  unfold value
  rw [skip_visible visible]
  split
  · next same => exact absurd (List.cons.inj same).1 quote
  · next same => exact absurd (List.cons.inj same).1 bracket
  · next same => exact absurd (List.cons.inj same).1 brace
  · next same => exact absurd (List.cons.inj same).1 sign
  · rfl

private theorem not_digit {c d : Char} (digit : c.isDigit = true) (other : d.isDigit = false) : c ≠ d := by
  rintro rfl
  rw [other] at digit
  cases digit

private theorem isBlank_digit {c : Char} (digit : c.isDigit = true) : isBlank c = false := by
  simp [isBlank, not_digit digit]

private theorem toDigits_cons (n : Nat) : ∃ c more, Nat.toDigits 10 n = c :: more ∧ c.isDigit = true := by
  obtain ⟨c, more, spelled⟩ := List.exists_cons_of_ne_nil (@Nat.toDigits_ne_nil n 10)
  exact ⟨c, more, spelled, Nat.isDigit_of_mem_toDigits (by omega) (by omega) (spelled ▸ List.mem_cons_self)⟩

private theorem visible_indented {depth : Nat} (pad : String) {v : Json} (fitting : fits depth v) :
    ∃ c more, (indented pad v).toList = c :: more ∧ isBlank c = false ∧ c ≠ ']' := by
  match v with
  | .null => exact ⟨'n', _, toList_null pad, by decide, by decide⟩
  | .bool true => exact ⟨'t', _, toList_true pad, by decide, by decide⟩
  | .bool false => exact ⟨'f', _, toList_false pad, by decide, by decide⟩
  | .int (.ofNat n) =>
    obtain ⟨c, more, spelled, digit⟩ := toDigits_cons n
    exact ⟨c, more, (toList_natural pad n).trans spelled, isBlank_digit digit, not_digit digit (by decide)⟩
  | .int (.negSucc n) => exact ⟨'-', _, toList_negative pad n, by decide, by decide⟩
  | .float _ => cases fitting
  | .str text => exact ⟨'"', _, toList_quoted text, by decide, by decide⟩
  | .arr [] => exact ⟨'[', _, toList_emptyArray pad, by decide, by decide⟩
  | .arr (item :: items) => exact ⟨'[', _, toList_bracketed _ _ _ _ _, by decide, by decide⟩
  | .obj [] => exact ⟨'\x7b', _, toList_emptyObject pad, by decide, by decide⟩
  | .obj (field :: fields) => exact ⟨'\x7b', _, toList_bracketed _ _ _ _ _, by decide, by decide⟩

private theorem value_word {c : Char} {text : List Char} (fuel depth : Nat) (visible : isBlank c = false)
    (other : c ∉ ['"', '[', '\x7b', '-']) (noDigit : c.isDigit = false) :
    value (fuel + 1) depth (c :: text) = word (c :: text) := by
  have nothing : wholeDigits (c :: text) = [] := by
    unfold wholeDigits
    split
    · next same =>
      rw [(List.cons.inj same).1] at noDigit
      cases noDigit
    · simp [noDigit]
  rw [value_other fuel depth visible other, magnitude?]
  simp [nothing]

private theorem word_null (rest : List Char) : word ('n' :: 'u' :: 'l' :: 'l' :: rest) = .ok (.null, rest) := by
  simp [word, words, show "null".length = 4 from rfl]

private theorem word_true (rest : List Char) : word ('t' :: 'r' :: 'u' :: 'e' :: rest) = .ok (.bool true, rest) := by
  simp [word, words, show "true".length = 4 from rfl]

private theorem word_false (rest : List Char) :
    word ('f' :: 'a' :: 'l' :: 's' :: 'e' :: rest) = .ok (.bool false, rest) := by
  simp [word, words, show "false".length = 5 from rfl]

/-- There is fuel for the first character of a text. -/
private theorem fuel_succ {text : List Char} {c : Char} {more : List Char} (spelled : text = c :: more) {fuel : Nat}
    (enough : 2 * text.length ≤ fuel) : ∃ less, fuel = less + 1 := by
  rw [spelled, List.length_cons] at enough
  exact Nat.exists_eq_succ_of_ne_zero (by omega)

section Scalars

variable (depth : Nat) (pad : String)

private theorem readsBack_null : ReadsBack depth pad .null := by
  intro fuel rest _ enough
  obtain ⟨fuel, rfl⟩ := fuel_succ (toList_null pad) enough
  rw [toList_null]
  exact (value_word fuel depth (by decide) (by decide) (by decide)).trans (word_null rest)

private theorem readsBack_bool (b : Bool) : ReadsBack depth pad (.bool b) := by
  intro fuel rest _ enough
  cases b with
  | true =>
    obtain ⟨fuel, rfl⟩ := fuel_succ (toList_true pad) enough
    rw [toList_true]
    exact (value_word fuel depth (by decide) (by decide) (by decide)).trans (word_true rest)
  | false =>
    obtain ⟨fuel, rfl⟩ := fuel_succ (toList_false pad) enough
    rw [toList_false]
    exact (value_word fuel depth (by decide) (by decide) (by decide)).trans (word_false rest)

private theorem readsBack_str (text : String) : ReadsBack depth pad (.str text) := by
  intro fuel rest _ enough
  have spelled : (indented pad (.str text)).toList = '"' :: (text.toList.flatMap escaped ++ ['"']) := toList_quoted text
  obtain ⟨fuel, rfl⟩ := fuel_succ spelled enough
  rw [spelled, List.cons_append, List.append_assoc, value, skip_visible (by decide)]
  simp [quotedText_quoted, Except.map]

private theorem readsBack_int {n : Int} (short : (Nat.toDigits 10 n.natAbs).length ≤ Text.digitLimit) :
    ReadsBack depth pad (.int n) := by
  intro fuel rest ends enough
  cases n with
  | ofNat n =>
    obtain ⟨c, more, spelled, digit⟩ := toDigits_cons n
    have text : (indented pad (.int (.ofNat n))).toList = Nat.toDigits 10 n := toList_natural pad n
    obtain ⟨fuel, rfl⟩ := fuel_succ (text.trans spelled) enough
    have read : magnitude? false (Nat.toDigits 10 n ++ rest) = some (.ok (.int n, rest)) :=
      magnitude?_toDigits false ends short
    rw [text]
    rw [spelled, List.cons_append] at read ⊢
    rw [value_other fuel depth (isBlank_digit digit) (by simp [not_digit digit]), read]
    rfl
  | negSucc n =>
    have text := toList_negative pad n
    obtain ⟨fuel, rfl⟩ := fuel_succ text enough
    have read : magnitude? true (Nat.toDigits 10 (n + 1) ++ rest) = some (.ok (.int (.negSucc n), rest)) :=
      magnitude?_toDigits true ends short
    rw [text, List.cons_append, value, skip_visible (by decide)]
    simp only [read, Option.getD_some]

end Scalars

/-! ## Arrays and objects -/

private theorem skip_membersText {pad member : String} (padBlank : Blank pad.toList) {c : Char} {more : List Char}
    (spelled : member.toList = c :: more) (visible : isBlank c = false) (members : List String) (rest : List Char) :
    ∃ text, skip (membersText pad (member :: members) ++ rest) = c :: text := by
  have lead := blank_lineFeed padBlank
  cases members with
  | nil =>
    rw [membersText, List.append_assoc, skip_append lead, spelled]
    exact ⟨_, skip_visible visible⟩
  | cons next members =>
    rw [membersText, List.append_assoc, List.append_assoc, skip_append lead, spelled]
    exact ⟨_, skip_visible visible⟩

private theorem value_array {fuel depth : Nat} {c : Char} {text rest : List Char} (first : skip rest = c :: text)
    (filled : c ≠ ']') :
    value (fuel + 1) (depth + 1) ('[' :: rest) = (items fuel depth [] rest).map fun (items, rest) => (.arr items, rest) := by
  rw [value, skip_visible (by decide)]
  simp only [first]
  split
  · next same => exact absurd (List.cons.inj same).1 filled
  · rfl

private theorem value_object {fuel depth : Nat} {c : Char} {text rest : List Char} (first : skip rest = c :: text)
    (filled : c ≠ '\x7d') :
    value (fuel + 1) (depth + 1) ('\x7b' :: rest) =
      (fields fuel depth [] rest).map fun (fields, rest) => (.obj fields, rest) := by
  rw [value, skip_visible (by decide)]
  simp only [first]
  split
  · next same => exact absurd (List.cons.inj same).1 filled
  · rfl

private theorem blank_deeper {pad : String} (padBlank : Blank pad.toList) : Blank (pad ++ "  ").toList := by
  rw [String.toList_append]
  intro c member
  rcases List.mem_append.mp member with before | after
  · exact padBlank c before
  · obtain rfl : c = ' ' := by simpa using after
    rfl

private theorem readsBack_arr {depth : Nat} {pad : String} (padBlank : Blank pad.toList) {list : List Json}
    (fitting : ∀ item ∈ list, fits depth item) (members : ∀ item ∈ list, ReadsBack depth (pad ++ "  ") item) :
    ReadsBack (depth + 1) pad (.arr list) := by
  intro fuel rest ends enough
  cases list with
  | nil =>
    obtain ⟨fuel, rfl⟩ := fuel_succ (toList_emptyArray pad) enough
    rw [toList_emptyArray]
    rfl
  | cons item list =>
    have spelled : (indented pad (.arr (item :: list))).toList =
        '[' :: (membersText (pad ++ "  ") ((item :: list).map (indented (pad ++ "  "))) ++
          '\n' :: (pad.toList ++ [']'])) := by
      rw [indented, indentedItems_eq]
      exact toList_bracketed _ _ _ _ _
    obtain ⟨fuel, rfl⟩ := fuel_succ spelled enough
    -- the first item begins with a character of its own, so the array is not taken for an empty one
    obtain ⟨c, more, visible, seen, filled⟩ := visible_indented (pad ++ "  ") (fitting item List.mem_cons_self)
    obtain ⟨text, first⟩ := skip_membersText (blank_deeper padBlank) visible seen (list.map (indented (pad ++ "  ")))
      ('\n' :: (pad.toList ++ ']' :: rest))
    have read := @items_membersText depth (pad ++ "  ") (blank_deeper padBlank) pad.toList padBlank (item :: list) (by simp)
      members fuel (by rw [spelled] at enough; simp only [List.length_cons, List.length_append] at enough; omega) [] rest
    rw [spelled, List.cons_append, List.append_assoc, List.cons_append, List.append_assoc]
    rw [List.map_cons] at read ⊢
    refine (value_array first filled).trans ?_
    rw [read]
    rfl

private theorem readsBack_obj {depth : Nat} {pad : String} (padBlank : Blank pad.toList) {list : List (String × Json)}
    (distinct : (list.map (·.1)).Nodup) (members : ∀ field ∈ list, ReadsBack depth (pad ++ "  ") field.2) :
    ReadsBack (depth + 1) pad (.obj list) := by
  intro fuel rest ends enough
  cases list with
  | nil =>
    obtain ⟨fuel, rfl⟩ := fuel_succ (toList_emptyObject pad) enough
    rw [toList_emptyObject]
    rfl
  | cons field list =>
    have spelled : (indented pad (.obj (field :: list))).toList =
        '\x7b' :: (membersText (pad ++ "  ") (indentedFields (pad ++ "  ") (field :: list)) ++
          '\n' :: (pad.toList ++ ['\x7d'])) := by
      rw [indented]
      exact toList_bracketed _ _ _ _ _
    obtain ⟨fuel, rfl⟩ := fuel_succ spelled enough
    have visible : (quoted field.1 ++ ": " ++ indented (pad ++ "  ") field.2).toList =
        '"' :: (field.1.toList.flatMap escaped ++ '"' :: ':' :: ' ' :: (indented (pad ++ "  ") field.2).toList) := by
      simp [toList_quoted]
    obtain ⟨text, first⟩ := skip_membersText (blank_deeper padBlank) visible (by decide) (indentedFields (pad ++ "  ") list)
      ('\n' :: (pad.toList ++ '\x7d' :: rest))
    have read := @fields_membersText depth (pad ++ "  ") (blank_deeper padBlank) pad.toList padBlank (field :: list) (by simp)
      members fuel (by rw [spelled] at enough; simp only [List.length_cons, List.length_append] at enough; omega) []
      (by simpa using distinct) rest
    rw [spelled, List.cons_append, List.append_assoc, List.cons_append, List.append_assoc]
    refine (value_object first (by decide)).trans ?_
    exact congrArg (Except.map fun found => (Json.obj found.1, found.2)) read

/-- Every value that fits is read back. -/
theorem readsBack {depth : Nat} {pad : String} (padBlank : Blank pad.toList) (v : Json) (fitting : fits depth v) :
    ReadsBack depth pad v := by
  match v with
  | .null => exact readsBack_null depth pad
  | .bool b => exact readsBack_bool depth pad b
  | .int n => exact readsBack_int depth pad (of_decide_eq_true fitting)
  | .float _ => cases fitting
  | .str text => exact readsBack_str depth pad text
  | .arr list =>
    cases depth with
    | zero => cases fitting
    | succ depth =>
      have each : ∀ item ∈ list, fits depth item = true := by
        rw [fits, fitsItems_eq, List.all_eq_true] at fitting
        exact fitting
      exact readsBack_arr padBlank each fun item member => readsBack (blank_deeper padBlank) item (each item member)
  | .obj list =>
    cases depth with
    | zero => cases fitting
    | succ depth =>
      rw [fits, fitsFields_eq, Bool.and_eq_true, List.all_eq_true, decide_eq_true_eq] at fitting
      obtain ⟨distinct, each⟩ := fitting
      exact readsBack_obj padBlank distinct fun field member =>
        readsBack (blank_deeper padBlank) field.2 (each field member)
termination_by sizeOf v
decreasing_by
  · have := List.sizeOf_lt_of_mem member
    simp only [Json.arr.sizeOf_spec]
    omega
  · obtain ⟨name, value⟩ := field
    have := List.sizeOf_lt_of_mem member
    simp only [Json.obj.sizeOf_spec, Prod.mk.sizeOf_spec] at this ⊢
    omega

/-- A text that a value was written as is that value. -/
theorem parse_pretty {depth : Nat} {v : Json} (fitting : fits depth v) : parse depth v.pretty = .ok v := by
  have whole := @readsBack _ "" (by simp [Blank]) v fitting (2 * v.pretty.toList.length + 2) [] (by simp [Ends])
    (by rw [pretty]; omega)
  rw [List.append_nil] at whole
  simp only [parse]
  rw [show v.pretty.toList = (indented "" v).toList from rfl] at whole ⊢
  rw [whole]
  rfl

end DeclIndex.Json
