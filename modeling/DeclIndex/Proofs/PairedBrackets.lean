import DeclIndex.Bracket
import DeclIndex.Proofs.Readers

/-!
# Paired brackets

Between an opening bracket and the one that closes it stands a word in which brackets come in pairs, one inside of the other or one
behind the other. Such a word leaves a count as it was. On the other side, a text that closes brackets which were open before is a row of
such words, with a closing bracket between them for each. For parentheses, counting tells whether they come in pairs, and the pair that
is found in a text is the first.
-/

namespace DeclIndex.Bracket
open DeclIndex.Text

/-! ## Words -/

/-- A word whose brackets of one kind come in pairs. Other characters count for nothing. -/
inductive Paired (opening closing : Char) : List Char → Prop where
  | nil : Paired opening closing []
  | other {c : Char} {rest : List Char} (notOpening : c ≠ opening) (notClosing : c ≠ closing) (paired : Paired opening closing rest) :
      Paired opening closing (c :: rest)
  | pair {inner rest : List Char} (inside : Paired opening closing inner) (behind : Paired opening closing rest) :
      Paired opening closing (opening :: (inner ++ closing :: rest))

/-- A row of paired words with a closing bracket behind each but the last. -/
def Closes (opening closing : Char) : Nat → List Char → Prop
  | 0, text => Paired opening closing text
  | level + 1, text => ∃ inner rest, text = inner ++ closing :: rest ∧ Paired opening closing inner ∧ Closes opening closing level rest

section Paired

variable {opening closing c : Char} {level : Nat} {word other rest otherRest : List Char}

theorem Paired.append (paired : Paired opening closing word) (pairedToo : Paired opening closing rest) :
    Paired opening closing (word ++ rest) := by
  induction paired with
  | nil => exact pairedToo
  | other notOpening notClosing _ ih => exact .other notOpening notClosing ih
  | pair inside _ _ ih =>
    rw [List.cons_append, List.append_assoc, List.cons_append]
    exact .pair inside ih

theorem Closes.append (paired : Paired opening closing word) (closes : Closes opening closing level rest) :
    Closes opening closing level (word ++ rest) := by
  cases level with
  | zero => exact paired.append closes
  | succ level =>
    obtain ⟨inner, behind, rfl, inside, closes⟩ := closes
    exact ⟨word ++ inner, behind, by rw [List.append_assoc], paired.append inside, closes⟩

theorem Closes.cons_other (notOpening : c ≠ opening) (notClosing : c ≠ closing) (closes : Closes opening closing level rest) :
    Closes opening closing level (c :: rest) :=
  closes.append (.other notOpening notClosing .nil)

theorem Closes.cons_closing (closes : Closes opening closing level rest) : Closes opening closing (level + 1) (closing :: rest) :=
  ⟨[], rest, rfl, .nil, closes⟩

/-- An opening bracket makes a pair with the first of the closing ones. -/
theorem Closes.cons_opening (closes : Closes opening closing (level + 1) rest) : Closes opening closing level (opening :: rest) := by
  obtain ⟨inner, behind, rfl, inside, closes⟩ := closes
  have pair : Paired opening closing (opening :: (inner ++ [closing])) := .pair inside .nil
  simpa using closes.append pair

theorem Paired.exists_pair (paired : Paired opening closing word) (opens : word.head? = some opening) :
    ∃ inner rest, word = opening :: (inner ++ closing :: rest) ∧ Paired opening closing inner := by
  cases paired with
  | nil => cases opens
  | other notOpening _ _ => exact absurd (Option.some.inj opens) notOpening
  | pair inside _ => exact ⟨_, _, rfl, inside⟩

/-- An opening bracket is closed by one bracket only. -/
theorem Paired.unique (different : opening ≠ closing) (paired : Paired opening closing word) (pairedToo : Paired opening closing other)
    (same : word ++ closing :: rest = other ++ closing :: otherRest) : word = other := by
  induction paired generalizing other rest otherRest with
  | nil =>
    cases pairedToo with
    | nil => rfl
    | other _ notClosing _ => exact absurd (List.cons.inj same).1.symm notClosing
    | pair _ _ => exact absurd (List.cons.inj same).1.symm different
  | other notOpening notClosing _ ih =>
    cases pairedToo with
    | nil => exact absurd (List.cons.inj same).1 notClosing
    | other _ _ pairedToo =>
      obtain ⟨rfl, sameRest⟩ := List.cons.inj same
      rw [ih pairedToo sameRest]
    | pair _ _ => exact absurd (List.cons.inj same).1 notOpening
  | pair _ _ ihInside ihBehind =>
    cases pairedToo with
    | nil => exact absurd (List.cons.inj same).1 different
    | other notOpening _ _ => exact absurd (List.cons.inj same).1.symm notOpening
    | pair inside behind =>
      -- the pairs at the front are the same, so what is behind them is, too
      simp only [List.cons_append, List.append_assoc, List.cons.injEq, true_and] at same
      obtain rfl := ihInside inside same
      obtain rfl := ihBehind behind (List.cons.inj (List.append_cancel_left same)).2
      rfl

end Paired

/-! ## Counting -/

/-- As many parentheses are closed as opened, and none is closed before it is opened. -/
def Parenthesized (text : List Char) : Prop :=
  text.count '(' = text.count ')' ∧ ∀ front ∈ text.inits, front.count ')' ≤ front.count '('

instance (text : List Char) : Decidable (Parenthesized text) :=
  inferInstanceAs (Decidable (_ ∧ _))

section Counting

variable {level : Nat} {text word : List Char}

/-- A text that closes some more parentheses than it opens, and never more than that, is a row of paired words. -/
theorem closes_of_counts (whole : text.count ')' = level + text.count '(')
    (fronts : ∀ front, front <+: text → front.count ')' ≤ level + front.count '(') : Closes '(' ')' level text := by
  induction text generalizing level with
  | nil =>
    obtain rfl : level = 0 := by simpa using whole.symm
    exact Paired.nil
  | cons c rest ih =>
    -- the level that the first character leaves is the one for the rest
    have onward (next : Nat) (moved : next + [c].count ')' = level + [c].count '(') : Closes '(' ')' next rest := by
      have split (d : Char) (front : List Char) : (c :: front).count d = [c].count d + front.count d := by
        rw [← List.singleton_append, List.count_append]
      refine ih ?_ fun front inside => ?_
      · rw [split ')' rest, split '(' rest] at whole
        omega
      · have counted := fronts (c :: front) (List.cons_prefix_cons.mpr ⟨rfl, inside⟩)
        rw [split ')' front, split '(' front] at counted
        omega
    by_cases closing : c = ')'
    · subst closing
      cases level with
      | zero =>
        have here := fronts [')'] (by simp)
        simp at here
      | succ level => exact (onward level (by simp)).cons_closing
    · by_cases opening : c = '('
      · subst opening
        exact (onward (level + 1) (by simp)).cons_opening
      · exact (onward level (by simp [closing, opening])).cons_other opening closing

theorem Paired.count_eq (paired : Paired '(' ')' word) : word.count '(' = word.count ')' := by
  induction paired with
  | nil => rfl
  | other notOpening notClosing _ ih => simpa [notOpening, notClosing] using ih
  | pair _ _ ihInside ihBehind =>
    simp (disch := decide) only [List.count_cons_self, List.count_cons_of_ne, List.count_append]
    omega

theorem Paired.count_front_le (paired : Paired '(' ')' word) {front : List Char} (inside : front <+: word) :
    front.count ')' ≤ front.count '(' := by
  induction paired generalizing front with
  | nil => simp [List.prefix_nil.mp inside]
  | other notOpening notClosing _ ih =>
    cases front with
    | nil => simp
    | cons c front =>
      obtain ⟨rfl, within⟩ := List.cons_prefix_cons.mp inside
      simpa [notOpening, notClosing] using ih within
  | pair pairedInner _ ihInside ihBehind =>
    cases front with
    | nil => simp
    | cons c front =>
      obtain ⟨rfl, back, joined⟩ := List.cons_prefix_cons.mp inside
      -- the front ends within the pair, with it or behind it
      rcases List.append_eq_append_iff.mp joined with ⟨more, split, _⟩ | ⟨more, rfl, split⟩
      · have counted := ihInside ⟨more, split.symm⟩
        simp (disch := decide) only [List.count_cons_self, List.count_cons_of_ne]
        omega
      · have counted := pairedInner.count_eq
        cases more with
        | nil =>
          simp (disch := decide) only [List.append_nil, List.count_cons_self, List.count_cons_of_ne]
          omega
        | cons d more =>
          obtain ⟨rfl, behind⟩ := List.cons.inj split
          have countedBehind := ihBehind ⟨back, behind.symm⟩
          simp (disch := decide) only [List.count_cons_self, List.count_cons_of_ne, List.count_append]
          omega

/-- Counting tells whether parentheses come in pairs. -/
theorem parenthesized_iff_paired : Parenthesized text ↔ Paired '(' ')' text := by
  constructor
  · rintro ⟨whole, fronts⟩
    refine closes_of_counts (by rw [whole, Nat.zero_add]) fun front inside => ?_
    rw [Nat.zero_add]
    exact fronts front ((List.mem_inits _ _).mpr inside)
  · intro paired
    exact ⟨paired.count_eq, fun front inside => paired.count_front_le ((List.mem_inits _ _).mp inside)⟩

end Counting

/-! ## Parentheses -/

/-- A text is cut at its first opening parenthesis and at the one that closes it. -/
structure CutAtParens (text before inner after : List Char) : Prop where
  joined : text = before ++ '(' :: (inner ++ ')' :: after)
  unopened : '(' ∉ before
  paired : Paired '(' ')' inner

section Parens

variable {level : Nat} {c : Char} {text word inner after : List Char}

theorem closeParen?_opening (level : Nat) (rest : List Char) :
    closeParen? level ('(' :: rest) = (closeParen? (level + 1) rest).map fun (inner, after) => ('(' :: inner, after) := by
  simp [closeParen?]

theorem closeParen?_closing (level : Nat) (rest : List Char) :
    closeParen? (level + 1) (')' :: rest) = (closeParen? level rest).map fun (inner, after) => (')' :: inner, after) := by
  simp [closeParen?]

theorem closeParen?_other (notOpening : c ≠ '(') (notClosing : c ≠ ')') (level : Nat) (rest : List Char) :
    closeParen? level (c :: rest) = (closeParen? level rest).map fun (inner, after) => (c :: inner, after) := by
  simp [closeParen?, notOpening, notClosing]

/-- A paired word is passed at any level. -/
theorem closeParen?_paired (paired : Paired '(' ')' word) (level : Nat) (text : List Char) :
    closeParen? level (word ++ text) = (closeParen? level text).map fun (inner, after) => (word ++ inner, after) := by
  induction paired generalizing level text with
  | nil => simp
  | other notOpening notClosing _ ih =>
    rw [List.cons_append, closeParen?_other notOpening notClosing, ih, Option.map_map]
    rfl
  | pair _ _ ihInside ihBehind =>
    rw [List.cons_append, closeParen?_opening, List.append_assoc, ihInside, List.cons_append, closeParen?_closing, ihBehind]
    simp [Function.comp_def]

theorem closes_of_closeParen? (found : closeParen? level text = some (inner, after)) :
    text = inner ++ ')' :: after ∧ Closes '(' ')' level inner := by
  induction text generalizing level inner with
  | nil => cases found
  | cons c rest ih =>
    -- a step that does not end the search keeps its character and goes on with the rest
    have step (next : Nat) (moved : closeParen? level (c :: rest) = (closeParen? next rest).map fun (inner, after) => (c :: inner, after))
        (longer : ∀ within, Closes '(' ')' next within → Closes '(' ')' level (c :: within)) :
        c :: rest = inner ++ ')' :: after ∧ Closes '(' ')' level inner := by
      rw [moved] at found
      obtain ⟨⟨within, behind⟩, foundRest, same⟩ := Option.map_eq_some_iff.mp found
      cases same
      obtain ⟨rfl, closes⟩ := ih foundRest
      exact ⟨rfl, longer within closes⟩
    by_cases closing : c = ')'
    · subst closing
      cases level with
      | zero =>
        cases found
        exact ⟨rfl, .nil⟩
      | succ level => exact step level (closeParen?_closing level rest) fun _ closes => closes.cons_closing
    · by_cases opening : c = '('
      · subst opening
        exact step (level + 1) (closeParen?_opening level rest) fun _ closes => closes.cons_opening
      · exact step level (closeParen?_other opening closing level rest) fun _ closes => closes.cons_other opening closing

theorem parens?_opening {before : List Char} (unopened : '(' ∉ before) (rest : List Char) :
    parens? (before ++ '(' :: rest) = (closeParen? 0 rest).map fun (inner, after) => ⟨before, inner, after⟩ := by
  rw [parens?, List.dropWhile_append_of_pos (passes_of_notMem unopened), List.takeWhile_append_of_pos (passes_of_notMem unopened)]
  simp

theorem parens?_eq_some_iff {parens : Parens} :
    parens? text = some parens ↔ CutAtParens text parens.before parens.inner parens.after := by
  constructor
  · intro found
    have opened : '(' ∈ text := by
      by_contra unopened
      rw [parens?, List.dropWhile_eq_nil_iff.mpr (passes_of_notMem unopened)] at found
      cases found
    obtain ⟨before, rest, rfl, unopened⟩ := List.eq_append_cons_of_mem opened
    rw [parens?_opening unopened] at found
    obtain ⟨⟨inner, after⟩, closed, rfl⟩ := Option.map_eq_some_iff.mp found
    obtain ⟨rfl, paired⟩ := closes_of_closeParen? closed
    exact ⟨rfl, unopened, paired⟩
  · rintro ⟨joined, unopened, paired⟩
    rw [joined, parens?_opening unopened, closeParen?_paired paired]
    simp [closeParen?]

theorem parens?_eq_none_iff : parens? text = none ↔ ¬ ∃ before inner after, CutAtParens text before inner after := by
  rw [Option.eq_none_iff_forall_ne_some]
  constructor
  · rintro missing ⟨before, inner, after, cut⟩
    exact missing ⟨before, inner, after⟩ (parens?_eq_some_iff.mpr cut)
  · rintro uncut parens found
    exact uncut ⟨_, _, _, parens?_eq_some_iff.mp found⟩

theorem parens?_append {before inner : List Char} (unopened : '(' ∉ before) (balanced : Parenthesized inner) (after : List Char) :
    parens? (before ++ '(' :: (inner ++ ')' :: after)) = some ⟨before, inner, after⟩ :=
  parens?_eq_some_iff.mpr ⟨rfl, unopened, parenthesized_iff_paired.mp balanced⟩

end Parens

end DeclIndex.Bracket
