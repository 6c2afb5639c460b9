import DeclIndex.Proofs.FieldMatches
import Mathlib.Algebra.Order.BigOperators.Group.List
import Mathlib.Algebra.Order.Field.Rat
import Mathlib.Tactic.Linarith
import Mathlib.Tactic.Positivity
import Mathlib.Tactic.Ring

/-!
# Exact matches

With exact arithmetic, a field that equals the query has a better score than any that does not. It has 750 points per unit of weight from
the query as a whole, where any other field stays below 550. For a query of one word, six tokens that begin with it add at most 180. For a
query of several words, the words add 600 to the field that equals the query as soon as they add anything to another.
-/

namespace DeclIndex.Search
open DeclIndex.Text

/-- The exact value of some terms together. -/
def total (terms : List Term) : Rat :=
  (terms.map Term.toRat).sum

section Total

@[simp] theorem toRat_points (n : Int) : (Term.points n).toRat = n := rfl

@[simp] theorem toRat_share (n : Int) (part whole : Nat) : (Term.share n part whole).toRat = n * (part / whole) := rfl

@[simp] theorem total_nil : total [] = 0 := rfl

@[simp] theorem total_cons (term : Term) (terms : List Term) : total (term :: terms) = term.toRat + total terms := by
  simp [total]

@[simp] theorem total_append (terms more : List Term) : total (terms ++ more) = total terms + total more := by
  simp [total]

theorem foldl_toRat (terms : List Term) (start : Rat) :
    terms.foldl (fun sum term => sum + term.toRat) start = start + total terms := by
  induction terms generalizing start with
  | nil => simp
  | cons term rest ih => rw [List.foldl_cons, ih, total_cons, add_assoc]

end Total

variable {weight : Int} {query text equal : List Char}

theorem exactScore_eq : exactScore weight query text = total (substringTerms weight query text) + total (wordTerms weight query text) := by
  rw [exactScore, foldl_toRat, fieldTerms, total_append, zero_add]

/-! ## The query as a whole -/

theorem length_spaced (text : List Char) : (spaced text).length = text.length :=
  List.length_map ..

/-- A field that equals the query is an exact match from its first character on. -/
theorem total_substringTerms_exact (asked : query ≠ []) (same : spaced equal = spaced query) :
    total (substringTerms weight query equal) = 750 * weight := by
  have length : equal.length = query.length := by rw [← length_spaced, same, length_spaced]
  have positive : (query.length : Rat) ≠ 0 := by simpa using asked
  have written : equal.isEmpty = false := by
    cases equal with
    | nil => exact absurd (List.length_eq_zero_iff.mp length.symm) asked
    | cons c rest => rfl
  have inside : isIn query equal = true := isIn_iff.mpr (same ▸ List.infix_rfl)
  have early : earlyTerms weight query equal = [.points (weight * 50)] := by
    rw [earlyTerms, same, indexOf?_self]
    rfl
  rw [substringTerms, if_pos inside, placeTerms, if_pos (by simp [same]), coverTerm, written, early, length]
  simp [positive]
  ring

theorem total_placeTerms_le (positive : 0 < weight) (other : spaced text ≠ spaced query) :
    total (placeTerms weight query text) ≤ 300 * weight := by
  have positive : (0 : Rat) < weight := by exact_mod_cast positive
  have literal : text ≠ query := fun same => other (same ▸ rfl)
  rw [placeTerms, if_neg (by simp [literal, other])]
  split_ifs <;> simp <;> linarith

/-- A field that holds the query and more is covered by it in part only. -/
theorem toRat_coverTerm_lt (positive : 0 < weight) (other : spaced text ≠ spaced query) (inside : spaced query <:+: spaced text) :
    (coverTerm weight query text).toRat < 100 * weight := by
  have positive : (0 : Rat) < weight := by exact_mod_cast positive
  have shorter : query.length < text.length := by
    have lengths := inside.length_le
    have different : (spaced query).length ≠ (spaced text).length := fun same => other (inside.eq_of_length same).symm
    rw [length_spaced, length_spaced] at lengths different
    omega
  have written : text.isEmpty = false := by
    cases text with
    | nil => simp at shorter
    | cons c rest => rfl
  have part : (query.length : Rat) / text.length < 1 := by
    rw [div_lt_one (by exact_mod_cast Nat.lt_of_le_of_lt (Nat.zero_le _) shorter)]
    exact_mod_cast shorter
  rw [coverTerm, written]
  simp only [Bool.false_eq_true, if_false, toRat_share, Int.cast_mul, Int.cast_ofNat]
  nlinarith

theorem total_earlyTerms_le (positive : 0 < weight) : total (earlyTerms weight query text) ≤ 50 * weight := by
  have positive : (0 : Rat) < weight := by exact_mod_cast positive
  rw [earlyTerms]
  split
  · next index _ =>
    have most : ((50 - 2 * index : Nat) : Rat) ≤ 50 := by exact_mod_cast Nat.sub_le 50 (2 * index)
    simp
    nlinarith
  · simp
    linarith

/-- Any other field stays well below an exact match. -/
theorem total_substringTerms_lt (positive : 0 < weight) (other : spaced text ≠ spaced query) :
    total (substringTerms weight query text) < 550 * weight := by
  have whole : (0 : Rat) < weight := by exact_mod_cast positive
  rw [substringTerms]
  split
  · next inside =>
    have placed := total_placeTerms_le positive other
    have covered := toRat_coverTerm_lt positive other (isIn_iff.mp inside)
    have early : total (earlyTerms weight query text) ≤ 50 * weight := total_earlyTerms_le positive
    simp only [total_append, total_cons, toRat_points, Int.cast_mul, Int.cast_ofNat]
    linarith
  · simp
    linarith

/-! ## Words -/

theorem total_prefixTerms_le (positive : 0 < weight) (word : List Char) (tokens : List (List Char)) :
    total (prefixTerms weight word tokens) ≤ 30 * weight * tokens.countP (word.isPrefixOf ·) := by
  have positive : (0 : Rat) < weight := by exact_mod_cast positive
  rw [prefixTerms]
  split
  · rw [total_nil]
    positivity
  · induction tokens with
    | nil => simp
    | cons token tokens ih =>
      rw [List.filter_cons, List.countP_cons]
      by_cases begins : word.isPrefixOf token = true
      · have part : (word.length : Rat) / token.length ≤ 1 := by
          refine div_le_one_of_le₀ ?_ (Nat.cast_nonneg _)
          exact_mod_cast (List.isPrefixOf_iff_prefix.mp begins).length_le
        rw [if_pos begins]
        split
        · simp only [List.flatMap_cons, total_append, total_cons, total_nil, toRat_points, toRat_share, Int.cast_mul, Int.cast_ofNat,
            Nat.cast_add, Nat.cast_one]
          nlinarith
        · push_cast
          nlinarith
      · rw [if_neg begins, if_neg (by simp [begins]), add_zero]
        exact ih

theorem toRat_nonneg {term : Term} (positive : 0 < weight) (scaled : term.IsScaled weight) : 0 ≤ term.toRat := by
  obtain ⟨factor, _, same⟩ := scaled
  have points : (0 : Rat) ≤ term.size := by
    rw [same]
    exact_mod_cast Int.mul_nonneg positive.le (Int.natCast_nonneg factor)
  cases term with
  | points n => exact points
  | share n part whole => exact mul_nonneg points (by positivity)

theorem total_nonneg {terms : List Term} (positive : 0 < weight) (scaled : ∀ term ∈ terms, term.IsScaled weight) : 0 ≤ total terms := by
  refine List.sum_nonneg fun value member => ?_
  obtain ⟨term, inside, rfl⟩ := List.mem_map.mp member
  exact toRat_nonneg positive (scaled term inside)

theorem inOrder_self (words : List (List Char)) : inOrder words words = true := by
  induction words with
  | nil => rfl
  | cons word words ih =>
    have here : occurs word word = true := occurs_iff.mpr List.infix_rfl
    simp [inOrder, here, ih]

theorem tokens_spaced (text : List Char) : tokens (spaced text) = tokens text := by
  refine pieces_map (fun c => ?_) fun c letter => ?_
  · split
    · next underscore =>
      subst underscore
      rfl
    · rfl
  · rw [if_neg (isTokenBreak_eq_false_iff.mp letter).2.1]

/-- Words without separators are the tokens of every field that equals the query. -/
theorem tokens_exact (plain : ∀ word ∈ queryWords query, ∀ c ∈ word, c ≠ '_' ∧ c ≠ '-' ∧ c ≠ '.')
    (same : spaced equal = spaced query) : tokens equal = queryWords query := by
  rw [← tokens_spaced equal, same, tokens_spaced]
  refine pieces_congr fun c member => ?_
  by_cases blank : isBlank c = true
  · simp [isTokenBreak, blank]
  · have visible : isBlank c = false := by simpa using blank
    obtain ⟨front, rest, split⟩ := List.append_of_mem member
    have alone : ∀ d ∈ [c], isBlank d = false := by simpa using visible
    have there : [c] <:+: query := ⟨front, rest, by simp [split]⟩
    obtain ⟨word, inWords, inside⟩ := exists_mem_pieces alone there
    rw [visible, isTokenBreak_eq_false_iff]
    exact ⟨visible, plain word inWords c (inside.subset (by simp))⟩

/-- The words of a query add no more to a field than to one that equals the query. -/
theorem total_wordsTerms_le (positive : 0 < weight) (same : spaced equal = spaced query) (text : List Char) :
    total (wordsTerms weight (queryWords query) (tokens text)) ≤ total (wordsTerms weight (queryWords query) (tokens equal)) := by
  by_cases found : allFound (queryWords query) (tokens text) = true
  · -- words that are found have no separator, so they are the tokens of the equal field, in order
    have whole : (0 : Rat) < weight := by exact_mod_cast positive
    have all : allFound (queryWords query) (queryWords query) = true :=
      List.all_eq_true.mpr fun word member => List.any_eq_true.mpr ⟨word, member, occurs_iff.mpr List.infix_rfl⟩
    rw [tokens_exact (fun word member => (allFound_iff.mp found word member).1) same, wordsTerms, wordsTerms, if_pos found, if_pos all,
      if_pos (inOrder_self _)]
    split_ifs <;> simp
    linarith
  · rw [wordsTerms, if_neg found, total_nil]
    exact total_nonneg positive fun term => isScaled_of_mem_wordsTerms

/-- With exact arithmetic and a positive weight, a field that equals the query, literally or with underscores read as spaces, has a better
score than any that does not, if the query has several words or at most six tokens of the other field begin with it. -/
theorem exactScore_lt_exactMatch (positive : 0 < weight) (asked : query ≠ []) (same : equal = query ∨ spaced equal = spaced query)
    (other : ¬ (text = query ∨ spaced text = spaced query))
    (few : (∃ c ∈ query, isBlank c = true) ∨ (tokens text).countP (query.isPrefixOf ·) ≤ 6) :
    exactScore weight query text < exactScore weight query equal := by
  have same : spaced equal = spaced query := same.elim (congrArg spaced) id
  -- what the words of the query add to the other field must stay within the 200 points by which the equal one leads
  have below := total_substringTerms_lt positive (not_or.mp other).2
  have whole : (0 : Rat) < weight := by exact_mod_cast positive
  rw [exactScore_eq, exactScore_eq, total_substringTerms_exact asked same]
  by_cases several : ∃ c ∈ query, isBlank c = true
  · have words := total_wordsTerms_le positive same text
    rw [wordTerms_of_blank several, wordTerms_of_blank several]
    linarith
  · have single : ∀ c ∈ query, isBlank c = false := by simpa using several
    have six : ((tokens text).countP (query.isPrefixOf ·) : Rat) ≤ 6 := by exact_mod_cast few.resolve_left several
    have begun := total_prefixTerms_le positive query (tokens text)
    have gain : 0 ≤ total (wordTerms weight query equal) := total_nonneg positive fun term member =>
      isScaled_of_mem_fieldTerms (List.mem_append_right _ member)
    rw [wordTerms_of_single single]
    nlinarith

/-- A field of six tokens, all equal to the query. -/
theorem exactScore_lt_exactMatch_repeated :
    let query := "add".toList
    let text := "add_add.add-add add_add".toList
    (tokens text).countP (query.isPrefixOf ·) = 6 ∧ exactScore 10 query text < exactScore 10 query query := by
  intro query text
  have six : (tokens text).countP (query.isPrefixOf ·) = 6 := by decide +kernel
  exact ⟨six, exactScore_lt_exactMatch (by decide) (by decide) (Or.inl rfl) (by decide) (Or.inr six.le)⟩

end DeclIndex.Search
