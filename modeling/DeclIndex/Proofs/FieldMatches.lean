import DeclIndex.Proofs.Substrings
import DeclIndex.Search.Score

/-!
# What matches a query

A field is matched by four tests that overlap, on two ways to cut a text. Together they come to two conditions: the query stands in the
text, underscores read as spaces, or it has several words, none of them with a separator, and each stands in the text. Points for tokens
that begin with the query never decide, since the query then stands in the text.
-/

namespace DeclIndex.Search
open DeclIndex.Text

/-- The words of a query that has several are found in a text, each without a separator of tokens. -/
def WordsFound (query text : List Char) : Prop :=
  (∃ c ∈ query, isBlank c = true) ∧
    ∀ word ∈ queryWords query, (∀ c ∈ word, c ≠ '_' ∧ c ≠ '-' ∧ c ≠ '.') ∧ word <:+: text

/-- A query stands in a text, underscores read as spaces, or all its words are found there. -/
def Matches (query text : List Char) : Prop :=
  spaced query <:+: spaced text ∨ WordsFound query text

variable {weight : Int} {query text word : List Char}

/-! ## The query as a whole -/

theorem isIn_iff : isIn query text = true ↔ spaced query <:+: spaced text := by
  rw [isIn, Bool.or_eq_true, occurs_iff, occurs_iff]
  exact or_iff_right_of_imp fun inside => inside.map _

theorem substringTerms_ne_nil_iff : substringTerms weight query text ≠ [] ↔ spaced query <:+: spaced text := by
  rw [substringTerms, ← isIn_iff]
  split <;> simp_all

/-! ## Words -/

theorem wordTerms_of_single (single : ∀ c ∈ query, isBlank c = false) :
    wordTerms weight query text = prefixTerms weight query (tokens text) := by
  rw [wordTerms, queryWords, pieces_of_free single]

theorem wordTerms_of_blank (several : ∃ c ∈ query, isBlank c = true) :
    wordTerms weight query text = wordsTerms weight (queryWords query) (tokens text) := by
  have two : 2 ≤ (queryWords query).length := two_le_length_pieces several
  rw [wordTerms]
  split
  · next alone => simp [alone] at two
  · rfl

theorem exists_token_of_prefixTerms {tokens : List (List Char)} (counted : prefixTerms weight word tokens ≠ []) :
    ∃ token ∈ tokens, word <+: token := by
  rw [prefixTerms] at counted
  split at counted
  · exact absurd rfl counted
  · obtain ⟨term, member⟩ := List.exists_mem_of_ne_nil _ counted
    obtain ⟨token, kept, _⟩ := List.mem_flatMap.mp member
    obtain ⟨there, passes⟩ := List.mem_filter.mp kept
    rw [Bool.and_eq_true, List.isPrefixOf_iff_prefix] at passes
    exact ⟨token, there, passes.1⟩

/-- Tokens that begin with a word show that it stands in the text. -/
theorem infix_of_prefixTerms (counted : prefixTerms weight word (tokens text) ≠ []) : word <:+: text := by
  obtain ⟨token, member, begins⟩ := exists_token_of_prefixTerms counted
  exact begins.isInfix.trans (infix_of_mem_pieces token member)

theorem isTokenBreak_eq_false_iff {c : Char} : isTokenBreak c = false ↔ isBlank c = false ∧ c ≠ '_' ∧ c ≠ '-' ∧ c ≠ '.' := by
  simp [isTokenBreak, and_assoc]

theorem allFound_iff :
    allFound (queryWords query) (tokens text) = true ↔
      ∀ word ∈ queryWords query, (∀ c ∈ word, c ≠ '_' ∧ c ≠ '-' ∧ c ≠ '.') ∧ word <:+: text := by
  rw [allFound, List.all_eq_true]
  refine forall₂_congr fun word member => ?_
  have unbroken : ∀ c ∈ word, isBlank c = false := free_of_mem_pieces word member
  have same : (∀ c ∈ word, isTokenBreak c = false) ↔ ∀ c ∈ word, c ≠ '_' ∧ c ≠ '-' ∧ c ≠ '.' :=
    forall₂_congr fun c there => by rw [isTokenBreak_eq_false_iff, and_iff_right (unbroken c there)]
  rw [List.any_eq_true, ← same]
  simp only [occurs_iff]
  exact exists_infix_piece_iff

theorem wordsTerms_ne_nil_iff {words tokens : List (List Char)} : wordsTerms weight words tokens ≠ [] ↔ allFound words tokens = true := by
  rw [wordsTerms]
  split <;> simp_all

/-! ## Fields -/

theorem fieldTerms_ne_nil_iff (weight : Int) : fieldTerms weight query text ≠ [] ↔ Matches query text := by
  rw [fieldTerms, Ne, List.append_eq_nil_iff, not_and_or, ← Ne, ← Ne, substringTerms_ne_nil_iff, Matches]
  by_cases several : ∃ c ∈ query, isBlank c = true
  · rw [wordTerms_of_blank several, wordsTerms_ne_nil_iff, allFound_iff, WordsFound, and_iff_right several]
  · have single : ∀ c ∈ query, isBlank c = false := by simpa using several
    rw [wordTerms_of_single single, WordsFound]
    refine or_congr_right' fun apart => iff_of_false (fun counted => ?_) fun found => several found.1
    exact apart ((infix_of_prefixTerms counted).map _)

/-! ## Weights -/

/-- The points of a term are the weight, at most five hundred times. -/
def Term.IsScaled (weight : Int) (term : Term) : Prop :=
  ∃ factor : Nat, factor ≤ 500 ∧ term.size = weight * factor

theorem isScaled_of_mem_points {term : Term} (factor : Nat) (few : factor ≤ 500) (member : term ∈ [Term.points (weight * factor)]) :
    term.IsScaled weight := by
  rw [List.mem_singleton.mp member]
  exact ⟨factor, few, rfl⟩

theorem isScaled_of_mem_placeTerms {term : Term} (member : term ∈ placeTerms weight query text) : term.IsScaled weight := by
  rw [placeTerms] at member
  split at member
  · exact isScaled_of_mem_points 500 (by omega) member
  · split at member
    · exact isScaled_of_mem_points 300 (by omega) member
    · split at member
      · exact isScaled_of_mem_points 250 (by omega) member
      · split at member
        · exact isScaled_of_mem_points 200 (by omega) member
        · cases member

theorem isScaled_coverTerm : (coverTerm weight query text).IsScaled weight := by
  rw [coverTerm]
  split <;> exact ⟨100, by omega, rfl⟩

theorem isScaled_of_mem_earlyTerms {term : Term} (member : term ∈ earlyTerms weight query text) : term.IsScaled weight := by
  rw [earlyTerms] at member
  split at member
  · next index _ => exact isScaled_of_mem_points (50 - 2 * index) (by omega) member
  · cases member

theorem isScaled_of_mem_substringTerms {term : Term} (member : term ∈ substringTerms weight query text) : term.IsScaled weight := by
  rw [substringTerms] at member
  split at member
  · rcases List.mem_append.mp member with first | later
    · rcases List.mem_cons.mp first with rfl | placed
      · exact ⟨100, by omega, rfl⟩
      · exact isScaled_of_mem_placeTerms placed
    · rcases List.mem_cons.mp later with rfl | early
      · exact isScaled_coverTerm
      · exact isScaled_of_mem_earlyTerms early
  · cases member

theorem isScaled_of_mem_wordsTerms {words tokens : List (List Char)} {term : Term} (member : term ∈ wordsTerms weight words tokens) :
    term.IsScaled weight := by
  rw [wordsTerms] at member
  split at member
  · rcases List.mem_cons.mp member with rfl | ordered
    · exact ⟨400, by omega, rfl⟩
    · split at ordered
      · exact isScaled_of_mem_points 200 (by omega) ordered
      · cases ordered
  · cases member

theorem isScaled_of_mem_prefixTerms {tokens : List (List Char)} {term : Term} (member : term ∈ prefixTerms weight word tokens) :
    term.IsScaled weight := by
  rw [prefixTerms] at member
  split at member
  · cases member
  · obtain ⟨token, _, inside⟩ := List.mem_flatMap.mp member
    rcases List.mem_cons.mp inside with rfl | second
    · exact ⟨20, by omega, rfl⟩
    · exact ⟨10, by omega, by rw [List.mem_singleton.mp second]; rfl⟩

theorem isScaled_of_mem_fieldTerms {term : Term} (member : term ∈ fieldTerms weight query text) : term.IsScaled weight := by
  rcases List.mem_append.mp member with whole | words
  · exact isScaled_of_mem_substringTerms whole
  · rw [wordTerms] at words
    split at words
    · exact isScaled_of_mem_prefixTerms words
    · exact isScaled_of_mem_wordsTerms words

/-- Five hundred times the weight is the most that a field can add in one term. -/
theorem isFinite_of_isScaled {term : Term} (scaled : term.IsScaled weight) (finite : (Term.points (weight * 500)).isFinite = true) :
    term.isFinite = true := by
  obtain ⟨factor, few, same⟩ := scaled
  have most : term.size.natAbs ≤ (weight * 500).natAbs := by
    rw [same, Int.natAbs_mul, Int.natAbs_mul, Int.natAbs_natCast]
    exact Nat.mul_le_mul_left _ few
  rw [Term.isFinite, decide_eq_true_eq] at finite ⊢
  exact Nat.lt_of_le_of_lt most finite

/-! ## Answers -/

/-- What is answered for a field: whether it matches the query, or nothing, for a field that does and a weight that is out of range. -/
def Answers (weight : Int) (query text : List Char) : Option Scored → Prop
  | some scored => scored.matched = true ↔ Matches query text
  | none => Matches query text ∧ (Term.points (weight * 500)).isFinite = false

/-- A field is said to match exactly if the query stands in it, underscores read as spaces, or has several words that are all found in
it. A weight out of range is noticed only for a field that matches. Tokens that begin with a word never make a match of their own. -/
theorem scoreField_answers (weight : Int) (query text : List Char) :
    Answers weight query text (scoreField? weight query text) ∧
      ∀ word, prefixTerms weight word (tokens text) ≠ [] → word <:+: text := by
  refine ⟨?_, fun word => infix_of_prefixTerms⟩
  rw [scoreField?]
  by_cases finite : (fieldTerms weight query text).all Term.isFinite = true
  · rw [if_pos finite, Answers, ← fieldTerms_ne_nil_iff weight]
    simp [scoreField]
  · rw [if_neg finite, Answers]
    constructor
    · rw [← fieldTerms_ne_nil_iff weight]
      intro none
      simp [none] at finite
    · by_contra inRange
      refine finite (List.all_eq_true.mpr fun term member => ?_)
      exact isFinite_of_isScaled (isScaled_of_mem_fieldTerms member) (by simpa using inRange)

/-- A field that equals the query, with a weight that no score can hold. -/
theorem scoreField_outOfRange :
    Matches "ab".toList "ab".toList ∧ (scoreField? (Nat.pow 2 1024 : Nat) "ab".toList "ab".toList).isNone = true := by
  refine ⟨Or.inl List.infix_rfl, ?_⟩
  decide +kernel

end DeclIndex.Search
