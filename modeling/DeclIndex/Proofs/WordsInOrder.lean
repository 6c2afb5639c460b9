import DeclIndex.Proofs.Substrings
import DeclIndex.Search.Score
import Mathlib.Data.List.NodupEquivFin

/-!
# Words in order

The words of a query are looked for one after the other, each in the first token behind that of the word before, and no choice is ever
taken back. Nothing is missed: a token that is taken early leaves more tokens to the words that follow. So the words are found exactly
if there are places for all of them, in any way.
-/

namespace DeclIndex.Search
open DeclIndex.Text

variable {word token : List Char} {words tokens : List (List Char)}

/-! ## Token by token -/

theorem inOrder_cons_of_fits (fits : word <:+: token) : inOrder (word :: words) (token :: tokens) = inOrder words tokens := by
  simp [inOrder, occurs_iff.mpr fits]

theorem inOrder_cons_of_misses (misses : ¬ word <:+: token) :
    inOrder (word :: words) (token :: tokens) = inOrder (word :: words) tokens := by
  have skipped : occurs word token = false := Bool.eq_false_iff.mpr (mt occurs_iff.mp misses)
  simp [inOrder, skipped]

/-! ## Places -/

section Places

variable {α β : Type} {fits : α → β → Prop} {a : α} {more : List α} {places : List β}

theorem sublistForall₂_of_cons (found : List.SublistForall₂ fits (a :: more) places) : List.SublistForall₂ fits more places := by
  obtain ⟨taken, all, inside⟩ := List.sublistForall₂_iff.mp found
  cases all with
  | cons _ rest => exact List.sublistForall₂_iff.mpr ⟨_, rest, (List.sublist_cons_self _ _).trans inside⟩

/-- Members of two lists that fit in order are at strictly increasing places of the second one. -/
theorem sublistForall₂_iff_exists_strictMono :
    List.SublistForall₂ fits more places ↔
      ∃ place : Fin more.length → Fin places.length, StrictMono place ∧ ∀ index, fits (more.get index) (places.get (place index)) := by
  rw [List.sublistForall₂_iff]
  constructor
  · rintro ⟨taken, all, inside⟩
    obtain ⟨place, same⟩ := List.sublist_iff_exists_fin_orderEmbedding_get_eq.mp inside
    have length : more.length = taken.length := all.length_eq
    refine ⟨fun index => place (index.cast length), fun index later earlier => place.strictMono earlier, fun index => ?_⟩
    rw [← same]
    exact all.get index.isLt (index.cast length).isLt
  · rintro ⟨place, increasing, fit⟩
    refine ⟨List.ofFn fun index => places.get (place index), ?_, ?_⟩
    · refine List.forall₂_iff_get.mpr ⟨by simp, fun index inMore _ => ?_⟩
      simpa using fit ⟨index, inMore⟩
    · refine List.sublist_iff_exists_fin_orderEmbedding_get_eq.mpr ⟨?_, ?_⟩
      · exact (Fin.castOrderIso List.length_ofFn).toOrderEmbedding.trans (OrderEmbedding.ofStrictMono place increasing)
      · intro index
        rw [List.get_ofFn]
        rfl

end Places

/-- The search succeeds exactly if some of the tokens, in their order, hold the words. -/
theorem inOrder_iff_sublistForall₂ (words tokens : List (List Char)) :
    inOrder words tokens = true ↔ List.SublistForall₂ (· <:+: ·) words tokens := by
  induction tokens generalizing words with
  | nil =>
    cases words with
    | nil => exact iff_of_true rfl .nil
    | cons word words => simp [inOrder, List.sublistForall₂_iff]
  | cons token tokens ih =>
    cases words with
    | nil => exact iff_of_true rfl .nil
    | cons word words =>
      by_cases fits : word <:+: token
      · rw [inOrder_cons_of_fits fits, ih]
        refine ⟨.cons fits, fun found => ?_⟩
        cases found with
        | cons _ rest => exact rest
        -- another way leaves this token out: then the words behind the first one are in the same tokens without it
        | cons_right later => exact sublistForall₂_of_cons later
      · rw [inOrder_cons_of_misses fits, ih]
        refine ⟨.cons_right, fun found => ?_⟩
        cases found with
        | cons here _ => exact absurd here fits
        | cons_right later => exact later

/-- Words are found in order exactly if there are strictly increasing places, one for each word, such that every word stands in the token
at its place. -/
theorem inOrder_iff_exists_places (words tokens : List (List Char)) :
    inOrder words tokens = true ↔
      ∃ place : Fin words.length → Fin tokens.length, StrictMono place ∧ ∀ index, words.get index <:+: tokens.get (place index) := by
  rw [inOrder_iff_sublistForall₂, sublistForall₂_iff_exists_strictMono]

end DeclIndex.Search
