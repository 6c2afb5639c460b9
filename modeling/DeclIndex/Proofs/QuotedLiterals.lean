import DeclIndex.Bracket
import Mathlib.Data.List.Basic

/-!
# Brackets and quoted literals

Open brackets are counted in a text whose literals have been emptied. The first quote of a text begins a literal exactly if a body and
a second quote follow it. What the body says is gone before anything is counted, and what follows the literal is read as if it were not
there.
-/

namespace DeclIndex.Bracket

/-! ## Bodies of literals -/

/-- What stands between the quotes of a literal: characters other than quotes and backslashes, and backslashes with the character
behind them, which may be anything but a line feed. -/
inductive LiteralBody : List Char → Prop where
  | nil : LiteralBody []
  | plain {c : Char} {body : List Char} (noQuote : c ≠ '"') (noBackslash : c ≠ '\\') (rest : LiteralBody body) : LiteralBody (c :: body)
  | escaped {c : Char} {body : List Char} (sameLine : c ≠ '\n') (rest : LiteralBody body) : LiteralBody ('\\' :: c :: body)

section Bodies

variable {text body rest : List Char}

theorem afterLiteral?_append (isBody : LiteralBody body) (rest : List Char) : afterLiteral? (body ++ '"' :: rest) = some rest := by
  induction isBody with
  | nil => rw [List.nil_append, afterLiteral?]
  | plain noQuote noBackslash _ ih => simp [afterLiteral?, noBackslash, ih]
  | escaped sameLine _ ih => rw [List.cons_append, List.cons_append, afterLiteral?, if_neg sameLine, ih]

/-- Nothing but a body and a quote closes a literal. -/
theorem exists_body_of_afterLiteral? (closed : afterLiteral? text = some rest) : ∃ body, LiteralBody body ∧ text = body ++ '"' :: rest := by
  fun_induction afterLiteral? text with
  | case1 => cases closed
  | case2 beyond =>
    cases closed
    exact ⟨[], .nil, rfl⟩
  | case3 => cases closed
  | case4 c beyond sameLine ih =>
    obtain ⟨body, isBody, rfl⟩ := ih closed
    exact ⟨'\\' :: c :: body, .escaped sameLine isBody, rfl⟩
  | case5 => cases closed
  | case6 c beyond noQuote _ noBackslash ih =>
    obtain ⟨body, isBody, rfl⟩ := ih closed
    exact ⟨c :: body, .plain noQuote noBackslash isBody, rfl⟩

/-- A text is a body exactly if a quote behind it closes the literal. -/
theorem literalBody_iff : LiteralBody body ↔ afterLiteral? (body ++ ['"']) = some [] := by
  refine ⟨fun isBody => afterLiteral?_append isBody [], fun closed => ?_⟩
  obtain ⟨same, isBody, split⟩ := exists_body_of_afterLiteral? closed
  rwa [List.append_cancel_right split]

instance (body : List Char) : Decidable (LiteralBody body) :=
  decidable_of_iff _ literalBody_iff.symm

end Bodies

/-! ## Open brackets -/

/-- Some kind of bracket is opened more often than it is closed. -/
def OpensMore (text : List Char) : Prop :=
  ∃ kind ∈ [('{', '}'), ('[', ']'), ('(', ')')], text.count kind.2 < text.count kind.1

instance (text : List Char) : Decidable (OpensMore text) :=
  inferInstanceAs (Decidable (∃ kind ∈ _, _))

section Emptied

variable {text front body other : List Char}

theorem hasOpen_iff : hasOpen text = true ↔ OpensMore (emptyLiterals text) := by
  simp [hasOpen, OpensMore, or_assoc]

theorem emptyLiterals_append (unquoted : '"' ∉ front) (rest : List Char) :
    emptyLiterals (front ++ rest) = front ++ emptyLiterals rest := by
  induction front with
  | nil => rfl
  | cons c front ih =>
    obtain ⟨noQuote, unquoted⟩ := not_or.mp (mt List.mem_cons.mpr unquoted)
    rw [List.cons_append, emptyLiterals, if_neg (Ne.symm noQuote), ih unquoted, List.cons_append]

theorem emptyLiterals_literal (isBody : LiteralBody body) (rest : List Char) :
    emptyLiterals ('"' :: (body ++ '"' :: rest)) = '"' :: '"' :: emptyLiterals rest := by
  rw [emptyLiterals, if_pos rfl]
  split
  · next beyond closed =>
    rw [afterLiteral?_append isBody rest] at closed
    cases closed
    rfl
  · next unclosed =>
    rw [afterLiteral?_append isBody rest] at unclosed
    cases unclosed

/-- The first literal of a text counts for nothing. -/
theorem hasOpen_append_literal (unquoted : '"' ∉ front) (isBody : LiteralBody body) (rest : List Char) :
    hasOpen (front ++ '"' :: (body ++ '"' :: rest)) = hasOpen (front ++ rest) := by
  have quotes (bracket : Char) (other : bracket ≠ '"') :
      (front ++ '"' :: '"' :: emptyLiterals rest).count bracket = (front ++ emptyLiterals rest).count bracket := by
    rw [List.count_append, List.count_append, List.count_cons_of_ne other.symm, List.count_cons_of_ne other.symm]
  simp (disch := decide) only [hasOpen, emptyLiterals_append unquoted, emptyLiterals_literal isBody, quotes]

theorem hasOpen_iff_of_unquoted (unquoted : '"' ∉ text) : hasOpen text = true ↔ OpensMore text := by
  have same : emptyLiterals (text ++ []) = text ++ [] := by rw [emptyLiterals_append unquoted, emptyLiterals]
  rw [List.append_nil] at same
  rw [hasOpen_iff, same]

/-- Whether a text has open brackets does not depend on what its first literal says. If there is no other quote, the brackets outside of
the literal decide. -/
theorem hasOpen_anyLiteral (unquoted : '"' ∉ front) (isBody : LiteralBody body) (isBodyToo : LiteralBody other) (rest : List Char) :
    hasOpen (front ++ '"' :: (body ++ '"' :: rest)) = hasOpen (front ++ '"' :: (other ++ '"' :: rest)) ∧
      ('"' ∉ rest → (hasOpen (front ++ '"' :: (body ++ '"' :: rest)) = true ↔ OpensMore (front ++ rest))) := by
  rw [hasOpen_append_literal unquoted isBody, hasOpen_append_literal unquoted isBodyToo]
  refine ⟨rfl, fun unquotedToo => hasOpen_iff_of_unquoted fun quoted => ?_⟩
  exact (List.mem_append.mp quoted).elim unquoted unquotedToo

/-- Brackets and an escaped quote in a literal. -/
theorem hasOpen_anyLiteral_escaped :
    let text (body : String) := "f([".toList ++ '"' :: (body.toList ++ '"' :: ", x)".toList)
    hasOpen (text "](\\\"") = hasOpen (text "]]") ∧ hasOpen (text "](\\\"") = true := by
  intro text
  have unquoted : '"' ∉ "f([".toList := by decide +kernel
  have isBody : LiteralBody "](\\\"".toList := by decide +kernel
  have isBodyToo : LiteralBody "]]".toList := by decide +kernel
  have ignored := hasOpen_anyLiteral unquoted isBody isBodyToo ", x)".toList
  exact ⟨ignored.1, (ignored.2 (by decide +kernel)).mpr (by decide +kernel)⟩

end Emptied

end DeclIndex.Bracket
