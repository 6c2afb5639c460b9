import DeclIndex.Bracket
import DeclIndex.Proofs.LineBreaks

/-!
# Cutting parameter lists

A parameter list is cut at the commas that stand outside of all brackets. What a text does to the count of open brackets is kept apart
from where it is cut, so that a list can be read entry by entry: an entry leaves no bracket open, and the list falls into its entries
exactly if none of them is cut inside. An arrow closes an angle bracket that it did not open.
-/

namespace DeclIndex
namespace Bracket
open DeclIndex.Text

/-! ## Reading a text -/

/-- The nesting after a whole text. -/
def Nesting.after (nesting : Nesting) (text : List Char) : Nesting :=
  text.foldl Nesting.read nesting

/-- How many commas of a text are taken to separate parameters. -/
def cuts (nesting : Nesting) : List Char → Nat
  | [] => 0
  | c :: rest => (if c = ',' && nesting.isOutside then 1 else 0) + cuts (nesting.read c) rest

section Reading

variable {nesting : Nesting} {front rest text : List Char}

@[simp] theorem Nesting.after_nil : nesting.after [] = nesting := rfl

@[simp] theorem Nesting.after_cons (c : Char) : nesting.after (c :: rest) = (nesting.read c).after rest := rfl

@[simp] theorem Nesting.after_append : nesting.after (front ++ rest) = (nesting.after front).after rest :=
  List.foldl_append

@[simp] theorem Nesting.read_comma : nesting.read ',' = nesting := rfl

theorem cuts_append : cuts nesting (front ++ rest) = cuts nesting front + cuts (nesting.after front) rest := by
  induction front generalizing nesting with
  | nil => simp [cuts]
  | cons c more ih =>
    rw [List.cons_append, cuts, cuts, ih, Nesting.after_cons, Nat.add_assoc]

theorem cuts_of_other {c : Char} (other : c ≠ ',') : cuts nesting (c :: rest) = cuts (nesting.read c) rest := by
  simp [cuts, other]

theorem cuts_comma_space (nesting : Nesting) (rest : List Char) :
    cuts nesting (", ".toList ++ rest) = (if nesting.isOutside then 1 else 0) + cuts nesting rest := by
  have space : nesting.read ' ' = nesting := rfl
  have both : ", ".toList ++ rest = ',' :: ' ' :: rest := rfl
  rw [both, cuts, cuts_of_other (by decide), Nesting.read_comma, space]
  simp

theorem segments_append (whole : cuts nesting front = 0) (rest : List Char) :
    segments nesting (front ++ rest) = (segments (nesting.after front) rest).modifyHead (front ++ ·) := by
  induction front generalizing nesting with
  | nil => exact (congrFun List.modifyHead_id _).symm
  | cons c more ih =>
    rw [cuts, Nat.add_eq_zero_iff] at whole
    obtain ⟨notHere, notLater⟩ := whole
    have kept : ¬ (c = ',' && nesting.isOutside) = true := by
      intro outside
      rw [if_pos outside] at notHere
      cases notHere
    rw [List.cons_append, segments, if_neg kept, ih notLater, List.modifyHead_modifyHead]
    rfl

theorem segments_ne_nil (nesting : Nesting) (text : List Char) : segments nesting text ≠ [] := by
  induction text generalizing nesting with
  | nil => exact List.cons_ne_nil _ _
  | cons c rest ih =>
    rw [segments]
    split
    · exact List.cons_ne_nil _ _
    · simpa using ih (nesting.read c)

/-- Only the commas at which a text is cut are lost. -/
theorem count_segments (nesting : Nesting) (text : List Char) :
    (segments nesting text).flatten.count ',' + cuts nesting text = text.count ',' := by
  induction text generalizing nesting with
  | nil => rfl
  | cons c rest ih =>
    rw [segments, cuts]
    by_cases outside : (c = ',' && nesting.isOutside) = true
    · have comma : c = ',' := by
        rw [Bool.and_eq_true, decide_eq_true_eq] at outside
        exact outside.1
      subst comma
      have := ih nesting
      rw [if_pos outside, if_pos outside, List.flatten_cons, List.nil_append, List.count_cons_self, Nesting.read_comma]
      omega
    · have joined : ((segments (nesting.read c) rest).modifyHead (c :: ·)).flatten = c :: (segments (nesting.read c) rest).flatten := by
        cases cut : segments (nesting.read c) rest with
        | nil => exact absurd cut (segments_ne_nil _ _)
        | cons first more => rfl
      have := ih (nesting.read c)
      rw [if_neg outside, if_neg outside, joined, List.count_cons, List.count_cons]
      omega

end Reading

/-! ## Entries -/

/-- Texts with a comma and a space between neighbours. -/
def joined (entries : List (List Char)) : List Char :=
  ", ".toList.intercalate entries

section Entries

variable {entries : List (List Char)}

@[simp] theorem joined_nil : joined [] = [] := rfl

@[simp] theorem joined_singleton (entry : List Char) : joined [entry] = entry :=
  List.intercalate_singleton

theorem joined_cons_cons (entry next : List Char) (more : List (List Char)) :
    joined (entry :: next :: more) = entry ++ (", ".toList ++ joined (next :: more)) := by
  rw [joined, List.intercalate_cons_cons, List.append_assoc, ← joined]

theorem mem_joined_iff {c : Char} (other : c ∉ ", ".toList) : c ∈ joined entries ↔ ∃ entry ∈ entries, c ∈ entry := by
  induction entries with
  | nil => simp
  | cons entry more ih =>
    cases more with
    | nil => simp
    | cons next others =>
      rw [joined_cons_cons, List.mem_append, List.mem_append, or_iff_right other, ih]
      simp

/-- A text that leaves no bracket open. -/
def Closed (text : List Char) : Prop :=
  ({} : Nesting).after text = {}

/-- In brackets a list is cut nowhere, if its entries are not and leave no bracket open. -/
theorem cuts_joined_inside {nesting : Nesting} (inside : nesting.isOutside = false)
    (neutral : ∀ entry ∈ entries, nesting.after entry = nesting ∧ cuts nesting entry = 0) :
    nesting.after (joined entries) = nesting ∧ cuts nesting (joined entries) = 0 := by
  induction entries with
  | nil => exact ⟨rfl, rfl⟩
  | cons entry more ih =>
    obtain ⟨⟨same, whole⟩, later⟩ := List.forall_mem_cons.mp neutral
    cases more with
    | nil => simpa using ⟨same, whole⟩
    | cons next others =>
      obtain ⟨sameRest, wholeRest⟩ := ih later
      have separator : nesting.after ", ".toList = nesting := rfl
      rw [joined_cons_cons, Nesting.after_append, same, Nesting.after_append, separator, sameRest, cuts_append, whole, same,
        cuts_comma_space, inside, wholeRest]
      simp

theorem trim_space (text : List Char) : trim (' ' :: text) = trim text := rfl

theorem map_trim_segments (entry : List Char) (rest : List Char) (closed : Closed entry) (whole : cuts {} entry = 0) :
    (segments {} (entry ++ (", ".toList ++ rest))).map trim = trim entry :: (segments {} rest).map trim := by
  rw [segments_append whole, closed]
  have cut : segments {} (", ".toList ++ rest) = [] :: (segments {} rest).modifyHead (' ' :: ·) := rfl
  rw [cut]
  cases segments {} rest with
  | nil => simp
  | cons first more => simp [trim_space]

/-- The segments of a list of entries that are not cut inside are its entries. The last entry may leave brackets open. -/
theorem map_trim_segments_joined (nonempty : entries ≠ []) (closed : ∀ entry ∈ entries.dropLast, Closed entry)
    (whole : ∀ entry ∈ entries, cuts {} entry = 0) (trimmed : ∀ entry ∈ entries, trim entry = entry) :
    (segments {} (joined entries)).map trim = entries := by
  induction entries with
  | nil => exact absurd rfl nonempty
  | cons entry more ih =>
    obtain ⟨wholeHere, wholeMore⟩ := List.forall_mem_cons.mp whole
    obtain ⟨trimmedHere, trimmedMore⟩ := List.forall_mem_cons.mp trimmed
    cases more with
    | nil =>
      have alone := segments_append wholeHere []
      rw [List.append_nil] at alone
      rw [joined_singleton, alone]
      simp [segments, trimmedHere]
    | cons next others =>
      rw [List.dropLast_cons_of_ne_nil (List.cons_ne_nil next others)] at closed
      obtain ⟨closedHere, closedMore⟩ := List.forall_mem_cons.mp closed
      rw [joined_cons_cons, map_trim_segments entry _ closedHere wholeHere, trimmedHere,
        ih (List.cons_ne_nil _ _) closedMore wholeMore trimmedMore]

/-- A list of entries that are not cut inside falls into its entries. -/
theorem splitParameters_joined (closed : ∀ entry ∈ entries, Closed entry) (whole : ∀ entry ∈ entries, cuts {} entry = 0)
    (tidy : ∀ entry ∈ entries, Tidy entry ∧ entry ≠ []) : splitParameters (joined entries) = entries := by
  cases entries with
  | nil => rfl
  | cons entry more =>
    have parts := map_trim_segments_joined (List.cons_ne_nil entry more)
      (fun entry member => closed entry (List.mem_of_mem_dropLast member)) whole fun entry member => (tidy entry member).1.trim_eq
    rw [splitParameters, parts, if_neg]
    intro blank
    exact (tidy [] (List.mem_of_getLast? blank)).2 rfl

theorem joined_ne_nil (nonempty : entries ≠ []) (written : ∀ entry ∈ entries, entry ≠ []) : joined entries ≠ [] := by
  cases entries with
  | nil => exact absurd rfl nonempty
  | cons entry more =>
    cases more with
    | nil => simpa using written
    | cons next others => simp [joined_cons_cons]

theorem singleSpaced_joined (spaced : ∀ entry ∈ entries, SingleSpaced entry ∧ entry ≠ []) : SingleSpaced (joined entries) := by
  induction entries with
  | nil => exact singleSpaced_of_nonblank (by simp [Nonblank])
  | cons entry more ih =>
    obtain ⟨⟨here, _⟩, later⟩ := List.forall_mem_cons.mp spaced
    cases more with
    | nil => simpa using here
    | cons next others =>
      have comma : SingleSpaced [','] := singleSpaced_of_nonblank (by decide)
      have rest := joined_ne_nil (List.cons_ne_nil next others) fun entry member => (later entry member).2
      have both := (here.append comma).join (by simp) (ih later) rest
      rw [joined_cons_cons]
      simpa using both

/-- A list in brackets. -/
theorem singleSpaced_enclosed {opening closing : Char} (visible : Nonblank [opening, closing])
    (spaced : ∀ entry ∈ entries, SingleSpaced entry ∧ entry ≠ []) : SingleSpaced (opening :: (joined entries ++ [closing])) := by
  have front : SingleSpaced [opening] := singleSpaced_of_nonblank fun c member => visible c (by simp_all)
  have back : SingleSpaced [closing] := singleSpaced_of_nonblank fun c member => visible c (by simp_all)
  exact front.append ((singleSpaced_joined spaced).append back)

theorem count_joined (nonempty : entries ≠ []) :
    (joined entries).count ',' + 1 = entries.flatten.count ',' + entries.length := by
  induction entries with
  | nil => exact absurd rfl nonempty
  | cons entry more ih =>
    cases more with
    | nil => simp
    | cons next others =>
      have rest := ih (List.cons_ne_nil _ _)
      have separator : ", ".toList.count ',' = 1 := rfl
      rw [joined_cons_cons, List.flatten_cons, List.count_append, List.count_append, List.count_append, separator, List.length_cons]
      omega

theorem count_splitParameters (text : List Char) :
    (splitParameters text).flatten.count ',' + cuts {} text ≤ text.count ',' := by
  have trimmed (parts : List (List Char)) : (parts.map trim).flatten.count ',' ≤ parts.flatten.count ',' := by
    induction parts with
    | nil => exact Nat.le_refl _
    | cons part more ih =>
      have fewer : (trim part).count ',' ≤ part.count ',' := (trim_sublist part).count_le ','
      rw [List.map_cons, List.flatten_cons, List.flatten_cons, List.count_append, List.count_append]
      omega
  have all := count_segments {} text
  have := trimmed (segments {} text)
  rw [splitParameters]
  split
  · next blank =>
    have same := congrArg List.flatten (List.dropLast_append_getLast? [] blank)
    rw [List.flatten_concat, List.append_nil] at same
    rw [same]
    omega
  · omega

/-- A list is cut between its entries at least, and if nowhere else, then inside of none of them. -/
theorem cuts_joined (closed : ∀ entry ∈ entries, Closed entry) :
    entries.length ≤ cuts {} (joined entries) + 1 ∧
      (cuts {} (joined entries) + 1 ≤ entries.length → ∀ entry ∈ entries, cuts {} entry = 0) := by
  induction entries with
  | nil => simp
  | cons entry more ih =>
    obtain ⟨closedHere, closedMore⟩ := List.forall_mem_cons.mp closed
    cases more with
    | nil => simp
    | cons next others =>
      obtain ⟨least, inside⟩ := ih closedMore
      have outside : ({} : Nesting).isOutside = true := rfl
      rw [joined_cons_cons, cuts_append, closedHere, cuts_comma_space, if_pos outside, List.length_cons]
      refine ⟨by omega, fun few => List.forall_mem_cons.mpr ⟨by omega, inside (by omega)⟩⟩

/-- If the pieces of a list have all commas of its entries, it was not cut inside of an entry. -/
theorem cuts_eq_zero_of_count (closed : ∀ entry ∈ entries, Closed entry)
    (kept : entries.flatten.count ',' ≤ (splitParameters (joined entries)).flatten.count ',') :
    ∀ entry ∈ entries, cuts {} entry = 0 := by
  by_cases nonempty : entries = []
  · simp [nonempty]
  · refine (cuts_joined closed).2 ?_
    have := count_joined nonempty
    have := count_splitParameters (joined entries)
    omega

end Entries

/-! ## Brackets that are closed -/

/-- The characters that count when a list is cut. -/
def marks : List Char :=
  ['(', '[', '{', ')', ']', '}', '<', '>', ',']

/-- A text without any of them. -/
def Unmarked (text : List Char) : Prop :=
  ∀ c ∈ text, c ∉ marks

instance (text : List Char) : Decidable (Unmarked text) :=
  List.decidableBAll (· ∉ marks) text

/-- The brackets of a text are closed, and it has so many arrows, each of which closes an angle bracket more. In parentheses nothing of
the text is cut. -/
structure Bracketed (arrows : Nat) (text : List Char) : Prop where
  after : ∀ nesting : Nesting, nesting.after text = ⟨nesting.level, nesting.angle - arrows⟩
  inside : ∀ nesting : Nesting, 0 < nesting.level → cuts nesting text = 0

section Bracketed

variable {text other : List Char} {arrows more : Nat} {nesting : Nesting}

theorem read_of_notMem {c : Char} (plain : c ∉ marks) : nesting.read c = nesting := by
  simp only [marks, List.mem_cons, List.not_mem_nil, or_false, not_or] at plain
  simp [Nesting.read, plain]

theorem after_of_plain (plain : Unmarked text) : nesting.after text = nesting := by
  induction text with
  | nil => rfl
  | cons c rest ih =>
    obtain ⟨here, later⟩ := List.forall_mem_cons.mp plain
    rw [Nesting.after_cons, read_of_notMem here, ih later]

theorem cuts_of_plain (plain : Unmarked text) : cuts nesting text = 0 := by
  induction text with
  | nil => rfl
  | cons c rest ih =>
    obtain ⟨here, later⟩ := List.forall_mem_cons.mp plain
    have other : c ≠ ',' := by
      rintro rfl
      exact here (by decide)
    rw [cuts_of_other other, read_of_notMem here, ih later]

theorem bracketed_of_plain (plain : Unmarked text) : Bracketed 0 text :=
  ⟨fun _ => after_of_plain plain, fun _ _ => cuts_of_plain plain⟩

theorem Bracketed.append (bracketed : Bracketed arrows text) (bracketedToo : Bracketed more other) :
    Bracketed (arrows + more) (text ++ other) := by
  refine ⟨fun nesting => ?_, fun nesting deep => ?_⟩
  · rw [Nesting.after_append, bracketed.after, bracketedToo.after, Nat.sub_sub]
  · rw [cuts_append, bracketed.inside nesting deep, bracketed.after, Nat.zero_add]
    exact bracketedToo.inside _ deep

theorem Bracketed.cuts_parens (bracketed : Bracketed arrows text) (outside : 0 ≤ nesting.level) :
    cuts nesting ('(' :: (text ++ [')'])) = 0 := by
  rw [cuts_of_other (by decide), cuts_append, bracketed.inside]
  · rfl
  · simp [Nesting.read]
    omega

theorem cuts_angles : cuts nesting ('<' :: (text ++ ['>'])) = cuts ⟨nesting.level, nesting.angle + 1⟩ text := by
  rw [cuts_of_other (by decide), cuts_append]
  rfl

theorem Bracketed.parens (bracketed : Bracketed arrows text) : Bracketed arrows ('(' :: (text ++ [')'])) := by
  refine ⟨fun nesting => ?_, fun nesting deep => ?_⟩
  · rw [Nesting.after_cons, Nesting.after_append, bracketed.after]
    simp [Nesting.read]
  · exact bracketed.cuts_parens deep.le

theorem Bracketed.angles (bracketed : Bracketed arrows text) : Bracketed arrows ('<' :: (text ++ ['>'])) := by
  refine ⟨fun nesting => ?_, fun nesting deep => ?_⟩
  · rw [Nesting.after_cons, Nesting.after_append, bracketed.after]
    -- if arrows have closed all open brackets, the last one counts for nothing and the count stays at zero
    simp [Nesting.read]
    omega
  · rw [cuts_angles]
    exact bracketed.inside _ deep

theorem bracketed_separator : Bracketed 0 ", ".toList := by
  refine ⟨fun nesting => rfl, fun nesting deep => ?_⟩
  have inside : nesting.isOutside = false := by
    simp [Nesting.isOutside]
    omega
  have alone := cuts_comma_space nesting []
  rw [List.append_nil, inside] at alone
  exact alone

theorem Bracketed.closed (bracketed : Bracketed arrows text) : Closed text := by
  rw [Closed, bracketed.after]
  simp

end Bracketed

end Bracket

namespace Text

/-- A name that an alphabet spells. -/
structure Identifier (alphabet : Alphabet) where
  letters : List Char
  spelled : alphabet.Spells letters

namespace Identifier

variable {alphabet : Alphabet} (name : Identifier alphabet)

theorem ne_nil : name.letters ≠ [] := by
  obtain ⟨c, rest, same, _⟩ := name.spelled
  simp [same]

theorem nonblank (first : ∀ c, alphabet.first c → isBlank c = false) (later : ∀ c, alphabet.later c → isBlank c = false) :
    Nonblank name.letters := by
  obtain ⟨c, rest, same, isFirst, areLater⟩ := name.spelled
  rw [same]
  exact List.forall_mem_cons.mpr ⟨first c isFirst, fun d member => later d (areLater d member)⟩

theorem plain (apart : Bracket.marks.all (fun c => !alphabet.first c && !alphabet.later c) = true) : Bracket.Unmarked name.letters := by
  intro c member marked
  have other := List.all_eq_true.mp apart c marked
  rw [Bool.and_eq_true, Bool.not_eq_true', Bool.not_eq_true'] at other
  exact name.spelled.notMem other.1 other.2 member

end Identifier

end Text

end DeclIndex
