import DeclIndex.Proofs.FunctionText
import DeclIndex.Proofs.LineBreaks
import DeclIndex.Proofs.PairedBrackets
import DeclIndex.Proofs.SignatureLines

/-!
# Heads on more than one line

The head of a function may be broken wherever its parameter list and what follows have a space. The lines of a broken head are put
together again with spaces, so that its signature is that of the head on one line, but only as long as the first line does not look
like a whole head by itself: one that shows a closing parenthesis and an arrow, be they those of a function type among the
parameters, is taken for the whole signature.
-/

namespace DeclIndex
open DeclIndex.Text

namespace Aiken

/-! ## Plain heads -/

/-- A part of a head with balanced parentheses, no braces and one space between neighbouring words. -/
structure PlainCode (text : List Char) : Prop where
  balanced : Bracket.Parenthesized text
  noBraces : '{' ∉ text ∧ '}' ∉ text
  spaced : SingleSpaced text

/-- The head of a function on one line, up to the brace that opens its body. -/
structure PlainHead where
  isPublic : Bool
  name : List Char
  parameters : List Char
  /-- The return type, if there is one. -/
  result : Option (List Char)
  spelled : alphabet.Spells name
  plainParameters : PlainCode parameters
  plainResult : ∀ type ∈ result, type ≠ [] ∧ PlainCode type

namespace PlainHead

/-- The head up to its parameter list. -/
def opening (head : PlainHead) : List Char :=
  (if head.isPublic then "pub ".toList else []) ++ ("fn ".toList ++ head.name)

/-- The head behind its parameter list. -/
def ending (head : PlainHead) : List Char :=
  match head.result with
  | some type => " -> ".toList ++ type ++ " \x7b".toList
  | none => " \x7b".toList

def text (head : PlainHead) : List Char :=
  head.opening ++ '(' :: (head.parameters ++ ')' :: head.ending)

variable (head : PlainHead)

theorem nonblank_name : Nonblank head.name :=
  nonblank_of_spells head.spelled

theorem functionHead?_of_parts {isPublic : Bool} {line rest left name : List Char} (marked : takeKeyword "pub" line = (isPublic, rest))
    (keyword : dropKeyword? "fn" rest = some left) (called : called? left = some name) :
    functionHead? line = some ⟨isPublic, name⟩ := by
  simp [functionHead?, marked, keyword, called]

theorem functionHead?_opening (rest : List Char) :
    functionHead? (head.opening ++ '(' :: rest) = some ⟨head.isPublic, head.name⟩ := by
  have visible : Visible (head.name ++ '(' :: rest) := by
    intro c begins
    obtain ⟨first, others, same, isFirst, _⟩ := head.spelled
    rw [same] at begins
    cases begins
    exact isBlank_of_first isFirst
  have keyword : dropKeyword? "fn" ("fn ".toList ++ (head.name ++ '(' :: rest)) = some (head.name ++ '(' :: rest) :=
    dropKeyword?_append "fn" space_mem_gap visible
  have called : called? (head.name ++ '(' :: rest) = some head.name := by
    have stops : ∀ c ∈ ('(' :: rest).head?, alphabet.later c = false := by
      intro c begins
      cases begins
      rfl
    rw [called?, Alphabet.ident?_append head.spelled stops]
    rfl
  cases isPublic : head.isPublic with
  | true =>
    have marked : dropKeyword? "pub" ("pub ".toList ++ ("fn ".toList ++ (head.name ++ '(' :: rest))) =
        some ("fn ".toList ++ (head.name ++ '(' :: rest)) := dropKeyword?_append "pub" space_mem_gap (by simp [Visible]; decide)
    rw [opening, isPublic, if_pos rfl, List.append_assoc, List.append_assoc]
    exact functionHead?_of_parts (by rw [takeKeyword, marked]) keyword called
  | false =>
    rw [opening, isPublic, if_neg Bool.false_ne_true, List.nil_append, List.append_assoc]
    have other : ("fn ".toList ++ (head.name ++ '(' :: rest)).head? ≠ some 'p' := by simp
    exact functionHead?_of_parts (takeKeyword_of_none (dropKeyword?_of_head? rfl other)) keyword called

theorem paren_notMem_opening : '(' ∉ head.opening := by
  have notInName : '(' ∉ head.name := head.spelled.notMem (by decide) (by decide)
  rw [opening]
  split <;> simp [notInName]

theorem parens?_text : Bracket.parens? head.text = some ⟨head.opening, head.parameters, head.ending⟩ :=
  Bracket.parens?_append head.paren_notMem_opening head.plainParameters.balanced head.ending

theorem returnTypeAfter_ending : returnTypeAfter head.ending = head.result.getD [] := by
  cases given : head.result with
  | none =>
    rw [ending, given]
    rfl
  | some type =>
    obtain ⟨nonempty, _, ⟨noBrace, _⟩, spaced⟩ := head.plainResult type given
    have passes : ∀ c ∈ ' ' :: (type ++ [' ']), (c != '{') = true := passes_of_notMem (by simp [noBrace])
    have behind : dropFront? ['-', '>'] (trimLeft head.ending) = some (' ' :: (type ++ [' ']) ++ ['{']) := by
      have split : head.ending = [' '] ++ (['-', '>'] ++ (' ' :: (type ++ [' ']) ++ ['{'])) := by
        rw [ending, given]
        simp
      rw [split, trimLeft_blanks_append space_mem_gap.1 (by simp [Visible]; decide), dropFront?_append]
    have body : trim (' ' :: (type ++ [' '])) = type := by
      have trimmed := spaced.toTidy.trim_append nonempty space_mem_gap.1
      rwa [trim, trimLeft, List.dropWhile_cons_of_pos (by decide), ← trimLeft, ← trim]
    rw [returnTypeAfter, behind]
    dsimp only
    rw [List.takeWhile_append_of_pos passes]
    simpa using body

theorem singleSpaced_text : SingleSpaced head.text := by
  have parenthesis : SingleSpaced ['('] := singleSpaced_of_nonblank (by decide)
  have closing : SingleSpaced [')'] := singleSpaced_of_nonblank (by decide)
  have brace : SingleSpaced ['{'] := singleSpaced_of_nonblank (by decide)
  have arrow : SingleSpaced ['-', '>'] := singleSpaced_of_nonblank (by decide)
  have function : SingleSpaced ['f', 'n'] := singleSpaced_of_nonblank (by decide)
  have mark : SingleSpaced ['p', 'u', 'b'] := singleSpaced_of_nonblank (by decide)
  have called : SingleSpaced (head.name ++ (['('] ++ (head.parameters ++ [')']))) :=
    (singleSpaced_of_nonblank head.nonblank_name).append (parenthesis.append (head.plainParameters.spaced.append closing))
  have rest : ∃ tail, head.ending = ' ' :: tail ∧ SingleSpaced tail ∧ tail ≠ [] := by
    cases given : head.result with
    | none => exact ⟨['{'], by rw [ending, given]; rfl, brace, by simp⟩
    | some type =>
      obtain ⟨nonempty, _, _, spaced⟩ := head.plainResult type given
      refine ⟨['-', '>'] ++ ' ' :: (type ++ ' ' :: ['{']), by rw [ending, given]; simp, ?_, by simp⟩
      exact arrow.join (by simp) (spaced.join nonempty brace (by simp)) (by simp)
  obtain ⟨tail, same, spacedTail, nonemptyTail⟩ := rest
  have unmarked : SingleSpaced (['f', 'n'] ++ ' ' :: ((head.name ++ (['('] ++ (head.parameters ++ [')']))) ++ ' ' :: tail)) :=
    function.join (by simp) (called.join (by simp) spacedTail nonemptyTail) (by simp)
  cases isPublic : head.isPublic with
  | false =>
    rw [text, opening, isPublic, same]
    simpa using unmarked
  | true =>
    rw [text, opening, isPublic, same]
    simpa using mark.join (by simp) unmarked (by simp)

theorem exists_text_concat : ∃ front, head.text = front ++ ['{'] ∧ '{' ∉ front := by
  have notInName : '{' ∉ head.name := head.spelled.notMem (by decide) (by decide)
  have notInOpening : '{' ∉ head.opening := by
    rw [opening]
    split <;> simp [notInName]
  have notInParameters : '{' ∉ head.parameters := head.plainParameters.noBraces.1
  cases given : head.result with
  | none =>
    refine ⟨head.opening ++ '(' :: (head.parameters ++ [')', ' ']), ?_, ?_⟩
    · rw [text, ending, given]
      simp
    · simp [notInOpening, notInParameters]
  | some type =>
    obtain ⟨_, _, ⟨notInType, _⟩, _⟩ := head.plainResult type given
    refine ⟨head.opening ++ '(' :: (head.parameters ++ ')' :: (" -> ".toList ++ (type ++ [' ']))), ?_, ?_⟩
    · rw [text, ending, given]
      simp
    · simp [notInOpening, notInParameters, notInType]

/-! ## Lines of a broken head -/

section Broken

variable {head} {broken : List Char} (breaks : BreaksTo head.text broken)

include breaks

theorem tidy_broken : Tidy broken :=
  head.singleSpaced_text.toTidy.of_map_eq (map_isBlank_of_breaks breaks.forall₂)

theorem joined_broken : broken.map (fun c => if c = '\n' then ' ' else c) = head.text := by
  refine joined_of_breaks breaks.forall₂ fun feed => ?_
  exact absurd (head.singleSpaced_text.spaces '\n' feed (by decide)) (by decide)

theorem tidy_of_mem_lines : ∀ line ∈ lines broken, line ≠ [] ∧ Tidy line := by
  refine tidy_of_unlines (by rw [unlines_lines]; exact tidy_broken breaks) ?_
  rw [unlines_lines]
  rintro rfl
  have empty := joined_broken breaks
  rw [List.map_nil, text] at empty
  simp at empty

/-- The lines of a broken head give its signature. -/
theorem signature_lines : signature (lines broken) = head.text := by
  have whole := tidy_of_mem_lines breaks
  have trimmed : (lines broken).map trim = lines broken :=
    (List.map_congr_left fun line member => (whole line member).2.trim_eq).trans (List.map_id _)
  have kept : (lines broken).filter (!·.isEmpty) = lines broken :=
    List.filter_eq_self.mpr fun line member => by simpa using (whole line member).1
  have spaced : [' '].intercalate (lines broken) = head.text := by
    rw [← joined_broken breaks, ← intercalate_replaced fun line member => lineFeed_notMem_of_mem_lines member]
    exact congrArg _ (unlines_lines broken)
  rw [signature, trimmed, kept, spaced, head.singleSpaced_text.toTidy.trim_eq]

theorem getLast?_broken : broken.getLast? = some '{' := by
  obtain ⟨init, split, _⟩ := head.exists_text_concat
  have moved := congrArg List.getLast? (joined_broken breaks)
  rw [split, List.getLast?_concat, List.getLast?_map] at moved
  obtain ⟨c, there, same⟩ := Option.map_eq_some_iff.mp moved
  by_cases feed : c = '\n'
  · rw [if_pos feed] at same
    exact absurd same (by decide)
  · rw [if_neg feed] at same
    rw [there, same]

/-- The brace of a broken head is on its last line. -/
theorem exists_lines_concat :
    ∃ front last, lines broken = front ++ [last] ∧ '{' ∈ last ∧ ∀ line ∈ front, '{' ∉ line := by
  obtain ⟨init, split, notInInit⟩ := head.exists_text_concat
  have once : broken.count '{' = 1 := by
    rw [count_of_breaks breaks.forall₂ rfl, split, List.count_append, List.count_eq_zero.mpr notInInit]
    rfl
  have ends := getLast?_broken breaks
  rcases List.eq_nil_or_concat (lines broken) with none | ⟨front, last, concat⟩
  · exact absurd none (List.splitOn_ne_nil '\n' broken)
  · rw [List.concat_eq_append] at concat
    refine ⟨front, last, concat, ?_⟩
    have nonempty : last ≠ [] := (tidy_of_mem_lines breaks last (by rw [concat]; simp)).1
    have whole : unlines (front ++ [last]) = broken := by rw [← concat, unlines_lines]
    by_cases single : front = []
    · subst single
      have same : last = broken := by simpa [unlines] using whole
      rw [same]
      exact ⟨List.mem_of_getLast? ends, by simp⟩
    · rw [unlines_concat single] at whole
      rw [← whole, List.getLast?_append_of_ne_nil _ (by simp), List.getLast?_cons_of_ne_nil nonempty] at ends
      have inLast := List.mem_of_getLast? ends
      refine ⟨inLast, fun line member inside => ?_⟩
      have inFront : '{' ∈ unlines front := (mem_unlines (by decide)).mpr ⟨line, member, inside⟩
      rw [← whole, List.count_append, List.count_cons] at once
      have first := List.count_pos_iff.mpr inFront
      have second := List.count_pos_iff.mpr inLast
      omega

theorem exists_paren_line : ∃ line ∈ lines broken, ')' ∈ line := by
  have inBroken : ')' ∈ broken := by
    rw [← List.count_pos_iff, count_of_breaks breaks.forall₂ rfl, List.count_pos_iff, text]
    simp
  rw [← unlines_lines broken] at inBroken
  exact (mem_unlines (by decide)).mp inBroken

/-- How many lines below the first one the signature of a broken head reads. -/
theorem signatureLength_broken {first : List Char} {more below : List (List Char)} (split : lines broken = first :: more)
    (nonempty : below ≠ []) : signatureLength first (more ++ below) = if ShowsEnd first then 0 else more.length := by
  have trimmed : trim first = first := (tidy_of_mem_lines breaks first (by rw [split]; simp)).2.trim_eq
  by_cases shown : ShowsEnd first
  · rw [if_pos shown]
    exact signatureLength_of_showsEnd (by rwa [trimmed])
  · rw [if_neg shown]
    obtain ⟨front, last, concat, inLast, notInFront⟩ := exists_lines_concat breaks
    have group : first :: (more ++ below) = front ++ [last] ++ below := by rw [← concat, split, List.cons_append]
    have size : more.length = front.length := by
      have counted := congrArg List.length (split.symm.trans concat)
      simpa using counted
    have further : 0 < below.length := List.length_pos_of_ne_nil nonempty
    rw [size]
    refine Nat.le_antisymm (Nat.le_of_lt_succ ?_) (Nat.le_of_not_lt fun early => ?_)
    · refine (signatureLength_lt_iff (Nat.succ_pos _) (by rw [List.length_append]; omega)).mpr (Or.inr ?_)
      obtain ⟨line, member, closes⟩ := exists_paren_line breaks
      obtain ⟨paren, there⟩ := List.mem_iff_getElem?.mp member
      rw [concat] at there
      have inside : paren < (front ++ [last]).length := (List.getElem?_eq_some_iff.mp there).1
      have bound : paren < front.length + 1 := by simpa using inside
      refine ⟨paren, front.length, Nat.zero_le _, Nat.le_of_lt_succ bound, Nat.lt_succ_self _, ?_, ?_⟩
      · rw [group, hasAt_append_left inside]
        exact ⟨line, there, closes⟩
      · rw [group, hasAt_append_left (by simp)]
        exact ⟨last, by simp, inLast⟩
    · have positive : 0 < front.length := Nat.lt_of_le_of_lt (Nat.zero_le _) early
      have ends := (signatureLength_lt_iff positive (by rw [List.length_append]; omega)).mp early
      rcases ends with ⟨line, there, shownThere⟩ | ⟨paren, brace, _, _, above, _, opens⟩
      · cases there
        rw [trimmed] at shownThere
        exact shown shownThere
      · rw [group, List.append_assoc, hasAt_append_left above] at opens
        obtain ⟨line, there, inside⟩ := opens
        exact notInFront line (List.mem_of_getElem? there) inside

/-- The signature that is put together from the lines of a broken head. -/
theorem signature_broken {first : List Char} {more below : List (List Char)} (split : lines broken = first :: more)
    (nonempty : below ≠ []) :
    signature (first :: (more ++ below).take (signatureLength first (more ++ below))) =
      if ShowsEnd first then first else head.text := by
  rw [signatureLength_broken breaks split nonempty]
  by_cases shown : ShowsEnd first
  · obtain ⟨visible, tidy⟩ := tidy_of_mem_lines breaks first (by rw [split]; simp)
    rw [if_pos shown, if_pos shown]
    simp [signature, tidy.trim_eq, visible]
  · rw [if_neg shown, if_neg shown, List.take_left, ← split, signature_lines breaks]

theorem exists_lines_cons :
    ∃ rest more, lines broken = (head.opening ++ '(' :: rest) :: more := by
  obtain ⟨front, rest, others, unopened, same, rfl, _⟩ := breaks
  have read := takeTo?_append unopened rest
  rw [← same, text, takeTo?_append head.paren_notMem_opening] at read
  cases read
  have single : '\n' ∉ head.opening ++ ['('] := by
    intro feed
    have inText : '\n' ∈ head.text := by
      rw [text, ← List.singleton_append, ← List.append_assoc]
      exact List.mem_append_left _ feed
    exact absurd (head.singleSpaced_text.spaces '\n' inText (by decide)) (by decide)
  obtain ⟨first, more, split⟩ := List.exists_cons_of_ne_nil (List.splitOn_ne_nil '\n' others)
  refine ⟨first, more, ?_⟩
  rw [← List.singleton_append, ← List.append_assoc, lines_append single, lines, split]
  simp

end Broken

end PlainHead

/-! ## Scans -/

/-- The part of a text above its first line feed. -/
def firstLine (text : List Char) : List Char :=
  text.takeWhile (· != '\n')

theorem head?_lines (text : List Char) : (lines text).head? = some (firstLine text) := by
  induction text with
  | nil => rfl
  | cons c rest ih =>
    rw [lines, List.splitOn_cons_eq_if_modifyHead, firstLine]
    by_cases feed : c = '\n'
    · simp [feed]
    · rw [lines] at ih
      simp [feed, List.head?_modifyHead, ih, firstLine]

/-- The first function of a file that begins with the head of one. -/
theorem head?_functions {origin : Origin} {text : String} {line : List Char} {below : List (List Char)} {head : FunctionHead}
    (split : lines text.toList = line :: below) (read : functionHead? (trim line) = some head) :
    (scan origin text).functions.head? = some (functionAt origin.source [] head line below) := by
  have reads : head? (trim line) = some (.function head) := head?_eq_some_iff.mpr read
  have found : declarationAt? origin [] line below =
      some (.function (functionAt origin.source [] head line below), signatureLength line below) := by
    simp [declarationAt?, reads]
  rw [scan, sightings, split, sightingsFrom_some found]
  rfl

/-- Two functions have one name, one signature, the same parameters and the same return type. -/
def SameHead (f g : Function) : Prop :=
  f.name = g.name ∧ f.signature = g.signature ∧ f.parameters = g.parameters ∧ f.returnType = g.returnType

theorem functionAt_of_signature {source : String} {above below : List (List Char)} {found : FunctionHead} {line : List Char}
    {head : PlainHead} (read : signature (line :: below.take (signatureLength line below)) = head.text) :
    (functionAt source above found line below).parameters = parameters head.parameters ∧
      (functionAt source above found line below).returnType = orElse (head.result.getD []) "Unknown" := by
  rw [functionAt, read, head.parens?_text]
  exact ⟨rfl, congrArg (orElse · "Unknown") head.returnTypeAfter_ending⟩

/-- The first function of a file that begins with a broken head. -/
theorem head?_functions_broken (origin : Origin) {head : PlainHead} {broken : List Char} (breaks : BreaksTo head.text broken)
    (below : List Char) :
    ∃ f signed, (scan origin (String.ofList (broken ++ '\n' :: below))).functions.head? = some f ∧
      signed = (if ShowsEnd (firstLine broken) then firstLine broken else head.text) ∧
      f.name = String.ofList head.name ∧ f.signature = String.ofList signed ∧
      (signed = head.text → f.parameters = parameters head.parameters ∧ f.returnType = orElse (head.result.getD []) "Unknown") := by
  obtain ⟨rest, more, split⟩ := PlainHead.exists_lines_cons breaks
  have first : firstLine broken = head.opening ++ '(' :: rest := by
    have begins := head?_lines broken
    rw [split] at begins
    exact (Option.some.inj begins).symm
  have group : lines (String.ofList (broken ++ '\n' :: below)).toList =
      (head.opening ++ '(' :: rest) :: (more ++ lines below) := by
    rw [String.toList_ofList, lines, List.splitOn_append_cons_self, ← lines, split, List.cons_append]
    rfl
  have read : functionHead? (trim (head.opening ++ '(' :: rest)) = some ⟨head.isPublic, head.name⟩ := by
    rw [(PlainHead.tidy_of_mem_lines breaks _ (by rw [split]; simp)).2.trim_eq]
    exact head.functionHead?_opening rest
  have signed := PlainHead.signature_broken breaks split (List.splitOn_ne_nil '\n' below)
  rw [← first] at signed
  refine ⟨_, _, head?_functions group read, rfl, rfl, ?_, fun same => functionAt_of_signature ?_⟩
  · rw [← signed, first]
    rfl
  · rw [← same, ← signed, first]
    rfl

/-- The function of a head on one line has the name, parameters and return type that are written there. Broken up behind the first
parenthesis, the head gives a function of that name, and the same signature, parameters and return type exactly if nothing was
broken or the first line does not show a closing parenthesis and an arrow. If it does, it is the whole signature. -/
theorem signature_broken_iff (origin : Origin) (head : PlainHead) {broken : List Char} (breaks : BreaksTo head.text broken)
    (below : List Char) :
    ∃ f g, (scan origin (String.ofList (head.text ++ '\n' :: below))).functions.head? = some f ∧
      (scan origin (String.ofList (broken ++ '\n' :: below))).functions.head? = some g ∧
      f.name = String.ofList head.name ∧ f.signature = String.ofList head.text ∧ f.parameters = parameters head.parameters ∧
      f.returnType = orElse (head.result.getD []) "Unknown" ∧
      g.name = f.name ∧
      g.signature = String.ofList (if ShowsEnd (firstLine broken) then firstLine broken else head.text) ∧
      (SameHead f g ↔ broken = head.text ∨ ¬ ShowsEnd (firstLine broken)) := by
  have unbroken : BreaksTo head.text head.text :=
    ⟨head.opening, _, _, head.paren_notMem_opening, rfl, rfl, List.forall₂_same.mpr fun _ _ => Or.inl rfl⟩
  obtain ⟨f, whole, foundWhole, wholeIs, nameWhole, signatureWhole, partsWhole⟩ := head?_functions_broken origin unbroken below
  obtain ⟨g, signed, found, signedIs, name, signature, parts⟩ := head?_functions_broken origin breaks below
  -- a head on one line is its own first line
  have oneLine : whole = head.text := by
    have single : firstLine head.text = head.text := by
      refine List.takeWhile_eq_self_iff.mpr fun c member => ?_
      have other : c ≠ '\n' := by
        rintro rfl
        exact absurd (head.singleSpaced_text.spaces '\n' member (by decide)) (by decide)
      simpa using other
    rw [wholeIs, single, ite_self]
  subst oneLine
  obtain ⟨parametersWhole, returnWhole⟩ := partsWhole rfl
  refine ⟨f, g, foundWhole, found, nameWhole, signatureWhole, parametersWhole, returnWhole, name.trans nameWhole.symm,
    signature.trans (congrArg String.ofList signedIs), ?_, ?_⟩
  · rintro ⟨_, same, _⟩
    by_cases shown : ShowsEnd (firstLine broken)
    · rw [if_pos shown] at signedIs
      rw [signatureWhole, signature, String.ofList_inj, signedIs] at same
      -- the first line is as long as the whole head, so nothing follows it
      have short : firstLine broken <+: broken := List.takeWhile_prefix _
      have long : (firstLine broken).length = broken.length := by rw [← same, breaks.forall₂.length_eq]
      exact Or.inl ((short.eq_of_length long).symm.trans same.symm)
    · exact Or.inr shown
  · intro kept
    have same : signed = head.text := by
      rcases kept with rfl | hidden
      · rw [signedIs, ← wholeIs]
      · rw [signedIs, if_neg hidden]
    obtain ⟨parameters, returned⟩ := parts same
    refine ⟨nameWhole.trans name.symm, ?_, parametersWhole.trans parameters.symm, returnWhole.trans returned.symm⟩
    rw [signatureWhole, signature, same]

/-! ## A function type among the parameters -/

instance (text : List Char) : Decidable (SingleSpaced text) :=
  have : Decidable (∀ c ∈ text.head?, isBlank c = false) := Option.decidableForallMem text.head?
  have : Decidable (∀ c ∈ text.getLast?, isBlank c = false) := Option.decidableForallMem text.getLast?
  have : Decidable (∀ c ∈ text, isBlank c → c = ' ') := List.decidableBAll (fun c => isBlank c → c = ' ') text
  decidable_of_iff
    ((text.IsChain fun c d => ¬ (isBlank c ∧ isBlank d)) ∧ (∀ c ∈ text.head?, isBlank c = false) ∧
      (∀ c ∈ text.getLast?, isBlank c = false) ∧ ∀ c ∈ text, isBlank c → c = ' ')
    ⟨fun ⟨single, first, last, spaces⟩ => ⟨⟨single, first, last⟩, spaces⟩,
      fun ⟨⟨single, first, last⟩, spaces⟩ => ⟨single, first, last, spaces⟩⟩

instance : DecidableRel Breaks :=
  fun c d => inferInstanceAs (Decidable (d = c ∨ c = ' ' ∧ d = '\n'))

/-- A function that takes another one. -/
def applyHead : PlainHead where
  isPublic := false
  name := "apply".toList
  parameters := "f: fn(Int) -> Int, x: Int".toList
  result := some "Int".toList
  spelled := by decide
  plainParameters := ⟨by decide, by decide, by decide⟩
  plainResult := by
    intro type given
    cases given
    exact ⟨by decide, by decide, by decide, by decide⟩

/-- Broken behind its first parameter, the head is cut off there: the arrow of the function type is taken for its own. -/
theorem signature_cut_functionType :
    let broken := "fn apply(f: fn(Int) -> Int,\nx: Int) -> Int \x7b".toList
    let below := "  f(x)\n\x7d".toList
    BreaksTo applyHead.text broken ∧
      (scan ⟨"stdlib", false⟩ (String.ofList (applyHead.text ++ '\n' :: below))).functions.map
          (fun f => (f.signature, f.parameters.map (·.type), f.returnType)) =
        [("fn apply(f: fn(Int) -> Int, x: Int) -> Int \x7b", ["fn(Int) -> Int", "Int"], "Int")] ∧
      (scan ⟨"stdlib", false⟩ (String.ofList (broken ++ '\n' :: below))).functions.map
          (fun f => (f.signature, f.parameters.map (·.type), f.returnType)) =
        [("fn apply(f: fn(Int) -> Int,", [], "Unknown")] := by
  refine ⟨⟨"fn apply".toList, "f: fn(Int) -> Int, x: Int) -> Int \x7b".toList, "f: fn(Int) -> Int,\nx: Int) -> Int \x7b".toList,
    by decide, rfl, rfl, by decide⟩, by decide +kernel, by decide +kernel⟩

/-- Broken inside of its first parameter and behind it, the head stays the same. -/
theorem signature_broken_iff_functionType :
    let broken := "fn apply(f:\nfn(Int) -> Int,\nx: Int) -> Int \x7b".toList
    let below := "  f(x)\n\x7d".toList
    BreaksTo applyHead.text broken ∧
      ∃ f g, (scan ⟨"stdlib", false⟩ (String.ofList (applyHead.text ++ '\n' :: below))).functions.head? = some f ∧
        (scan ⟨"stdlib", false⟩ (String.ofList (broken ++ '\n' :: below))).functions.head? = some g ∧ SameHead f g := by
  intro broken below
  have breaks : BreaksTo applyHead.text broken :=
    ⟨"fn apply".toList, "f: fn(Int) -> Int, x: Int) -> Int \x7b".toList, "f:\nfn(Int) -> Int,\nx: Int) -> Int \x7b".toList,
      by decide, rfl, rfl, by decide⟩
  obtain ⟨f, g, first, second, _, _, _, _, _, _, same⟩ := signature_broken_iff ⟨"stdlib", false⟩ applyHead breaks below
  exact ⟨breaks, f, g, first, second, same.mpr (Or.inr (by decide))⟩

end Aiken
end DeclIndex
