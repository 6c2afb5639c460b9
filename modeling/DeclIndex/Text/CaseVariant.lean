import DeclIndex.Text.Lower

/-!
# Case variants

The characters that count as one when case is ignored.
-/

namespace DeclIndex.Text

/-- Small letters that count as one although neither is the small letter of the other. -/
def kindred : List (List Nat) := [
  [0x69, 0x131], [0x73, 0x17F], [0xB5, 0x3BC], [0x345, 0x3B9, 0x1FBE], [0x390, 0x1FD3], [0x3B0, 0x1FE3],
  [0x3B2, 0x3D0], [0x3B5, 0x3F5], [0x3B8, 0x3D1], [0x3BA, 0x3F0], [0x3C0, 0x3D6], [0x3C1, 0x3F1],
  [0x3C2, 0x3C3], [0x3C6, 0x3D5], [0x432, 0x1C80], [0x434, 0x1C81], [0x43E, 0x1C82], [0x441, 0x1C83],
  [0x442, 0x1C84, 0x1C85], [0x44A, 0x1C86], [0x463, 0x1C87], [0x1C88, 0xA64B], [0x1E61, 0x1E9B],
  [0xFB05, 0xFB06]]

/-- The small letter of a character as one character. -/
def smallLetter (c : Char) : Char :=
  if c.toNat = 0x130 then 'i' else lowerChar c

/-- The capitals of a small letter. -/
def capitals (small : Nat) : List Nat :=
  (if 97 ≤ small && small ≤ 122 then [small - 32] else []) ++ (if small = 0x69 then [0x130] else []) ++
    caseRuns.filterMap fun run =>
      let capital := ((small : Int) - run.distance).toNat
      if run.first ≤ capital && capital ≤ run.last && (capital - run.first) % run.step == 0 then some capital
      else none

/-- All code points that count as one with a character when case is ignored, its own included. -/
def caseVariants (c : Char) : List Nat :=
  let small := (smallLetter c).toNat
  let smalls := small :: (kindred.find? (·.contains small)).getD []
  c.toNat :: smalls.flatMap fun small => small :: capitals small

end DeclIndex.Text
