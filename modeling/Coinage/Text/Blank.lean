/-!
# Blank characters

Numbers and coin expressions may stand between blanks, and the members of a
list of coins may be separated by them.  One class of blanks serves all three
purposes: the twenty-nine characters listed here by their code points.  It is
wider than the class of core, which knows only four of them.
-/

namespace Coinage.Text

/-- The code points of the blanks, as first and last members of runs. -/
def blankRuns : List (Nat × Nat) :=
  [(0x09, 0x0D), (0x1C, 0x20), (0x85, 0x85), (0xA0, 0xA0), (0x1680, 0x1680),
    (0x2000, 0x200A), (0x2028, 0x2029), (0x202F, 0x202F), (0x205F, 0x205F),
    (0x3000, 0x3000)]

/-- A character is blank if its code point lies in one of the runs. -/
def isBlank (character : Char) : Bool :=
  blankRuns.any fun run =>
    run.1 ≤ character.toNat && character.toNat ≤ run.2

/-- Drop the blanks at both ends of a text. -/
def strip (text : List Char) : List Char :=
  ((text.dropWhile isBlank).reverse.dropWhile isBlank).reverse

example : isBlank '\u3000' = true ∧ isBlank '\u200b' = false := by decide

example : strip " a b\t".toList = "a b".toList := by decide

end Coinage.Text
