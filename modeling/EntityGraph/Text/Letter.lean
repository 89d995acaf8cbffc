import EntityGraph.Text.Alphabetic
import EntityGraph.Text.Category.Marks
import EntityGraph.Text.Category.Signs

/-!
Which characters make up words.
-/
namespace EntityGraph

/-- Decimal digits, letter numbers and other numbers. -/
def isNumeric (c : Char) : Bool :=
  Category.decimalDigits.containsChar c || Category.letterNumbers.containsChar c
    || Category.otherNumbers.containsChar c

def isAlphanumeric (c : Char) : Bool := alphabetic.containsChar c || isNumeric c

def isDecimalDigit (c : Char) : Bool := Category.decimalDigits.containsChar c

/-- The two invisible characters that join or part their neighbours. -/
def joiners : CodeSet := [⟨0x200C, 0x200D, 1⟩]

/-- The sets of word characters: letters, marks, decimal digits, connectors and joiners. -/
def wordSets : List CodeSet :=
  [alphabetic, Category.nonspacingMarks, Category.spacingMarks, Category.enclosingMarks, Category.decimalDigits,
   Category.connectorPunctuation, joiners]

def isWordChar (c : Char) : Bool := wordSets.any fun set => set.containsChar c

end EntityGraph
