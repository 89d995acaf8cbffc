import EntityGraph.Text.Category.Signs
import EntityGraph.Text.GraphemeExtend

/-!
Texts between quotes, with everything escaped that would not show as itself.
-/
namespace EntityGraph.Quoted

/-- Separators, controls, invisible and unassigned characters; a plain space is visible. -/
def invisible : List CodeSet :=
  [Category.spaceSeparators, Category.lineSeparators, Category.paragraphSeparators, Category.controls,
   Category.formats, Category.privateUse, Category.unassigned, graphemeExtend]

def isVisible (c : Char) : Bool := c = ' ' || !invisible.any fun set => set.containsChar c

private def codeEscape (c : Char) : List Char := "\\u\x7b".toList ++ Nat.toDigits 16 c.toNat ++ ['\x7d']

def escapeChar (c : Char) : List Char :=
  if c = Char.ofNat 0 then ['\\', '0']
  else if c = '\t' then ['\\', 't']
  else if c = '\r' then ['\\', 'r']
  else if c = '\n' then ['\\', 'n']
  else if c = '"' then ['\\', '"']
  else if c = '\\' then ['\\', '\\']
  else if isVisible c then [c]
  else codeEscape c

def text (s : String) : String := "\"" ++ String.ofList (s.toList.flatMap escapeChar) ++ "\""

def list (items : List String) : String := "[" ++ ", ".intercalate (items.map text) ++ "]"

end EntityGraph.Quoted
