import EntityGraph.Text.Case.Lower

/-!
Finding one text in another, with and without regard to case.
-/
namespace EntityGraph

/-- The characters of `needle` stand next to each other somewhere in a list. -/
def occursIn (needle : List Char) : List Char → Bool
  | [] => needle.isEmpty
  | c :: rest => needle.isPrefixOf (c :: rest) || occursIn needle rest

def containsText (text needle : String) : Bool := occursIn needle.toList text.toList

def startsWithText (text start : String) : Bool := start.toList.isPrefixOf text.toList

def endsWithText (text ending : String) : Bool := ending.toList.isSuffixOf text.toList

end EntityGraph
