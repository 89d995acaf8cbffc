import EntityGraph.Text.Case.Tables

/-!
Lower-casing. Every character is mapped on its own, except that a capital sigma at the end of a word becomes a final
sigma, and a dotted capital I becomes an i with a combining dot.
-/
namespace EntityGraph

namespace Case

def capitalSigma : Char := 'Σ'
def smallSigma : Char := 'σ'
def finalSigma : Char := 'ς'

/-- A character with case comes first, apart from characters that case looks through. -/
def casedAhead (cs : List Char) : Bool :=
  match cs.dropWhile caseIgnorable.containsChar with
  | [] => false
  | c :: _ => cased.containsChar c

/-- The lower-case form of a character without context. -/
def lowerChar (c : Char) : List Char :=
  if c = 'İ' then ['i', Char.ofNat 0x307] else [Char.ofNat (shiftCode lowerShifts c.toNat)]

/-- Lower-cases a text; `before` is what precedes it, in reverse. -/
def lowerFrom (before : List Char) : List Char → List Char
  | [] => []
  | c :: rest =>
    let mapped :=
      if c = capitalSigma then
        if casedAhead before && !casedAhead rest then [finalSigma] else [smallSigma]
      else lowerChar c
    mapped ++ lowerFrom (c :: before) rest

end Case

def lowerChars (cs : List Char) : List Char := Case.lowerFrom [] cs

def lower (s : String) : String := String.ofList (lowerChars s.toList)

end EntityGraph
