import EntityGraph.Pattern.CharTest
import EntityGraph.Text.Category.Letters
import EntityGraph.Text.Letter
import EntityGraph.Text.Script
import EntityGraph.Text.Blank
import EntityGraph.Text.GraphemeExtend

/-!
Character classes by the name of a property: general categories, scripts and some yes-or-no properties. Names are
compared without regard to case, blanks, hyphens and low lines, and a leading `is` is passed over.
-/
namespace EntityGraph.Pattern.Property

/-- A name as it is looked up. -/
def plainName (name : String) : String :=
  let kept := (name.toList.filter fun c => c.toNat < 128 && c ≠ ' ' && c ≠ '_' && c ≠ '-').map Char.toLower
  match kept with
  | 'i' :: 's' :: rest => if rest = ['c'] then "isc" else String.ofList rest
  | kept => String.ofList kept

open Category in
def categories : List (List String × List CodeSet) :=
  [(["lu", "uppercaseletter"], [uppercaseLetters]),
   (["ll", "lowercaseletter"], [lowercaseLetters]),
   (["lt", "titlecaseletter"], [titlecaseLetters]),
   (["lm", "modifierletter"], [modifierLetters]),
   (["lo", "otherletter"], [otherLetters]),
   (["mn", "nonspacingmark"], [nonspacingMarks]),
   (["mc", "spacingmark"], [spacingMarks]),
   (["me", "enclosingmark"], [enclosingMarks]),
   (["nd", "decimalnumber", "digit"], [decimalDigits]),
   (["nl", "letternumber"], [letterNumbers]),
   (["no", "othernumber"], [otherNumbers]),
   (["pc", "connectorpunctuation"], [connectorPunctuation]),
   (["pd", "dashpunctuation"], [dashPunctuation]),
   (["ps", "openpunctuation"], [openPunctuation]),
   (["pe", "closepunctuation"], [closePunctuation]),
   (["pi", "initialpunctuation"], [initialPunctuation]),
   (["pf", "finalpunctuation"], [finalPunctuation]),
   (["po", "otherpunctuation"], [otherPunctuation]),
   (["sm", "mathsymbol"], [mathSymbols]),
   (["sc", "currencysymbol"], [currencySymbols]),
   (["sk", "modifiersymbol"], [modifierSymbols]),
   (["so", "othersymbol"], [otherSymbols]),
   (["zs", "spaceseparator"], [spaceSeparators]),
   (["zl", "lineseparator"], [lineSeparators]),
   (["zp", "paragraphseparator"], [paragraphSeparators]),
   (["cc", "control", "cntrl"], [controls]),
   (["cf", "format"], [formats]),
   (["co", "privateuse"], [privateUse]),
   (["cn", "unassigned"], [unassigned]),
   (["cs", "surrogate"], []),
   (["lc", "casedletter"], [uppercaseLetters, lowercaseLetters, titlecaseLetters]),
   (["l", "letter"], [uppercaseLetters, lowercaseLetters, titlecaseLetters, modifierLetters, otherLetters]),
   (["m", "mark", "combiningmark"], [nonspacingMarks, spacingMarks, enclosingMarks]),
   (["n", "number"], [decimalDigits, letterNumbers, otherNumbers]),
   (["p", "punctuation", "punct"],
    [connectorPunctuation, dashPunctuation, openPunctuation, closePunctuation, initialPunctuation, finalPunctuation,
     otherPunctuation]),
   (["s", "symbol"], [mathSymbols, currencySymbols, modifierSymbols, otherSymbols]),
   (["z", "separator"], [spaceSeparators, lineSeparators, paragraphSeparators]),
   (["c", "other"], [controls, formats, privateUse, unassigned])]

/-- Yes-or-no properties. -/
def binaries : List (List String × List CodeSet) :=
  [(["alpha", "alphabetic"], [alphabetic]),
   (["lower", "lowercase"], [Case.lowercase]),
   (["upper", "uppercase"], [Case.uppercase]),
   (["cased"], [Case.cased]),
   (["ci", "caseignorable"], [Case.caseIgnorable]),
   (["wspace", "whitespace", "space"], [blanks]),
   (["joinc", "joincontrol"], [joiners]),
   (["grext", "graphemeextend"], [graphemeExtend]),
   (["ahex", "asciihexdigit"], [[⟨48, 57, 1⟩, ⟨65, 70, 1⟩, ⟨97, 102, 1⟩]]),
   (["hex", "hexdigit"],
    [[⟨48, 57, 1⟩, ⟨65, 70, 1⟩, ⟨97, 102, 1⟩, ⟨65296, 65305, 1⟩, ⟨65313, 65318, 1⟩, ⟨65345, 65350, 1⟩]])]

def findNamed (name : String) (table : List (List String × List CodeSet)) : Option CharTest :=
  (table.find? fun row => row.1.contains name).map fun row => .sets row.2

def category? (name : String) : Option CharTest :=
  if name = "any" then some .any
  else if name = "ascii" then some .ascii
  else if name = "assigned" then some (.not (.sets [Category.unassigned]))
  else findNamed name categories

def script? (name : String) : Option CharTest := (List.lookup name Script.named).map fun set => .sets [set]

/-- The class that a query names. Alone, a property comes before a category and a category before a script. -/
def test? (name : String) (value : Option String) : Option CharTest :=
  let plain := plainName name
  match value with
  | none =>
    let binary := if plain = "cf" ∨ plain = "sc" ∨ plain = "lc" then none else findNamed plain binaries
    (binary.or (category? plain)).or (script? plain)
  | some value =>
    if plain = "gc" ∨ plain = "generalcategory" then category? (plainName value)
    else if plain = "sc" ∨ plain = "script" then script? (plainName value)
    else none

end EntityGraph.Pattern.Property
