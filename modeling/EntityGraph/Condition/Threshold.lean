import EntityGraph.Json.Basic
import EntityGraph.Number.Decimal
import EntityGraph.Text.Letter
import EntityGraph.Text.Blank

/-!
Thresholds for scores, such as `> 0.7`.
-/
namespace EntityGraph

inductive Comparison where
  | gte
  | gt
  | lte
  | lt
  | eq
  | ne
deriving DecidableEq

namespace Comparison

def symbol : Comparison → String
  | gte => ">="
  | gt => ">"
  | lte => "<="
  | lt => "<"
  | eq => "=="
  | ne => "!="

/-- The comparison at the start of a text, and what follows. -/
def take? : List Char → Option (Comparison × List Char)
  | '>' :: '=' :: rest => some (gte, rest)
  | '<' :: '=' :: rest => some (lte, rest)
  | '>' :: rest => some (gt, rest)
  | '<' :: rest => some (lt, rest)
  | '=' :: '=' :: rest => some (eq, rest)
  | '!' :: '=' :: rest => some (ne, rest)
  | _ => none

end Comparison

structure Threshold where
  comparison : Comparison
  value : Double
deriving DecidableEq

namespace Threshold

def atLeast (value : Double) : Threshold := ⟨.gte, value⟩

/-- A comparison followed by a number of digits, points and hyphens. -/
def ofComparison? (text : String) : Option Threshold := do
  let (comparison, rest) ← Comparison.take? (trimChars text.toList)
  let number := rest.dropWhile isBlank
  guard (!number.isEmpty && number.all fun c => c = '-' || c = '.' || isDecimalDigit c)
  some ⟨comparison, ← Double.ofText? (String.ofList number)⟩

/-- The threshold of a text: a comparison, or a number to be reached. -/
def ofText? (text : String) : Option Threshold :=
  (ofComparison? text).or ((Double.ofText? (trim text)).map atLeast)

/-- The threshold of a clause; what cannot be read asks for a score of zero. -/
def ofJson (spec : Json) : Threshold :=
  match spec with
  | .string text => (ofText? text).getD (atLeast 0)
  | other => atLeast (other.asDouble?.getD 0)

def accepts (threshold : Threshold) (score : Double) : Bool :=
  let order := score.compare? threshold.value
  match threshold.comparison with
  | .gte => order = some .gt || order = some .eq
  | .gt => order = some .gt
  | .lte => order = some .lt || order = some .eq
  | .lt => order = some .lt
  | .eq => order = some .eq
  | .ne => order ≠ some .eq

end Threshold

end EntityGraph
