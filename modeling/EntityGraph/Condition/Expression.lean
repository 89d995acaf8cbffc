import EntityGraph.Graph.Entity
import EntityGraph.Text.Letter
import EntityGraph.Text.Search

/-!
Conditions written on one line, such as `age > 30`. A line is a field of word characters, an operator, and a value: a
quoted text up to the last quote of the line, or everything up to the next blank. Of several readings the longest
field is taken, then the longest operator.
-/
namespace EntityGraph

inductive ExpressionOperator where
  | gt
  | lt
  | gte
  | lte
  | eq
  | ne
  | contains
  /-- Made of comparison signs, but no comparison. -/
  | unsupported
deriving DecidableEq

structure Expression where
  field : String
  operator : ExpressionOperator
  value : String
deriving DecidableEq

namespace ExpressionOperator

def isSign (c : Char) : Bool := c = '>' || c = '<' || c = '=' || c = '!'

def ofSigns (signs : List Char) : ExpressionOperator :=
  match signs with
  | ['>'] => gt
  | ['<'] => lt
  | ['>', '='] => gte
  | ['<', '='] => lte
  | ['=', '='] => eq
  | ['!', '='] => ne
  | _ => unsupported

/-- The letters of the word operator, each in all its cases. -/
def wordLetters : List (List Char) :=
  [['c', 'C'], ['o', 'O'], ['n', 'N'], ['t', 'T'], ['a', 'A'], ['i', 'I'], ['n', 'N'], ['s', 'S', 'ſ']]

/-- What follows the word operator. -/
def afterWord? : List (List Char) → List Char → Option (List Char)
  | [], text => some text
  | letter :: more, c :: rest => if letter.contains c then afterWord? more rest else none
  | _ :: _, [] => none

end ExpressionOperator

namespace Expression

def isQuote (c : Char) : Bool := c = '"' || c = '\''

def trimQuotes (cs : List Char) : List Char := ((cs.dropWhile isQuote).reverse.dropWhile isQuote).reverse

/-- A value between quotes: from a quote to the last other quote before the end of the line. -/
def quoted? : List Char → Option (List Char)
  | [] => none
  | c :: rest =>
    if isQuote c then
      let upToLast := ((rest.takeWhile (· ≠ '\n')).reverse.dropWhile fun c => !isQuote c).reverse
      if upToLast.isEmpty then none else some (c :: upToLast)
    else none

/-- The value at the start of a text, after blanks: quoted if it can be, else up to the next blank. -/
def value? (text : List Char) : Option (List Char) :=
  let text := text.dropWhile isBlank
  match quoted? text with
  | some value => some value
  | none => if text.isEmpty then none else some (text.takeWhile (!isBlank ·))

/-- Gives up one sign after the other until a value follows. -/
def signsThenValue? (text : List Char) : Nat → Option (ExpressionOperator × List Char)
  | 0 => none
  | count + 1 =>
    match value? (text.drop (count + 1)) with
    | some value => some (.ofSigns (text.take (count + 1)), value)
    | none => signsThenValue? text count

/-- The operator and the value at the start of a text, after blanks. -/
def operatorAndValue? (text : List Char) : Option (ExpressionOperator × List Char) :=
  let text := text.dropWhile isBlank
  match signsThenValue? text (text.takeWhile ExpressionOperator.isSign).length with
  | some found => some found
  | none => do
    let rest ← ExpressionOperator.afterWord? ExpressionOperator.wordLetters text
    some (.contains, ← value? rest)

/-- Gives up one character of the field after the other until an operator and a value follow. -/
def fieldFirst? (text : List Char) : Nat → Option Expression
  | 0 => none
  | count + 1 =>
    match operatorAndValue? (text.drop (count + 1)) with
    | some (operator, value) =>
      some ⟨String.ofList (text.take (count + 1)), operator, String.ofList (trimQuotes value)⟩
    | none => fieldFirst? text count

/-- The condition at the start of a line, after blanks. -/
def ofText? (text : String) : Option Expression :=
  let text := text.toList.dropWhile isBlank
  fieldFirst? text (text.takeWhile isWordChar).length

def compareNumbers (operator : ExpressionOperator) (a b : Double) : Bool :=
  match operator with
  | .gt => a.compare? b = some .gt
  | .lt => a.compare? b = some .lt
  | .gte => a.compare? b = some .gt || a.compare? b = some .eq
  | .lte => a.compare? b = some .lt || a.compare? b = some .eq
  | .eq => a.equals b
  | .ne => !a.equals b
  | .contains => false
  | .unsupported => false

/-- Compares an attribute: parts of a text without regard to case, numbers by value, and other texts only for being
the same. -/
def holds (condition : Expression) (actual : Value) : Bool :=
  if condition.operator = .contains then containsText (lower actual.asText) (lower condition.value)
  else match actual.asNumber?, Double.ofText? (trim condition.value) with
    | some a, some b => compareNumbers condition.operator a b
    | _, _ =>
      match condition.operator with
      | .eq => actual.asText == condition.value
      | .ne => actual.asText != condition.value
      | _ => false

/-- An attribute that is missing or null never compares. -/
def evaluate (condition : Expression) (entity : Entity) : Bool :=
  match entity.attribute? condition.field with
  | none => false
  | some actual => !actual.isNull && condition.holds actual

end Expression

end EntityGraph
