import EntityGraph.Json.Basic
import EntityGraph.Number.Decimal
import EntityGraph.Text.Hex
import EntityGraph.Yaml.Node

/-!
The values of scalars. A plain text without a tag is null, a truth value or a number if it is spelled like one, and a
string otherwise; a tag of a standard type demands that spelling of any text.
-/
namespace EntityGraph.Yaml.Scalar

def null? (text : String) : Option Json :=
  if ["null", "Null", "NULL", "~"].contains text then some .null else none

def bool? (text : String) : Option Json :=
  if ["true", "True", "TRUE"].contains text then some (.bool true)
  else if ["false", "False", "FALSE"].contains text then some (.bool false)
  else none

/-- The value of digits in a base; there has to be one. -/
def digits? (base : Nat) (digits : List Char) : Option Nat := do
  guard (!digits.isEmpty)
  let values ← digits.mapM hexValue?
  guard (values.all (· < base))
  some (values.foldl (fun n d => base * n + d) 0)

/-- Digits behind a mark for their base; decimal digits without one. -/
def magnitude? : List Char → Option Nat
  | '0' :: 'x' :: digits => digits? 16 digits
  | '0' :: 'o' :: digits => digits? 8 digits
  | '0' :: 'b' :: digits => digits? 2 digits
  | digits => digits? 10 digits

def withoutSign : List Char → List Char
  | '+' :: rest => rest
  | '-' :: rest => rest
  | rest => rest

/-- A number may not begin with a zero that another digit follows. -/
def hasLeadingZero (text : List Char) : Bool :=
  match withoutSign text with
  | '0' :: digits => !digits.isEmpty && digits.all Char.isDigit
  | _ => false

def wholeNumber? (text : List Char) : Option Int :=
  if hasLeadingZero text then none
  else match text with
    | '-' :: rest => (magnitude? rest).map fun n => -(n : Int)
    | '+' :: rest => (magnitude? rest).map Int.ofNat
    | rest => (magnitude? rest).map Int.ofNat

/-- A whole number of 64 bits is a value. -/
def fits (n : Int) : Bool := -0x8000_0000_0000_0000 ≤ n && n < 0x1_0000_0000_0000_0000

/-- A whole number of 128 bits is taken for one, even if it is too large for a value. -/
def isTaken (n : Int) : Bool :=
  -0x8000_0000_0000_0000_0000_0000_0000_0000 ≤ n && n < 0x1_0000_0000_0000_0000_0000_0000_0000_0000

/-- A number that is not whole; the words for infinity and "not a number" have no value. -/
def double? (text : String) : Option Json :=
  let chars := text.toList
  let unsigned := match chars with
    | '+' :: rest => rest
    | rest => rest
  let signs := ((unsigned.head?.map fun c => c = '+' || c = '-').getD false) && unsigned.length < chars.length
  if signs then none
  else if [".inf", ".Inf", ".INF"].contains (String.ofList unsigned) then some .null
  else if ["-.inf", "-.Inf", "-.INF", ".nan", ".NaN", ".NAN"].contains text then some .null
  else ((Double.ofText? (String.ofList unsigned)).filter Double.isFinite).map Json.double

def untagged? (text : String) : Option Json :=
  if text.isEmpty then some .null
  else match (null? text).or (bool? text) with
    | some value => some value
    | none =>
      match (wholeNumber? text.toList).filter isTaken with
      | some n => if fits n then some (.integer n) else none
      | none =>
        if hasLeadingZero text.toList then some (.string text)
        else some ((double? text).getD (.string text))

/-- The value of a text with a tag; a tag of the writer's own has no value. -/
def tagged? (tag : Tag) (text : String) : Option Json :=
  if tag.isLocal then none
  else if tag = Tag.standard "bool" then bool? text
  else if tag = Tag.standard "int" then ((wholeNumber? text.toList).filter fits).map Json.integer
  else if tag = Tag.standard "float" then double? text
  else if tag = Tag.standard "null" then null? text
  else some (.string text)

def value? (tag : Option Tag) (isPlain : Bool) (text : String) : Option Json :=
  match tag with
  | some tag => tagged? tag text
  | none => if isPlain then untagged? text else some (.string text)

end EntityGraph.Yaml.Scalar
