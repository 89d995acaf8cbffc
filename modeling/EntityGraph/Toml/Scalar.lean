import EntityGraph.Number.Decimal
import EntityGraph.Text.Hex
import EntityGraph.Time.Layout
import EntityGraph.Toml.Table

/-!
Numbers, dates and times of settings. Single underscores may stand between digits.
-/
namespace EntityGraph.Toml.Scalar

/-- Digits of a base without the underscores between them; there has to be a digit on both sides of each. -/
def ungrouped? (isDigit : Char → Bool) : List Char → Option (List Char)
  | [] => none
  | [c] => if isDigit c then some [c] else none
  | c :: '_' :: rest => if isDigit c then (ungrouped? isDigit rest).map (c :: ·) else none
  | c :: rest => if isDigit c then (ungrouped? isDigit rest).map (c :: ·) else none

/-- A whole number has to fit into 64 bits with a sign. -/
def bounded? (n : Int) : Option Value :=
  if -0x8000_0000_0000_0000 ≤ n ∧ n < 0x8000_0000_0000_0000 then some (.integer n) else none

def based? (base : Nat) (text : List Char) : Option Value := do
  let isDigit (c : Char) : Bool := ((hexValue? c).map (decide <| · < base)).getD false
  let values ← (← ungrouped? isDigit text).mapM hexValue?
  bounded? (values.foldl (fun n d => base * n + d) 0 : Nat)

/-- Decimal digits, of which the first is a zero only if it is the only one. -/
def decimal? (text : List Char) : Option (List Char) := do
  let digits ← ungrouped? Char.isDigit text
  guard (digits.length = 1 || digits.head? ≠ some '0')
  some digits

def integer? (text : List Char) : Option Value :=
  match text with
  | '0' :: 'x' :: digits => based? 16 digits
  | '0' :: 'o' :: digits => based? 8 digits
  | '0' :: 'b' :: digits => based? 2 digits
  | _ => do
    let (negative, body) := Decimal.takeSign text
    let n : Int := Decimal.ofDigits (← decimal? body)
    bounded? (if negative then -n else n)

/-- A fraction: nothing, or a point and digits. -/
def fraction? : List Char → Option (List Char)
  | [] => some []
  | '.' :: digits => (ungrouped? Char.isDigit digits).map ('.' :: ·)
  | _ => none

/-- An exponent behind its mark: a sign and digits. -/
def exponent? (text : List Char) : Option (List Char) := do
  let (negative, digits) := Decimal.takeSign text
  some ('e' :: (if negative then '-' else '+') :: (← ungrouped? Char.isDigit digits))

/-- A number with a fraction or an exponent, or a word for infinity or "not a number". Too large a number is refused
if it is positive. -/
def double? (text : List Char) : Option Value := do
  let (negative, body) := Decimal.takeSign text
  match String.ofList body with
  | "inf" => some (.double (Double.infinity negative))
  | "nan" => some (.double Double.nan)
  | _ =>
    let isMark (c : Char) : Bool := c = 'e' || c = 'E'
    let (number, tail) := body.span (!isMark ·)
    let (whole, point) := number.span (· ≠ '.')
    guard (!point.isEmpty || !tail.isEmpty)
    let exponent ← match tail with
      | [] => some []
      | _ :: digits => exponent? digits
    let spelled := (← decimal? whole) ++ (← fraction? point) ++ exponent
    let value ← Double.ofText? (String.ofList spelled)
    guard (value.isFinite || negative)
    some (.double (if negative then value.negate else value))

def dateLayout : Layout := [.digits .year 4, .mark ['-'], .digits .month 2, .mark ['-'], .digits .day 2]

def timeLayout : Layout := [.digits .hour 2, .mark [':'], .digits .minute 2, .mark [':'], .digits .second 2, .fraction]

/-- A date that exists, and what follows it. -/
def date? (text : List Char) : Option (List Char) := do
  let (fields, rest) ← TimeFields.read? dateLayout {} text
  guard (Calendar.isDate fields.year fields.month fields.day)
  some rest

/-- What follows a time. -/
def time? (text : List Char) : Option (List Char) := (TimeFields.read? timeLayout {} text).map Prod.snd

/-- An offset, or nothing. -/
def isOffset (text : List Char) : Bool :=
  match text with
  | [] => true
  | ['Z'] => true
  | ['z'] => true
  | sign :: clock =>
    (sign = '+' || sign = '-') &&
      ((TimeFields.read? [.digits .hour 2, .mark [':'], .digits .minute 2] {} clock).map (·.2.isEmpty)).getD false

/-- A time, or a date, or both with an offset or without one. -/
def isMoment (text : List Char) : Bool :=
  match date? text with
  | some [] => true
  | some (mark :: clock) =>
    (mark = 'T' || mark = 't' || mark = ' ') && ((time? clock).map isOffset).getD false
  | none => ((time? text).map List.isEmpty).getD false

/-- A character of a number, a date or a time. -/
def isPart (c : Char) : Bool := c.isAlphanum || "+-._:".toList.contains c

/-- The text of a number, a date or a time, and what follows it. A blank and a digit may follow a date. -/
def take (text : List Char) : List Char × List Char :=
  let (first, rest) := text.span isPart
  match rest with
  | ' ' :: c :: more =>
    if (date? first) = some [] && c.isDigit then
      let (second, rest) := (c :: more).span isPart
      (first ++ ' ' :: second, rest)
    else (first, rest)
  | _ => (first, rest)

/-- A number, a date or a time, and what follows it. -/
def value? (text : List Char) : Option (Value × List Char) := do
  let (word, rest) := take text
  let value ← if isMoment word then some .moment else (double? word).or (integer? word)
  some (value, rest)

end EntityGraph.Toml.Scalar
