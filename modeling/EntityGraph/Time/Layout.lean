import EntityGraph.Time.Instant
import EntityGraph.Text.Blank

/-!
Reading moments from text. A layout lists what a text has to hold; `Instant.ofText?` reads a complete timestamp in
its exact layout, `Instant.ofLenientText?` one with loose digits and blanks, and `Instant.ofLocalText?` one without
an offset.
-/
namespace EntityGraph

inductive TimeField where
  | year
  | month
  | day
  | hour
  | minute
  | second

inductive LayoutItem where
  /-- A field with exactly so many digits. -/
  | digits (field : TimeField) (count : Nat)
  /-- A field with up to so many digits, blanks before it allowed; a year may have a sign, and then any length. -/
  | number (field : TimeField) (most : Nat)
  | mark (allowed : List Char)
  | blanks
  /-- A point and digits, or nothing. -/
  | fraction

abbrev Layout := List LayoutItem

structure TimeFields where
  year : Int := 0
  month : Nat := 1
  day : Nat := 1
  hour : Nat := 0
  minute : Nat := 0
  second : Nat := 0
  nano : Nat := 0

namespace TimeFields

/-- Stores the value of a field if the field can have it. -/
def set? (fields : TimeFields) (field : TimeField) (negative : Bool) (value : Nat) : Option TimeFields :=
  match field with
  | .year => some { fields with year := if negative then -(value : Int) else value }
  | .month => if 1 ≤ value ∧ value ≤ 12 then some { fields with month := value } else none
  | .day => if 1 ≤ value ∧ value ≤ 31 then some { fields with day := value } else none
  | .hour => if value ≤ 23 then some { fields with hour := value } else none
  | .minute => if value ≤ 59 then some { fields with minute := value } else none
  | .second => if value ≤ 60 then some { fields with second := value } else none

/-- Between `least` and `most` digits from the front of a text. -/
def takeNumber? (least most : Nat) (text : List Char) : Option (Nat × List Char) :=
  let digits := (text.take most).takeWhile Char.isDigit
  if digits.length < least then none else some (Decimal.ofDigits digits, text.drop digits.length)

/-- Nanoseconds from the digits after a point; digits beyond the ninth are passed over. -/
def takeFraction? (text : List Char) : Option (Nat × List Char) :=
  let digits := text.takeWhile Char.isDigit
  if digits.isEmpty then none
  else
    let kept := digits.take 9
    some (Decimal.ofDigits kept * Nat.pow 10 (9 - kept.length), text.drop digits.length)

def readItem? (fields : TimeFields) (text : List Char) : LayoutItem → Option (TimeFields × List Char)
  | .digits field count => do
    let (value, rest) ← takeNumber? count count text
    some (← fields.set? field false value, rest)
  | .number field most => do
    let start := text.dropWhile isBlank
    let (negative, length, start) := match field, start with
      | .year, '-' :: rest => (true, rest.length, rest)
      | .year, '+' :: rest => (false, rest.length, rest)
      | _, _ => (false, most, start)
    let (value, rest) ← takeNumber? 1 length start
    some (← fields.set? field negative value, rest)
  | .mark allowed =>
    match text with
    | c :: rest => if allowed.contains c then some (fields, rest) else none
    | [] => none
  | .blanks => some (fields, text.dropWhile isBlank)
  | .fraction =>
    match text with
    | '.' :: rest => do
      let (nano, rest) ← takeFraction? rest
      some ({ fields with nano }, rest)
    | _ => some (fields, text)

/-- The fields that a text holds in a layout, and what follows. -/
def read? : Layout → TimeFields → List Char → Option (TimeFields × List Char)
  | [], fields, text => some (fields, text)
  | item :: more, fields, text => do
    let (fields, rest) ← fields.readItem? text item
    read? more fields rest

/-- The moment that the fields describe at an offset of so many seconds, if the date exists. -/
def instant? (fields : TimeFields) (offset : Int) : Option Instant :=
  if Calendar.isDate fields.year fields.month fields.day then
    let leap := fields.second = 60
    let second := if leap then 59 else fields.second
    let day := Calendar.dayNumber fields.year fields.month fields.day
    let clock : Nat := fields.hour * 3600 + fields.minute * 60 + second
    let moment := day * 86400 + clock - offset
    if Calendar.inRange (Calendar.date (moment / 86400)).1 then
      some ⟨moment, if leap then fields.nano + 1_000_000_000 else fields.nano⟩
    else none
  else none

/-- An offset from universal time in seconds: `Z`, or a sign, two digits of hours and two of minutes.
`separator?` passes over what stands between them. -/
def takeOffset? (separator? : List Char → Option (List Char)) : List Char → Option (Int × List Char)
  | 'Z' :: rest => some (0, rest)
  | 'z' :: rest => some (0, rest)
  | sign :: rest => do
    let negative ← if sign = '+' then some false else if sign = '-' ∨ sign = '−' then some true else none
    let (hours, rest) ← takeNumber? 2 2 rest
    let rest ← separator? rest
    let (minutes, rest) ← takeNumber? 2 2 rest
    guard (minutes ≤ 59)
    let seconds : Int := hours * 3600 + minutes * 60
    guard (seconds < 86400)
    some (if negative then -seconds else seconds, rest)
  | [] => none

def colon? : List Char → Option (List Char)
  | ':' :: rest => some rest
  | _ => none

/-- Any colons and blanks. -/
def colonsOrBlanks? (text : List Char) : Option (List Char) :=
  some (text.dropWhile fun c => c = ':' || isBlank c)

end TimeFields

namespace Layout

/-- Four, two and two digits, then two, two and two, with an optional fraction. -/
def exact : Layout :=
  [.digits .year 4, .mark ['-'], .digits .month 2, .mark ['-'], .digits .day 2, .mark ['T', 't', ' '],
   .digits .hour 2, .mark [':'], .digits .minute 2, .mark [':'], .digits .second 2, .fraction]

/-- The same fields with loose digits, and blanks around them. -/
def lenient : Layout :=
  [.number .year 4, .blanks, .mark ['-'], .number .month 2, .blanks, .mark ['-'], .number .day 2,
   .mark ['T', 't', ' '], .number .hour 2, .blanks, .mark [':'], .number .minute 2, .blanks, .mark [':'],
   .number .second 2, .fraction, .blanks]

/-- A date, `middle`, hours and minutes, `tail`. -/
def naive (middle : LayoutItem) (tail : Layout) : Layout :=
  [.number .year 4, .mark ['-'], .number .month 2, .mark ['-'], .number .day 2, middle, .number .hour 2,
   .mark [':'], .number .minute 2] ++ tail

/-- The layouts of a timestamp without an offset, in the order they are tried. -/
def locals : List Layout :=
  let seconds : Layout := [.mark [':'], .number .second 2, .fraction]
  [naive (.mark ['T']) seconds, naive .blanks seconds, naive (.mark ['T']) [], naive .blanks []]

end Layout

namespace Instant

/-- The moment that a complete timestamp with an offset names. -/
def ofText? (text : String) : Option Instant := do
  let (fields, rest) ← TimeFields.read? Layout.exact {} text.toList
  let (offset, rest) ← TimeFields.takeOffset? TimeFields.colon? rest
  guard rest.isEmpty
  fields.instant? offset

/-- Like `ofText?` for a loosely written timestamp; the offset may also be `UTC`. -/
def ofLenientText? (text : String) : Option Instant := do
  let (fields, rest) ← TimeFields.read? Layout.lenient {} text.toList
  let (offset, rest) ←
    if (rest.take 3).map Char.toUpper = ['U', 'T', 'C'] then some (0, rest.drop 3)
    else TimeFields.takeOffset? TimeFields.colonsOrBlanks? rest
  guard (rest.all isBlank)
  fields.instant? offset

/-- The moment that a timestamp without an offset names, taken as universal time. -/
def ofLocalText? (text : String) : Option Instant :=
  Layout.locals.findSome? fun layout => do
    let (fields, rest) ← TimeFields.read? layout {} text.toList
    guard rest.isEmpty
    fields.instant? 0

end Instant

end EntityGraph
