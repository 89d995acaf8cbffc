import EntityGraph.Json.Basic
import EntityGraph.Number.Decimal
import EntityGraph.Text.Hex

/-!
Reading structured text. The text is cut into tokens, and the tokens are folded into a value over a stack of open
containers. Members with repeated keys are all kept.
-/
namespace EntityGraph.Json

inductive Token where
  | openArray
  | closeArray
  | openObject
  | closeObject
  | colon
  | comma
  | scalar (value : Json)

/-- A piece of a quoted string: a character as it stands or a 16-bit unit from an escape. -/
inductive Piece where
  | literal (c : Char)
  | unit (value : Nat)

/-- The character that a letter after a backslash stands for. -/
def escaped? : Char → Option Char
  | '"' => some '"'
  | '\\' => some '\\'
  | '/' => some '/'
  | 'b' => some (Char.ofNat 8)
  | 'f' => some (Char.ofNat 12)
  | 'n' => some '\n'
  | 'r' => some '\r'
  | 't' => some '\t'
  | _ => none

/-- The pieces of a string up to its closing quote, and what follows the quote. -/
def pieces? : List Char → Option (List Piece × List Char)
  | '"' :: rest => some ([], rest)
  | '\\' :: 'u' :: a :: b :: c :: d :: rest => do
    let value ← ofHex? [a, b, c, d]
    let (more, rest) ← pieces? rest
    some (.unit value :: more, rest)
  | '\\' :: letter :: rest => do
    let c ← escaped? letter
    let (more, rest) ← pieces? rest
    some (.literal c :: more, rest)
  | c :: rest => do
    guard (c ≠ '\\' ∧ 32 ≤ c.toNat)
    let (more, rest) ← pieces? rest
    some (.literal c :: more, rest)
  | [] => none

def isHighSurrogate (unit : Nat) : Bool := 0xD800 ≤ unit && unit ≤ 0xDBFF

def isLowSurrogate (unit : Nat) : Bool := 0xDC00 ≤ unit && unit ≤ 0xDFFF

/-- The characters of a string. A high surrogate has to stand right before a low one, and a low one right after. -/
def joinPieces? : List Piece → Option (List Char)
  | [] => some []
  | .literal c :: rest => (joinPieces? rest).map (c :: ·)
  | .unit high :: .unit low :: rest =>
    if isHighSurrogate high then do
      guard (isLowSurrogate low)
      let more ← joinPieces? rest
      some (Char.ofNat (0x10000 + 1024 * (high - 0xD800) + (low - 0xDC00)) :: more)
    else if isLowSurrogate high then none
    else (joinPieces? (.unit low :: rest)).map (Char.ofNat high :: ·)
  | .unit value :: rest => do
    guard (!isHighSurrogate value && !isLowSurrogate value)
    (joinPieces? rest).map (Char.ofNat value :: ·)

/-- As many leading digits as fit below `2 ^ 64`, the number of further ones, and the rest. -/
def fittingDigits (value : Nat) : List Char → Nat × Nat × List Char
  | [] => (value, 0, [])
  | c :: rest =>
    if c.isDigit then
      let next := 10 * value + Decimal.digitValue c
      if next < 0x1_0000_0000_0000_0000 then fittingDigits next rest
      else (value, (rest.takeWhile Char.isDigit).length + 1, rest.dropWhile Char.isDigit)
    else (value, 0, c :: rest)

/-- The powers of ten that a double can hold. -/
def tenTo (exponent : Nat) : Double := Double.ofRatio false (Nat.pow 10 exponent) 1

/-- `significand * 10 ^ exponent`, rounded once for the significand and once for each scaling step; absent when it is
too large. -/
def scale? (significand : Nat) (exponent : Int) : Option Double :=
  let start := Double.ofInt significand
  if significand = 0 then some start
  else match exponent with
    | .ofNat power =>
      if 308 < power then none
      else
        let product := start.mul (tenTo power)
        if product.isFinite then some product else none
    | .negSucc power => some (down (power / 308 + 1) (power + 1) start)
where
  down : Nat → Nat → Double → Double
    | 0, _, x => x
    | fuel + 1, power, x =>
      if power ≤ 308 then x.div (tenTo power)
      else
        let smaller := x.div (tenTo 308)
        if smaller.equals 0 then smaller else down fuel (power - 308) smaller

/-- A minus sign, if there is one, and what follows it. -/
def takeMinus : List Char → Bool × List Char
  | '-' :: rest => (true, rest)
  | rest => (false, rest)

/-- The digits after a point, if there is one, and what follows them. -/
def takeFraction? : List Char → Option (Option (List Char) × List Char)
  | '.' :: rest =>
    let (digits, rest) := rest.span Char.isDigit
    if digits.isEmpty then none else some (some digits, rest)
  | rest => some (none, rest)

/-- The power of ten after a mark, if there is one, and what follows it. -/
def takePower? : List Char → Option (Option Int × List Char)
  | mark :: more =>
    if mark = 'e' ∨ mark = 'E' then
      let (negative, digits) := Decimal.takeSign more
      let (power, rest) := digits.span Char.isDigit
      if power.isEmpty then none
      else
        let size : Int := Decimal.ofDigits power
        some (some (if negative then -size else size), rest)
    else some (none, mark :: more)
  | [] => some (none, [])

/-- What the parts of a number stand for: a whole number inside `[-2 ^ 63, 2 ^ 64 - 1]` is an integer, every other
number a double. Digits that no longer fit below `2 ^ 64` only count towards the magnitude. -/
def ofNumeral? (negative : Bool) (whole : List Char) (fraction : Option (List Char)) (power : Option Int) :
    Option Json :=
  let (significand, dropped, _) := fittingDigits 0 whole
  let asDouble (significand : Nat) (power : Int) : Option Json :=
    (scale? significand power).map fun d => .double (if negative then d.negate else d)
  match fraction, power with
  | none, none =>
    if 0 < dropped then asDouble significand dropped
    else if negative then
      if significand = 0 ∨ 0x8000_0000_0000_0000 < significand then asDouble significand 0
      else some (.integer (-(significand : Int)))
    else some (.integer significand)
  | _, _ =>
    let digits := fraction.getD []
    let (significand, unread, _) := fittingDigits significand digits
    asDouble significand (dropped - (digits.length - unread : Nat) + power.getD 0)

def number? (text : List Char) : Option (Json × List Char) := do
  let (negative, body) := takeMinus text
  let (whole, rest) := body.span Char.isDigit
  guard (!whole.isEmpty && (whole.length = 1 || whole.head? ≠ some '0'))
  let (fraction, rest) ← takeFraction? rest
  let (power, rest) ← takePower? rest
  (ofNumeral? negative whole fraction power).map fun value => (value, rest)

def isSpace (c : Char) : Bool := c = ' ' || c = '\n' || c = '\t' || c = '\r'

/-- The first token of a text without leading blanks. -/
def token? : List Char → Option (Token × List Char)
  | [] => none
  | '[' :: rest => some (.openArray, rest)
  | ']' :: rest => some (.closeArray, rest)
  | '\x7b' :: rest => some (.openObject, rest)
  | '\x7d' :: rest => some (.closeObject, rest)
  | ':' :: rest => some (.colon, rest)
  | ',' :: rest => some (.comma, rest)
  | 't' :: 'r' :: 'u' :: 'e' :: rest => some (.scalar (.bool true), rest)
  | 'f' :: 'a' :: 'l' :: 's' :: 'e' :: rest => some (.scalar (.bool false), rest)
  | 'n' :: 'u' :: 'l' :: 'l' :: rest => some (.scalar .null, rest)
  | '"' :: rest => do
    let (pieces, rest) ← pieces? rest
    let chars ← joinPieces? pieces
    some (.scalar (.string (String.ofList chars)), rest)
  | text => (number? text).map fun (value, rest) => (.scalar value, rest)

/-- The tokens of a text; the fuel is at least its length. -/
def tokensWithin? : Nat → List Char → Option (List Token)
  | 0, text => if text.isEmpty then some [] else none
  | fuel + 1, text =>
    match text.dropWhile isSpace with
    | [] => some []
    | text => do
      let (token, rest) ← token? text
      let more ← tokensWithin? fuel rest
      some (token :: more)

def tokens? (text : List Char) : Option (List Token) := tokensWithin? text.length text

/-- A container that is still open, with what it holds so far in reverse. -/
inductive Frame where
  | array (items : List Json)
  | object (members : Members)
  | member (members : Members) (key : String)

/-- What may come next. -/
inductive Expectation where
  | value
  | valueOrClose
  | keyOrClose
  | key
  | colon
  | commaOrClose
  | finish (value : Json)

/-- The state of the fold: open containers, innermost first, and what may come next. -/
structure Reading where
  frames : List Frame
  expectation : Expectation

/-- At most so many containers are open at a time. -/
def maxNesting : Nat := 127

namespace Reading

/-- Puts a complete value into the innermost container, or finishes. -/
def complete (frames : List Frame) (value : Json) : Option Reading :=
  match frames with
  | [] => some ⟨[], .finish value⟩
  | .array items :: outer => some ⟨.array (value :: items) :: outer, .commaOrClose⟩
  | .member members key :: outer => some ⟨.object ((key, value) :: members) :: outer, .commaOrClose⟩
  | .object _ :: _ => none

def enter (frames : List Frame) (frame : Frame) (expectation : Expectation) : Option Reading :=
  if frames.length < maxNesting then some ⟨frame :: frames, expectation⟩ else none

def startValue (frames : List Frame) : Token → Option Reading
  | .openArray => enter frames (.array []) .valueOrClose
  | .openObject => enter frames (.object []) .keyOrClose
  | .scalar value => complete frames value
  | _ => none

def close (frames : List Frame) : Token → Option Reading
  | .closeArray =>
    match frames with
    | .array items :: outer => complete outer (.array items.reverse)
    | _ => none
  | .closeObject =>
    match frames with
    | .object members :: outer => complete outer (.object members.reverse)
    | _ => none
  | _ => none

def startKey (frames : List Frame) : Token → Option Reading
  | .scalar (.string key) =>
    match frames with
    | .object members :: outer => some ⟨.member members key :: outer, .colon⟩
    | _ => none
  | _ => none

def step (reading : Reading) (token : Token) : Option Reading :=
  match reading.expectation with
  | .value => startValue reading.frames token
  | .valueOrClose => (startValue reading.frames token).or (close reading.frames token)
  | .keyOrClose => (startKey reading.frames token).or (close reading.frames token)
  | .key => startKey reading.frames token
  | .colon =>
    match token with
    | .colon => some ⟨reading.frames, .value⟩
    | _ => none
  | .commaOrClose =>
    match token, reading.frames with
    | .comma, .array _ :: _ => some ⟨reading.frames, .value⟩
    | .comma, .object _ :: _ => some ⟨reading.frames, .key⟩
    | _, _ => close reading.frames token
  | .finish _ => none

end Reading

/-- The value that a text spells, with all members of its objects. -/
def read? (text : String) : Option Json := do
  let tokens ← tokens? text.toList
  let final ← tokens.foldlM Reading.step ⟨[], .value⟩
  match final.expectation with
  | .finish value => some value
  | _ => none

end EntityGraph.Json
