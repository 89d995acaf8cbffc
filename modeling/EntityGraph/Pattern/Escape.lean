import EntityGraph.Pattern.Tree
import EntityGraph.Text.Blank
import EntityGraph.Text.Hex

/-!
The parts of a pattern that begin with a backslash. The readers take the text after what they have recognised and
return what is left; while blanks are ignored, `skip` passes over them and over comments.
-/
namespace EntityGraph.Pattern

/-- Passes over blanks and comments if they are ignored; a comment runs from a hash to the end of its line. -/
def skip (ignoring : Bool) : List Char → List Char
  | [] => []
  | c :: rest =>
    if !ignoring then c :: rest
    else if isBlank c then skip ignoring rest
    else if c = '#' then comment rest
    else c :: rest
where
  comment : List Char → List Char
    | [] => []
    | c :: rest => if c = '\n' then skip ignoring rest else comment rest

/-- One unit of a pattern or of a set. -/
inductive Primitive where
  | literal (c : Char) (isByte : Bool)
  | dot
  | place (kind : Place)
  | letter (kind : LetterClass) (negated : Bool)
  | property (query : PropertyQuery) (negated : Bool)

namespace Primitive

def toTree : Primitive → Tree
  | literal c isByte => .literal c isByte
  | dot => .dot
  | place kind => .place kind
  | letter kind negated => .letter kind negated
  | property query negated => .property query negated

/-- A place or a dot has no meaning inside a set. -/
def toSetTree? : Primitive → Option SetTree
  | literal c isByte => some (.literal c isByte)
  | letter kind negated => some (.letter kind negated)
  | property query negated => some (.property query negated)
  | dot => none
  | place _ => none

end Primitive

def fixedHex? (ignoring : Bool) : Nat → Nat → List Char → Option (Nat × List Char)
  | 0, value, text => some (value, text)
  | count + 1, value, text =>
    match skip ignoring text with
    | c :: rest => do fixedHex? ignoring count (16 * value + (← hexValue? c)) rest
    | [] => none

def bracedHex? (ignoring : Bool) (text : List Char) : Option (Nat × List Char) :=
  let body := text.takeWhile (· ≠ '\x7d')
  match text.drop body.length with
  | [] => none
  | _ :: rest => do
    let digits := skipAll body
    guard (!digits.isEmpty)
    some (← ofHex? digits, rest)
where
  skipAll (body : List Char) : List Char := if ignoring then body.filter (!isBlank ·) else body

/-- A character by its code, after one of the letters `x`, `u` and `U`. -/
def codeEscape? (ignoring : Bool) (letter : Char) (text : List Char) : Option (Primitive × List Char) :=
  match skip ignoring text with
  | '\x7b' :: rest => do
    let (code, rest) ← bracedHex? ignoring rest
    some (.literal (← charOfCode? code) false, rest)
  | text => do
    let count := if letter = 'x' then 2 else if letter = 'u' then 4 else 8
    let (code, rest) ← fixedHex? ignoring count 0 text
    some (.literal (← charOfCode? code) (letter = 'x'), rest)

/-- Splits a text at the first of some marks, tried in order. -/
def splitAtMark? (marks : List (List Char)) (text : List Char) : Option (List Char × List Char × List Char) :=
  marks.findSome? fun mark => go mark [] text
where
  go (mark before : List Char) : List Char → Option (List Char × List Char × List Char)
    | [] => none
    | c :: rest =>
      if mark.isPrefixOf (c :: rest) then some (before.reverse, mark, (c :: rest).drop mark.length)
      else go mark (c :: before) rest

/-- A class by property, after `p` or `P`: one letter, or names in braces with an equality or inequality sign. -/
def propertyEscape? (ignoring negated : Bool) (text : List Char) : Option (Primitive × List Char) :=
  match skip ignoring text with
  | [] => none
  | '\x7b' :: rest =>
    let body := rest.takeWhile (· ≠ '\x7d')
    match rest.drop body.length with
    | [] => none
    | _ :: rest =>
      let name := if ignoring then body.filter (!isBlank ·) else body
      match splitAtMark? [['!', '='], [':'], ['=']] name with
      | some (left, mark, right) =>
        let query : PropertyQuery := ⟨String.ofList left, some (String.ofList right)⟩
        some (.property query (negated != (mark = ['!', '='])), rest)
      | none => some (.property ⟨String.ofList name, none⟩ negated, rest)
  | c :: rest => if c = '\\' then none else some (.property ⟨String.ofList [c], none⟩ negated, rest)

/-- Punctuation means itself after a backslash; letters and digits are kept for other uses. -/
def isEscapable (c : Char) : Bool := c.toNat < 128 && !c.isAlphanum && c ≠ '<' && c ≠ '>'

/-- The kind of a word boundary by its name in braces. -/
def wordPlace? : String → Option Place
  | "start" => some .wordStart
  | "end" => some .wordEnd
  | "start-half" => some .wordStartHalf
  | "end-half" => some .wordEndHalf
  | _ => none

/-- A word boundary, after `b`; braces that begin with a letter name a kind, all others are left for a count. -/
def boundaryEscape? (ignoring : Bool) (text : List Char) : Option (Primitive × List Char) :=
  match text with
  | '\x7b' :: rest =>
    match skip ignoring rest with
    | [] => none
    | c :: more =>
      if c.isAlpha || c = '-' then
        let (name, rest) := nameIn (c :: more)
        match rest with
        | '\x7d' :: rest => do some (.place (← wordPlace? (String.ofList name)), rest)
        | _ => none
      else some (.place .wordBoundary, text)
  | text => some (.place .wordBoundary, text)
where
  nameIn (text : List Char) : List Char × List Char :=
    let body := text.takeWhile fun c => c.isAlpha || c = '-' || (ignoring && isBlank c)
    (body.filter (!isBlank ·), text.drop body.length)

def escape? (ignoring : Bool) : List Char → Option (Primitive × List Char)
  | [] => none
  | c :: rest =>
    match c with
    | 'x' => codeEscape? ignoring c rest
    | 'u' => codeEscape? ignoring c rest
    | 'U' => codeEscape? ignoring c rest
    | 'p' => propertyEscape? ignoring false rest
    | 'P' => propertyEscape? ignoring true rest
    | 'd' => some (.letter .digit false, rest)
    | 'D' => some (.letter .digit true, rest)
    | 's' => some (.letter .space false, rest)
    | 'S' => some (.letter .space true, rest)
    | 'w' => some (.letter .word false, rest)
    | 'W' => some (.letter .word true, rest)
    | 'a' => some (.literal (Char.ofNat 7) false, rest)
    | 'f' => some (.literal (Char.ofNat 12) false, rest)
    | 't' => some (.literal '\t' false, rest)
    | 'n' => some (.literal '\n' false, rest)
    | 'r' => some (.literal '\r' false, rest)
    | 'v' => some (.literal (Char.ofNat 11) false, rest)
    | 'A' => some (.place .textStart, rest)
    | 'z' => some (.place .textEnd, rest)
    | 'b' => boundaryEscape? ignoring rest
    | 'B' => some (.place .noWordBoundary, rest)
    | '<' => some (.place .wordStart, rest)
    | '>' => some (.place .wordEnd, rest)
    | c => if isEscapable c then some (.literal c false, rest) else none

end EntityGraph.Pattern
