import EntityGraph.Text.Hex
import EntityGraph.Yaml.Cursor

/-!
The texts of scalars: quoted, plain and in blocks. Each reader starts behind the mark that tells the style, and gives
the text and the place behind the scalar. A scalar may run over several lines, which are folded; a line that would
start or end a document may not stand inside quotes and ends a plain text.
-/
namespace EntityGraph.Yaml

abbrev Scanned := List Char × Cursor

private def prepend (text : List Char) (scanned : Scanned) : Scanned := (text ++ scanned.1, scanned.2)

namespace Quoted

/-- A text up to its single quote; a quote inside is written twice. -/
def single? : Nat → Cursor → Option Scanned
  | 0, _ => none
  | fuel + 1, cursor =>
    if cursor.isAtBoundary then none
    else match cursor.rest with
      | [] => none
      | '\'' :: '\'' :: _ => (single? fuel (cursor.advanceBy 2)).map (prepend ['\''])
      | '\'' :: _ => some ([], cursor.advance)
      | c :: _ =>
        if isGap c then
          let (gap, next) := cursor.takeWhile isGap
          (single? fuel next).map (prepend (foldGap gap))
        else (single? fuel cursor.advance).map (prepend [c])

/-- The character with a code of so many digits, and the number of characters that name it. -/
def coded? (count : Nat) (text : List Char) : Option (Char × Nat) := do
  guard (count ≤ text.length)
  let c ← charOfCode? (← ofHex? (text.take count))
  some (c, count + 1)

/-- What the text after a backslash stands for, and the number of characters that name it. -/
def escaped? : List Char → Option (Char × Nat)
  | '0' :: _ => some (Char.ofNat 0, 1)
  | 'a' :: _ => some (Char.ofNat 7, 1)
  | 'b' :: _ => some (Char.ofNat 8, 1)
  | 't' :: _ => some ('\t', 1)
  | '\t' :: _ => some ('\t', 1)
  | 'n' :: _ => some ('\n', 1)
  | 'v' :: _ => some (Char.ofNat 11, 1)
  | 'f' :: _ => some (Char.ofNat 12, 1)
  | 'r' :: _ => some ('\r', 1)
  | 'e' :: _ => some (Char.ofNat 27, 1)
  | ' ' :: _ => some (' ', 1)
  | '"' :: _ => some ('"', 1)
  | '/' :: _ => some ('/', 1)
  | '\\' :: _ => some ('\\', 1)
  | 'N' :: _ => some (Char.ofNat 0x85, 1)
  | '_' :: _ => some (Char.ofNat 0xA0, 1)
  | 'L' :: _ => some (Char.ofNat 0x2028, 1)
  | 'P' :: _ => some (Char.ofNat 0x2029, 1)
  | 'x' :: rest => coded? 2 rest
  | 'u' :: rest => coded? 4 rest
  | 'U' :: rest => coded? 8 rest
  | _ => none

/-- A text up to its double quote, with escapes. An escaped line break is dropped with the blanks behind it. -/
def double? : Nat → Cursor → Option Scanned
  | 0, _ => none
  | fuel + 1, cursor =>
    if cursor.isAtBoundary then none
    else match cursor.rest with
      | [] => none
      | '"' :: _ => some ([], cursor.advance)
      | '\\' :: rest =>
        if (rest.head?.map isBreak).getD false then
          let (gap, next) := (cursor.advanceBy 2).takeWhile isGap
          (double? fuel next).map (prepend (gap.filter isBreak))
        else do
          let (c, count) ← escaped? rest
          (double? fuel (cursor.advanceBy (count + 1))).map (prepend [c])
      | c :: _ =>
        if isGap c then
          let (gap, next) := cursor.takeWhile isGap
          (double? fuel next).map (prepend (foldGap gap))
        else (double? fuel cursor.advance).map (prepend [c])

end Quoted

namespace Plain

/-- The signs that end a plain text between brackets and braces. -/
def isFlowSign (c : Char) : Bool := c = ',' || c = '[' || c = ']' || c = '\x7b' || c = '\x7d'

/-- A colon in front of one of these may not stand between brackets and braces. -/
def refusesColon (c : Char) : Bool := isFlowSign c || c = '?'

/-- One word: it ends at a gap and at a colon with a gap behind it, and between brackets and braces at their signs. -/
def word? (inFlow : Bool) : List Char → Option (List Char)
  | [] => some []
  | c :: rest =>
    if isGap c then some []
    else if inFlow && c = ':' && (rest.head?.map refusesColon).getD false then none
    else if c = ':' && gapFollows rest then some []
    else if inFlow && isFlowSign c then some []
    else (word? inFlow rest).map (c :: ·)

/-- A tab stands among the blanks that indent a line of a gap. -/
def tabIndents (indent : Int) (gap : List Char) : Bool :=
  match gap.dropWhile (!isBreak ·) with
  | [] => false
  | _ :: lines => go 0 lines
where
  go (column : Int) : List Char → Bool
    | [] => false
    | c :: rest => if isBreak c then go 0 rest else (c = '\t' && column < indent) || go (column + 1) rest

/-- The words of a plain text, each with the gap in front of it. A comment ends the text, and outside of brackets and
braces a line with less than a certain indentation does. The last component tells whether lines have ended behind the
text. -/
def words? (inFlow : Bool) (indent : Int) : Nat → List Char → Cursor → Option (Scanned × Bool)
  | 0, _, _ => none
  | fuel + 1, gap, cursor => do
    let lineEnded := gap.any isBreak
    if cursor.isAtBoundary || cursor.rest.head? = some '#' then some (([], cursor), lineEnded)
    else
      let word ← word? inFlow cursor.rest
      if word.isEmpty then some (([], cursor), lineEnded)
      else
        let (next, behind) := (cursor.advanceBy word.length).takeWhile isGap
        guard (!tabIndents indent next)
        if next.isEmpty || (!inFlow && behind.column < indent) then
          some ((foldGap gap ++ word, behind), next.any isBreak)
        else
          let (scanned, ended) ← words? inFlow indent fuel next behind
          some (prepend (foldGap gap ++ word) scanned, ended)

end Plain

namespace Block

/-- What happens to the line breaks at the end of a block. -/
inductive Chomping where
  | strip
  | clip
  | keep
deriving DecidableEq

/-- The indentation that a block asks for: a digit from one to nine. -/
def increment? (cursor : Cursor) : Option (Nat × Cursor) :=
  match cursor.rest with
  | c :: _ =>
    if !c.isDigit then some (0, cursor)
    else if c = '0' then none
    else some (c.toNat - '0'.toNat, cursor.advance)
  | [] => some (0, cursor)

def chomping (cursor : Cursor) : Chomping × Cursor :=
  match cursor.rest with
  | '+' :: _ => (.keep, cursor.advance)
  | '-' :: _ => (.strip, cursor.advance)
  | _ => (.clip, cursor)

/-- Chomping and indentation in either order; no indentation counts as zero. -/
def header? (cursor : Cursor) : Option (Chomping × Nat × Cursor) := do
  let (first, next) := chomping cursor
  let (increment, next) ← increment? next
  if first = .clip && increment ≠ 0 then
    let (second, next) := chomping next
    some (second, increment, next)
  else some (first, increment, next)

/-- Passes over indentation and empty lines: their breaks, the widest indentation, and the place of the first text. A
tab may not indent. An indentation of zero is not known yet. -/
def emptyLines? (indent : Nat) : Nat → Nat → Cursor → Option (List Char × Nat × Cursor)
  | 0, _, _ => none
  | fuel + 1, widest, cursor => do
    let spaces := (cursor.rest.takeWhile (· = ' ')).length
    let next := cursor.advanceBy (if indent = 0 then spaces else min spaces (indent - cursor.column))
    let widest := max widest next.column
    guard (!((indent = 0 || next.column < indent) && next.rest.head? = some '\t'))
    match next.rest with
    | c :: _ =>
      if isBreak c then
        let (breaks, widest, next) ← emptyLines? indent fuel widest next.advance
        some (c :: breaks, widest, next)
      else some ([], widest, next)
    | [] => some ([], widest, next)

/-- What stands between two lines of a block that folds its lines: breaks next to an indented line stay. -/
def joint (folds : Bool) (lineBreak breaks : List Char) (afterIndented beforeIndented : Bool) : List Char :=
  if folds && lineBreak = ['\n'] && !afterIndented && !beforeIndented then
    (if breaks.isEmpty then [' '] else breaks)
  else lineBreak ++ breaks

/-- The lines of a block with the breaks in front of each, and the breaks behind the last one. -/
def lines? (folds : Bool) (chomping : Chomping) (indent : Nat) :
    Nat → List Char → List Char → Bool → Cursor → Option Scanned
  | 0, _, _, _, _ => none
  | fuel + 1, lineBreak, breaks, afterIndented, cursor => do
    if cursor.column = indent && !cursor.rest.isEmpty then
      let isIndented := (cursor.rest.head?.map isSpaceOrTab).getD false
      let (text, behind) := cursor.takeWhile (!isBreak ·)
      let nextBreak := behind.rest.take 1
      let (nextBreaks, _, next) ← emptyLines? indent (behind.rest.length + 1) 0 behind.advance
      let scanned ← lines? folds chomping indent fuel nextBreak nextBreaks isIndented next
      some (prepend (joint folds lineBreak breaks afterIndented isIndented ++ text) scanned)
    else
      some ((if chomping = .strip then [] else lineBreak) ++ (if chomping = .keep then breaks else []), cursor)

/-- A block inside a collection with an indentation. -/
def text? (folds : Bool) (parentIndent : Int) (cursor : Cursor) : Option Scanned := do
  let fuel := cursor.rest.length + 1
  let (chomping, increment, cursor) ← header? cursor
  let cursor ← cursor.lineEnd?
  let known := if increment = 0 then 0 else parentIndent.toNat + increment
  let (breaks, widest, cursor) ← emptyLines? known fuel 0 cursor
  let indent := if known = 0 then max (max widest (parentIndent + 1).toNat) 1 else known
  lines? folds chomping indent fuel [] breaks false cursor

end Block

end EntityGraph.Yaml
