import EntityGraph.Toml.Quoted
import EntityGraph.Toml.Scalar

/-!
The lines of settings: headers, headers in double brackets, and keys with values. Only arrays and strings between three
quotes run over several lines.
-/
namespace EntityGraph.Toml

def isSpaceOrTab (c : Char) : Bool := c = ' ' || c = '\t'

def skipSpaces (text : List Char) : List Char := text.dropWhile isSpaceOrTab

/-- What follows a comment, if there is one; its characters have to be allowed in a text. -/
def skipComment (text : List Char) : List Char :=
  match text with
  | '#' :: rest => rest.dropWhile Quoted.isText
  | _ => text

/-- Passes over blanks and a comment to the next line, or to the end of the text. -/
def nextLine? (text : List Char) : Option (List Char) :=
  match skipComment (skipSpaces text) with
  | [] => some []
  | rest => Quoted.lineEnd? rest

/-- Passes over blanks, comments and line ends. -/
def skipLines : Nat → List Char → List Char
  | 0, text => text
  | fuel + 1, text =>
    let rest := skipComment (skipSpaces text)
    match Quoted.lineEnd? rest with
    | some rest => skipLines fuel rest
    | none => rest

namespace Key

def isBare (c : Char) : Bool := c.isAlphanum || c = '_' || c = '-'

/-- One part of a key: a bare word or a quoted string. -/
def part? (text : List Char) : Option (String × List Char) :=
  match text with
  | '"' :: _ => Quoted.oneLine? text
  | '\'' :: _ => Quoted.oneLine? text
  | _ =>
    let (word, rest) := text.span isBare
    if word.isEmpty then none else some (String.ofList word, rest)

/-- Parts with points between them and blanks around them. -/
def parts? : Nat → List Char → Option (Key × List Char)
  | 0, _ => none
  | fuel + 1, text => do
    let (first, rest) ← part? (skipSpaces text)
    match skipSpaces rest with
    | '.' :: rest => do
      let (others, rest) ← parts? fuel rest
      some (first :: others, rest)
    | rest => some ([first], rest)

def maxParts : Nat := 79

def read? (text : List Char) : Option (Key × List Char) := parts? maxParts text

end Key

namespace Value

/-- A word at the start of a text. -/
def word? (word : String) (value : Value) (text : List Char) : Option (Value × List Char) :=
  if word.toList.isPrefixOf text then some (value, text.drop word.length) else none

mutual

/-- A value and what follows it; arrays and tables in braces may still nest so many levels deep. -/
def read? : Nat → Nat → List Char → Option (Value × List Char)
  | 0, _, _ => none
  | fuel + 1, depth, text =>
    match text with
    | [] => none
    | c :: rest =>
      if c = '"' || c = '\'' then
        (Quoted.string? text).map fun (s, rest) => (.string s, rest)
      else if c = '[' then
        if depth = 0 then none else do
          let (items, rest) ← items? fuel (depth - 1) rest
          some (.array items, rest)
      else if c = '\x7b' then
        if depth = 0 then none else do
          let (pairs, rest) ← pairs? fuel (depth - 1) true rest
          some (← ofPairs? pairs, rest)
      else if c = 't' then word? "true" (.bool true) text
      else if c = 'f' then word? "false" (.bool false) text
      else Scalar.value? text

/-- The items of an array up to its closing bracket. A comma may stand behind the last one. -/
def items? : Nat → Nat → List Char → Option (List Value × List Char)
  | 0, _, _ => none
  | fuel + 1, depth, text =>
    match skipLines (text.length + 1) text with
    | ']' :: rest => some ([], rest)
    | text => do
      let (item, rest) ← read? fuel depth text
      match skipLines (rest.length + 1) rest with
      | ',' :: rest => do
        let (items, rest) ← items? fuel depth rest
        some (item :: items, rest)
      | ']' :: rest => some ([item], rest)
      | _ => none

/-- The pairs of a table in braces up to its closing brace. -/
def pairs? : Nat → Nat → Bool → List Char → Option (List (Key × Value) × List Char)
  | 0, _, _, _ => none
  | fuel + 1, depth, mayEnd, text =>
    match skipSpaces text with
    | '\x7d' :: rest => if mayEnd then some ([], rest) else none
    | text => do
      let (key, rest) ← Key.read? text
      match rest with
      | '=' :: rest => do
        let (value, rest) ← read? fuel depth (skipSpaces rest)
        match skipSpaces rest with
        | ',' :: rest => do
          let (pairs, rest) ← pairs? fuel depth false rest
          some ((key, value) :: pairs, rest)
        | '\x7d' :: rest => some ([(key, value)], rest)
        | _ => none
      | _ => none

end

/-- How deep arrays and tables in braces may nest. -/
def maxDepth : Nat := 79

end Value

inductive Line where
  | header (key : Key)
  | itemHeader (key : Key)
  | entry (key : Key) (value : Value)

namespace Line

/-- A header with so many brackets on each side. -/
def header? (brackets : Nat) (text : List Char) : Option (Key × List Char) := do
  let (key, rest) ← Key.read? (text.drop brackets)
  guard (rest.take brackets = List.replicate brackets ']')
  some (key, rest.drop brackets)

/-- A line, and what follows on the same line. -/
def read? (text : List Char) : Option (Line × List Char) :=
  match text with
  | '[' :: '[' :: _ => (header? 2 text).map fun (key, rest) => (itemHeader key, rest)
  | '[' :: _ => (header? 1 text).map fun (key, rest) => (header key, rest)
  | _ => do
    let (key, rest) ← Key.read? text
    match rest with
    | '=' :: rest => do
      let (value, rest) ← Value.read? (rest.length + 1) Value.maxDepth (skipSpaces rest)
      some (entry key value, rest)
    | _ => none

def readAll? : Nat → List Char → Option (List Line)
  | 0, _ => none
  | fuel + 1, text =>
    match skipLines (text.length + 1) text with
    | [] => some []
    | text => do
      let (line, rest) ← read? text
      let lines ← readAll? fuel (← nextLine? rest)
      some (line :: lines)

/-- Adds what a line says to the settings so far; entries go to the table of the last header. -/
def addTo? (settings : Key × Entries) (line : Line) : Option (Key × Entries) :=
  let (current, entries) := settings
  match line with
  | header key => (entries.openTable? key).map fun entries => (key, entries)
  | itemHeader key => (entries.openItem? key).map fun entries => (key, entries)
  | entry key value =>
    (Entries.descend? false (fun kind inner => Entries.define? key value kind inner) current .header entries).map
      fun entries => (current, entries)

end Line

/-- The settings that a text holds. A byte order mark at the start is passed over. -/
def read? (text : String) : Option Entries := do
  let chars := match text.toList with
    | c :: rest => if c.toNat = 0xFEFF then rest else c :: rest
    | [] => []
  let lines ← Line.readAll? (chars.length + 1) chars
  (lines.foldlM Line.addTo? ([], [])).map Prod.snd

end EntityGraph.Toml
