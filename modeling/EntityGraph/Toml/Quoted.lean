import EntityGraph.Text.Hex

/-!
Quoted strings of settings: basic ones with escapes and literal ones without, on one line or, between three quotes, on
several. The readers start behind the opening quotes and give the text and what follows the closing ones.
-/
namespace EntityGraph.Toml.Quoted

/-- A character that may stand in a string or a comment. -/
def isText (c : Char) : Bool := c = '\t' || (0x20 ≤ c.toNat && c.toNat ≠ 0x7F)

/-- A text and what follows it. -/
abbrev Read := List Char × List Char

private def prepend (c : Char) (read : Read) : Read := (c :: read.1, read.2)

/-- The character with a code of so many digits, and what follows it. -/
def coded? (count : Nat) (text : List Char) : Option (Char × List Char) := do
  guard (count ≤ text.length)
  some (← charOfCode? (← ofHex? (text.take count)), text.drop count)

/-- What the text behind a backslash stands for, and what follows it. -/
def escaped? : List Char → Option (Char × List Char)
  | 'b' :: rest => some (Char.ofNat 8, rest)
  | 't' :: rest => some ('\t', rest)
  | 'n' :: rest => some ('\n', rest)
  | 'f' :: rest => some (Char.ofNat 12, rest)
  | 'r' :: rest => some ('\r', rest)
  | '"' :: rest => some ('"', rest)
  | '\\' :: rest => some ('\\', rest)
  | 'u' :: rest => coded? 4 rest
  | 'U' :: rest => coded? 8 rest
  | _ => none

def lineEnd? : List Char → Option (List Char)
  | '\n' :: rest => some rest
  | '\r' :: '\n' :: rest => some rest
  | _ => none

/-- A string of one line, with or without escapes. -/
def line? (quote : Char) (escapes : Bool) : Nat → List Char → Option Read
  | 0, _ => none
  | _, [] => none
  | fuel + 1, c :: rest =>
    if c = quote then some ([], rest)
    else if escapes && c = '\\' then do
      let (c, rest) ← escaped? rest
      (line? quote escapes fuel rest).map (prepend c)
    else if isText c then (line? quote escapes fuel rest).map (prepend c)
    else none

/-- Passes over blanks and line ends. -/
def skipBlankLines : List Char → List Char
  | ' ' :: rest => skipBlankLines rest
  | '\t' :: rest => skipBlankLines rest
  | '\n' :: rest => skipBlankLines rest
  | '\r' :: '\n' :: rest => skipBlankLines rest
  | rest => rest

/-- Up to two quotes that stand in front of the closing three. -/
def closing? (quote : Char) (text : List Char) : Option Read :=
  let length := (text.takeWhile (· = quote)).length
  if length < 3 then none
  else
    let extra := min (length - 3) 2
    some (List.replicate extra quote, text.drop (extra + 3))

/-- A string of several lines. An escaped line end is dropped with the blanks and line ends behind it. -/
def lines? (quote : Char) (escapes : Bool) : Nat → List Char → Option Read
  | 0, _ => none
  | _, [] => none
  | fuel + 1, c :: rest =>
    match closing? quote (c :: rest) with
    | some read => some read
    | none =>
      match lineEnd? (c :: rest) with
      | some rest => (lines? quote escapes fuel rest).map (prepend '\n')
      | none =>
        if escapes && c = '\\' then
          match lineEnd? (rest.dropWhile fun c => c = ' ' || c = '\t') with
          | some rest => lines? quote escapes fuel (skipBlankLines rest)
          | none => do
            let (c, rest) ← escaped? rest
            (lines? quote escapes fuel rest).map (prepend c)
        else if isText c then (lines? quote escapes fuel rest).map (prepend c)
        else none

/-- A string of one line, from its opening quote on. -/
def oneLine? (text : List Char) : Option (String × List Char) :=
  match text with
  | quote :: rest =>
    if quote = '"' || quote = '\'' then
      (line? quote (quote = '"') (text.length + 1) rest).map fun (s, rest) => (String.ofList s, rest)
    else none
  | [] => none

/-- A string, from its opening quotes on. A line end right behind three quotes is dropped. -/
def string? (text : List Char) : Option (String × List Char) :=
  match text with
  | a :: b :: c :: rest =>
    if a = b && b = c && (a = '"' || a = '\'') then
      (lines? a (a = '"') (text.length + 1) ((lineEnd? rest).getD rest)).map fun (s, rest) =>
        (String.ofList s, rest)
    else oneLine? text
  | _ => oneLine? text

end EntityGraph.Toml.Quoted
