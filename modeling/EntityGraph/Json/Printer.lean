import EntityGraph.Json.Basic
import EntityGraph.Number.Style

/-!
Structured values as text, compact or indented by two spaces. A double that is no number or infinite is written
`null`.
-/
namespace EntityGraph.Json

def hexDigit (n : Nat) : Char := (Nat.digitChar n)

/-- A character inside a quoted string: quotes, backslashes and control characters are escaped. -/
def escapeChar (c : Char) : List Char :=
  if c = '"' then ['\\', '"']
  else if c = '\\' then ['\\', '\\']
  else if c = '\n' then ['\\', 'n']
  else if c = '\r' then ['\\', 'r']
  else if c = '\t' then ['\\', 't']
  else if c.toNat = 8 then ['\\', 'b']
  else if c.toNat = 12 then ['\\', 'f']
  else if c.toNat < 32 then ['\\', 'u', '0', '0', hexDigit (c.toNat / 16), hexDigit (c.toNat % 16)]
  else [c]

def quote (s : String) : String := "\"" ++ String.ofList (s.toList.flatMap escapeChar) ++ "\""

def doubleText (d : Double) : String := if d.isFinite then d.text .structured else "null"

def scalarText : Json → String
  | .bool true => "true"
  | .bool false => "false"
  | .integer n => toString n
  | .double d => doubleText d
  | .string s => quote s
  | _ => "null"

mutual

def compact : Json → String
  | .array items => "[" ++ compactItems items ++ "]"
  | .object members => "\x7b" ++ compactMembers members ++ "\x7d"
  | other => scalarText other

def compactItems : List Json → String
  | [] => ""
  | [item] => compact item
  | item :: rest => compact item ++ "," ++ compactItems rest

def compactMembers : List (String × Json) → String
  | [] => ""
  | [(key, value)] => quote key ++ ":" ++ compact value
  | (key, value) :: rest => quote key ++ ":" ++ compact value ++ "," ++ compactMembers rest

end

def lineBreak (depth : Nat) : String := "\n" ++ String.ofList (List.replicate (2 * depth) ' ')

mutual

/-- Indented text: a line for each item and member, two spaces a level, empty containers on one line. -/
def indented (depth : Nat) : Json → String
  | .array [] => "[]"
  | .array items => "[" ++ indentedItems (depth + 1) items ++ lineBreak depth ++ "]"
  | .object [] => "\x7b\x7d"
  | .object members => "\x7b" ++ indentedMembers (depth + 1) members ++ lineBreak depth ++ "\x7d"
  | other => scalarText other

def indentedItems (depth : Nat) : List Json → String
  | [] => ""
  | [item] => lineBreak depth ++ indented depth item
  | item :: rest => lineBreak depth ++ indented depth item ++ "," ++ indentedItems depth rest

def indentedMembers (depth : Nat) : List (String × Json) → String
  | [] => ""
  | [(key, value)] => lineBreak depth ++ quote key ++ ": " ++ indented depth value
  | (key, value) :: rest =>
    lineBreak depth ++ quote key ++ ": " ++ indented depth value ++ "," ++ indentedMembers depth rest

end

/-- A value as plain text: a string as it is, everything else compact. -/
def asText : Json → String
  | .string s => s
  | other => compact other

def pretty (value : Json) : String := indented 0 value

end EntityGraph.Json
