import EntityGraph.Text.Hex
import EntityGraph.Yaml.Cursor

/-!
Tags and the directives that define handles for them. Escapes in a tag stand for octets.
-/
namespace EntityGraph.Yaml

/-- A resolved tag, as octets. -/
abbrev Tag := List UInt8

namespace Tag

def ofText (text : String) : Tag := text.toUTF8.toList

def standard (name : String) : Tag := ofText ("tag:yaml.org,2002:" ++ name)

/-- A tag of the writer's own, such as `!name`. -/
def isLocal : Tag → Bool
  | mark :: name => mark = 33 && (ByteArray.mk name.toArray).validateUTF8
  | [] => false

/-- The character may stand in a tag; brackets and commas only in a tag that is written out. -/
def allows (writtenOut : Bool) (c : Char) : Bool :=
  isNameChar c || ";/?:@&=+$.%!~*'()".toList.contains c || (writtenOut && [',', '[', ']'].contains c)

/-- The number of octets of a character, told by the first one. -/
def width? (octet : Nat) : Option Nat :=
  if octet < 0x80 then some 1
  else if 0xC0 ≤ octet && octet < 0xE0 then some 2
  else if 0xE0 ≤ octet && octet < 0xF0 then some 3
  else if 0xF0 ≤ octet && octet < 0xF8 then some 4
  else none

def escapedOctet? : List Char → Option Nat
  | '%' :: high :: low :: _ => ofHex? [high, low]
  | _ => none

/-- The octets that continue a character, each in an escape of its own. -/
def continued? : Nat → Cursor → Option (Tag × Cursor)
  | 0, cursor => some ([], cursor)
  | count + 1, cursor => do
    let octet ← escapedOctet? cursor.rest
    guard (octet / 64 = 2)
    let (more, next) ← continued? count (cursor.advanceBy 3)
    some (octet.toUInt8 :: more, next)

def octets? (writtenOut : Bool) : Nat → Cursor → Option (Tag × Cursor)
  | 0, _ => none
  | fuel + 1, cursor =>
    match cursor.rest with
    | '%' :: _ => do
      let octet ← escapedOctet? cursor.rest
      let (rest, next) ← continued? ((← width? octet) - 1) (cursor.advanceBy 3)
      let (more, next) ← octets? writtenOut fuel next
      some (octet.toUInt8 :: rest ++ more, next)
    | c :: _ =>
      if allows writtenOut c then
        (octets? writtenOut fuel cursor.advance).map fun (more, next) => (c.toNat.toUInt8 :: more, next)
      else some ([], cursor)
    | [] => some ([], cursor)

/-- The octets of a tag from here on, at least one. -/
def someOctets? (writtenOut : Bool) (cursor : Cursor) : Option (Tag × Cursor) := do
  let (octets, next) ← octets? writtenOut (cursor.rest.length + 1) cursor
  guard (!octets.isEmpty)
  some (octets, next)

/-- An exclamation mark and a name, with a second mark if one follows. -/
def handle? (cursor : Cursor) : Option (List Char × Cursor) :=
  match cursor.rest with
  | '!' :: _ =>
    let (name, next) := cursor.advance.takeWhile isNameChar
    if next.rest.head? = some '!' then some ('!' :: name ++ ['!'], next.advance) else some ('!' :: name, next)
  | _ => none

/-- A tag: written out between angle brackets, behind a handle of its own, or behind the plain mark. A tag without a
handle stands for itself. A gap has to follow, or a comma between brackets and braces. -/
def scan? (inFlow : Bool) (cursor : Cursor) : Option (String × Tag × Cursor) := do
  let (handle, suffix, next) ← match cursor.rest with
    | '!' :: '<' :: _ => do
      let (octets, next) ← someOctets? true (cursor.advanceBy 2)
      guard (next.rest.head? = some '>')
      some ("", octets, next.advance)
    | _ => do
      let (handle, next) ← handle? cursor
      if 2 ≤ handle.length && handle.getLast? = some '!' then
        let (octets, next) ← someOctets? false next
        some (String.ofList handle, octets, next)
      else
        let (octets, next) ← octets? false (next.rest.length + 1) next
        let suffix := ofText (String.ofList (handle.drop 1)) ++ octets
        if suffix.isEmpty then some ("", ofText "!", next) else some ("!", suffix, next)
  guard (gapFollows next.rest || (inFlow && next.rest.head? = some ','))
  some (handle, suffix, next)

end Tag

/-- A line of settings in front of a document. -/
inductive Directive where
  | version (major minor : Nat)
  | tag (handle : String) (start : Tag)
deriving DecidableEq

namespace Directive

/-- A number of at most nine digits. -/
def number? (cursor : Cursor) : Option (Nat × Cursor) := do
  let (digits, next) := cursor.takeWhile Char.isDigit
  guard (1 ≤ digits.length && digits.length ≤ 9)
  some (digits.foldl (fun n c => 10 * n + (c.toNat - '0'.toNat)) 0, next)

/-- A directive, from its percent sign to the end of its line; only the two known ones may be used. -/
def scan? (cursor : Cursor) : Option (Directive × Cursor) := do
  let (name, next) := cursor.advance.takeWhile isNameChar
  guard (gapFollows next.rest)
  let value := next.skipWhile isSpaceOrTab
  let (directive, next) ← match String.ofList name with
    | "YAML" => do
      let (major, next) ← number? value
      guard (next.rest.head? = some '.')
      let (minor, next) ← number? next.advance
      some (Directive.version major minor, next)
    | "TAG" => do
      let (handle, next) ← Tag.handle? value
      guard (handle = ['!'] || handle.getLast? = some '!')
      guard ((next.rest.head?.map isSpaceOrTab).getD false)
      let (start, next) ← Tag.someOctets? true (next.skipWhile isSpaceOrTab)
      guard (gapFollows next.rest)
      some (Directive.tag (String.ofList handle) start, next)
    | _ => none
  some (directive, ← next.lineEnd?)

end Directive

end EntityGraph.Yaml
