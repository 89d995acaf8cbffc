import EntityGraph.Graph.Properties
import EntityGraph.Text.Hex
import EntityGraph.Time.Instant

/-!
Relationships: directed, typed, weighted edges between entities, told apart by an id of 128 bits.
-/
namespace EntityGraph

structure RelationshipId where
  bits : BitVec 128
deriving DecidableEq, Inhabited

namespace RelationshipId

/-- The 32 hexadecimal digits of the id, the highest first. -/
def digits (id : RelationshipId) : List Char :=
  let shown := Nat.toDigits 16 id.bits.toNat
  List.replicate (32 - shown.length) '0' ++ shown

/-- The written form: groups of 8, 4, 4, 4 and 12 digits joined by hyphens. -/
def text (id : RelationshipId) : String :=
  let digits := id.digits
  let group (start count : Nat) := String.ofList ((digits.drop start).take count)
  "-".intercalate [group 0 8, group 8 4, group 12 4, group 16 4, group 20 12]

def ofDigits? (digits : List Char) : Option RelationshipId := do
  guard (digits.length = 32)
  some ⟨BitVec.ofNat 128 (← ofHex? digits)⟩

/-- Digits without the hyphens that stand after digits 8, 12, 16 and 20. -/
def ungrouped? (text : List Char) : Option (List Char) :=
  let hyphens := [8, 13, 18, 23]
  if text.length = 36 ∧ hyphens.all fun i => text[i]? = some '-' then
    some (text.take 8 ++ (text.drop 9).take 4 ++ (text.drop 14).take 4 ++ (text.drop 19).take 4 ++ text.drop 24)
  else none

/-- The id that a text names: digits, plain or in groups; groups may stand in braces or after `urn:uuid:`. -/
def ofText? (text : String) : Option RelationshipId :=
  let chars := text.toList
  let bare := match chars with
    | '\x7b' :: rest => if rest.getLast? = some '\x7d' then some rest.dropLast else none
    | _ => if "urn:uuid:".toList.isPrefixOf chars then some (chars.drop 9) else none
  match bare with
  | some inner => (ungrouped? inner).bind ofDigits?
  | none => (ofDigits? chars).or ((ungrouped? chars).bind ofDigits?)

end RelationshipId

/-- A directed edge from one entity id to another. -/
structure Relationship where
  id : RelationshipId
  source : String
  target : String
  type : String
  weight : Double
  properties : Properties
  createdAt : Instant
deriving DecidableEq

namespace Relationship

def defaultWeight : Double := 1

def hasTypeIn (relationship : Relationship) (types : List String) : Bool := types.contains relationship.type

def isSelfLoop (relationship : Relationship) : Bool := relationship.source == relationship.target

end Relationship

end EntityGraph
