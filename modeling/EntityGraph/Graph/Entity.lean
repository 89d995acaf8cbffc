import EntityGraph.Graph.Properties
import EntityGraph.Time.Instant

/-!
Entities and their attributes, and the removal of brackets around the names of people.
-/
namespace EntityGraph

/-- A typed node of the graph. Its id is case-sensitive and unique. -/
structure Entity where
  id : String
  type : String
  description : String
  properties : Properties
  createdAt : Instant
  updatedAt : Option Instant
deriving DecidableEq

/-- The type whose ids are written without brackets. -/
def personType : String := "Person"

namespace Entity

def isPerson (entity : Entity) : Bool := entity.type == personType

/-- The text that stands for the entity in comparisons of meaning: its description, or its id if that is empty. -/
def embeddingText (entity : Entity) : String :=
  if entity.description.isEmpty then entity.id else entity.description

/-- The attribute with a name: type, description and times first, then the properties. -/
def attribute? (entity : Entity) (name : String) : Option Value :=
  if name = "type" then some (.string entity.type)
  else if name = "description" then some (.string entity.description)
  else if name = "created_at" then some (.string entity.createdAt.microText)
  else if name = "updated_at" then entity.updatedAt.map fun time => .string time.microText
  else entity.properties.get? name

end Entity

namespace Brackets

/-- The inside of a text that starts with an opening and ends with a closing bracket. -/
def inside? : List Char → Option (List Char)
  | '[' :: rest => if rest.getLast? = some ']' then some rest.dropLast else none
  | _ => none

theorem inside?_length {cs inner : List Char} (found : inside? cs = some inner) :
    inner.length < cs.length := by
  unfold inside? at found
  split at found
  · split at found
    · cases found
      simp only [List.length_dropLast, List.length_cons]
      omega
    · cases found
  · cases found

theorem trimChars_length_le (cs : List Char) : (trimChars cs).length ≤ cs.length := by
  have dropped (l : List Char) : (l.dropWhile isBlank).length ≤ l.length :=
    (List.dropWhile_sublist isBlank).length_le
  simp only [trimChars, List.length_reverse]
  exact Nat.le_trans (dropped _) (by simpa using dropped cs)

/-- Takes pairs of brackets and the blanks around them away as long as there are any. -/
def stripChars (cs : List Char) : List Char :=
  match _found : inside? (trimChars cs) with
  | some inner => stripChars inner
  | none => trimChars cs
termination_by cs.length
decreasing_by exact Nat.lt_of_lt_of_le (inside?_length _found) (trimChars_length_le cs)

end Brackets

/-- An id without blanks and pairs of brackets around it. -/
def stripBrackets (id : String) : String := String.ofList (Brackets.stripChars id.toList)

end EntityGraph
