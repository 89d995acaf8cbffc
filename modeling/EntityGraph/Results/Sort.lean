import EntityGraph.Results.Row
import EntityGraph.Time.Layout
import EntityGraph.Text.Case.Lower
import EntityGraph.Text.Search

/-!
Sorting and limiting rows. Rows are arranged only if every sort field gives keys of one kind; the arrangement is
stable, also in descending order.
-/
namespace EntityGraph

structure SortField where
  field : String
  descending : Bool
deriving DecidableEq

/-- The fields to sort by, the most significant first. -/
structure SortSpec where
  fields : List SortField
deriving DecidableEq

/-- What a value is sorted by. -/
inductive SortKey where
  | text (value : String)
  | number (value : Double)
  | time (value : Instant)
deriving DecidableEq

/-- Two texts are the same up to the case of ASCII letters. -/
def sameWord (a b : String) : Bool := a.map Char.toLower = b.map Char.toLower

namespace SortSpec

/-- A field of a list of sort fields: a mapping with its own direction, or a name in the common one. -/
def fieldOf? (commonDescending : Bool) : Json → Option SortField
  | .object spec => do
    let field ← (Members.get? spec "field").bind Json.asString?
    let direction := ((Members.get? spec "direction").bind Json.asString?).getD "asc"
    some ⟨field, !sameWord direction "asc"⟩
  | .string field => some ⟨field, commonDescending⟩
  | _ => none

/-- The fields of the clauses `order_by` and `order`; absent if there are none. -/
def ofDefinition? (definition : Members) : Option SortSpec :=
  let descending := (((definition.get? "order").bind Json.asString?).map (sameWord · "desc")).getD false
  let fields := match definition.get? "order_by" with
    | some (.string field) => if field.isEmpty then [] else [⟨field, descending⟩]
    | some (.array specs) => specs.filterMap (fieldOf? descending)
    | _ => []
  if fields.isEmpty then none else some ⟨fields⟩

end SortSpec

namespace SortKey

/-- A text that may be a timestamp: it has a `T`, or a hyphen and a colon. -/
def looksLikeTime (text : String) : Bool :=
  let chars := text.toList
  chars.contains 'T' || (chars.contains '-' && chars.contains ':')

/-- The moment that a text names, with or without an offset. -/
def time? (text : String) : Option Instant :=
  let text := EntityGraph.trim text
  (Instant.ofText? text).or (Instant.ofLocalText? text)

def ofString (s : String) : SortKey :=
  match if looksLikeTime s then time? s else none with
  | some moment => .time moment
  | none => .text (lower s)

/-- The key of a value. Missing values count as empty text, truth values as numbers, lists by their length and
mappings as text. -/
def ofJson? : Option Json → SortKey
  | none => .text ""
  | some .null => .text ""
  | some (.string s) => ofString s
  | some (.integer n) => .number (Double.ofInt n)
  | some (.double d) => .number d
  | some (.bool b) => .number (if b then 1 else 0)
  | some (.array items) => .number (Double.ofInt items.length)
  | some (.object members) => .text (lower (Json.compact (.object members)))

def compare : SortKey → SortKey → Ordering
  | text a, text b => Ord.compare a b
  | number a, number b => (a.compare? b).getD .eq
  | time a, time b => a.compare b
  | _, _ => .eq

def sameKind : SortKey → SortKey → Bool
  | text _, text _ => true
  | number _, number _ => true
  | time _, time _ => true
  | _, _ => false

end SortKey

namespace SortSpec

/-- Where a row gets the value of a field that it does not show. -/
abbrev Fallback := Row → String → Option Json

def keys (spec : SortSpec) (fallback : Fallback) (row : Row) : List SortKey :=
  spec.fields.map fun sortField => SortKey.ofJson? ((row.get? sortField.field).or (fallback row sortField.field))

/-- The order of two lists of keys by the directions of the fields. -/
def compareKeys : List SortField → List SortKey → List SortKey → Ordering
  | field :: fields, a :: as, b :: bs =>
    let order := a.compare b
    (if field.descending then order.swap else order).then (compareKeys fields as bs)
  | _, _, _ => .eq

/-- All rows have keys of one kind at every field. -/
def isUniform : List (List SortKey) → Bool
  | [] => true
  | first :: rest => rest.all fun keys => (List.zipWith SortKey.sameKind first keys).all id

/-- The rows in order, or as they are if some field gives keys of different kinds. -/
def sort (spec : SortSpec) (fallback : Fallback) (rows : List Row) : List Row :=
  let keyed := rows.map fun row => (spec.keys fallback row, row)
  if isUniform (keyed.map Prod.fst) then
    (keyed.mergeSort fun a b => compareKeys spec.fields a.1 b.1 ≠ .gt).map Prod.snd
  else rows

end SortSpec

/-- Sorting, then limiting. -/
structure Finish where
  sort : Option SortSpec
  limit : Option Nat
deriving DecidableEq

namespace Finish

/-- The clauses `order_by`, `order` and `limit`; a limit has to be a positive count. -/
def ofDefinition (definition : Members) : Finish :=
  { sort := SortSpec.ofDefinition? definition
    limit := ((definition.get? "limit").bind Json.asCount?).filter (0 < ·) }

def apply (finish : Finish) (fallback : SortSpec.Fallback) (rows : List Row) : List Row :=
  let sorted := match finish.sort with
    | some spec => spec.sort fallback rows
    | none => rows
  match finish.limit with
  | some limit => sorted.take limit
  | none => sorted

end Finish

end EntityGraph
