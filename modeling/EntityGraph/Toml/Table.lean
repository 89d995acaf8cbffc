import EntityGraph.Number.Double

/-!
The values of settings and the tables that they are gathered in. A table remembers how it came to be, since that
decides what may be added to it.
-/
namespace EntityGraph.Toml

/-- How a table came to be. -/
inductive TableKind where
  /-- Written with its entries in braces; nothing can be added. -/
  | inline
  /-- Named by a header of its own. -/
  | header
  /-- Named on the way to another header. -/
  | implied
  /-- Named by a key of several parts. -/
  | dotted
deriving DecidableEq

inductive Value where
  | string (value : String)
  | integer (value : Int)
  | double (value : Double)
  | bool (value : Bool)
  /-- A date, a time or both. -/
  | moment
  | array (items : List Value)
  | table (kind : TableKind) (entries : List (String × Value))
  /-- Tables that share a header in double brackets. -/
  | tables (items : List Value)
deriving Inhabited

abbrev Entries := List (String × Value)

/-- The parts of a key, the outermost first. -/
abbrev Key := List String

namespace Entries

/-- Changes the value of a key, which has to be there. -/
def replace (entries : Entries) (key : String) (value : Value) : Entries :=
  entries.map fun entry => if entry.1 = key then (key, value) else entry

/-- Changes the table at the end of a path; tables on the way that are missing are made. An array of tables stands for
its last one. Only a key of several parts may not lead through a table with a header. -/
def descend? (dotted : Bool) (change? : TableKind → Entries → Option Entries) :
    Key → TableKind → Entries → Option Entries
  | [], kind, entries => change? kind entries
  | part :: path, _, entries => do
    match entries.lookup part with
    | none =>
      let kind : TableKind := if dotted then .dotted else .implied
      let inner ← descend? dotted change? path kind []
      some (entries ++ [(part, .table kind inner)])
    | some (.table kind inner) =>
      guard (kind ≠ .inline && !(dotted && kind = .header))
      let inner ← descend? dotted change? path kind inner
      some (replace entries part (.table kind inner))
    | some (.tables items) =>
      match items.getLast? with
      | some (.table kind inner) =>
        let inner ← descend? dotted change? path kind inner
        some (replace entries part (.tables (items.dropLast ++ [.table kind inner])))
      | _ => none
    | some _ => none

/-- Gives a key a value that it has not had before. A key of several parts may only add to a table that such a key has
made, and a key of one part only to one that it has not. -/
def define? (key : Key) (value : Value) (kind : TableKind) (entries : Entries) : Option Entries := do
  let name ← key.getLast?
  let path := key.dropLast
  descend? true (fun kind inner => do
    guard ((kind == .dotted) != path.isEmpty)
    guard (inner.lookup name).isNone
    some (inner ++ [(name, value)])) path kind entries

/-- Begins a table with a header. It may have been implied before. -/
def openTable? (key : Key) (entries : Entries) : Option Entries := do
  let name ← key.getLast?
  descend? false (fun _ inner =>
    match inner.lookup name with
    | none => some (inner ++ [(name, .table .header [])])
    | some (.table .implied known) => some (replace inner name (.table .header known))
    | some _ => none) key.dropLast .header entries

/-- Begins another table of an array of tables. -/
def openItem? (key : Key) (entries : Entries) : Option Entries := do
  let name ← key.getLast?
  descend? false (fun _ inner =>
    match inner.lookup name with
    | none => some (inner ++ [(name, .tables [.table .header []])])
    | some (.tables items) => some (replace inner name (.tables (items ++ [.table .header []])))
    | some _ => none) key.dropLast .header entries

end Entries

def Value.ofPairs? (pairs : List (Key × Value)) : Option Value := do
  let entries ← pairs.foldlM (fun entries (key, value) => Entries.define? key value .inline entries) []
  some (.table .inline entries)

end EntityGraph.Toml
