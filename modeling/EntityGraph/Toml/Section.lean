import EntityGraph.Toml.Line

/-!
Sections with a fixed list of fields. A section is a table, whose unknown entries are passed over, or an array of its
fields in order; fields may be left out. A moment is a section that leaves out all of them.
-/
namespace EntityGraph.Toml

namespace Section

def entries? (names : List String) : Value → Option Entries
  | .table _ entries => some entries
  | .array items => some (names.zip items)
  | .tables items => some (names.zip items)
  | .moment => some []
  | _ => none

/-- A field, or what it is when it is missing. -/
def field? (entries : Entries) (name : String) (read? : Value → Option α) (missing : α) : Option α :=
  match entries.lookup name with
  | some value => read? value
  | none => some missing

end Section

namespace Value

def asString? : Value → Option String
  | .string s => some s
  | _ => none

def asBool? : Value → Option Bool
  | .bool b => some b
  | _ => none

/-- A whole number from zero on, below a bound. -/
def asCount? (bound : Nat) : Value → Option Nat
  | .integer (.ofNat n) => if n < bound then some n else none
  | _ => none

/-- Any number; a whole one is rounded to the nearest double. -/
def asDouble? : Value → Option Double
  | .integer n => some (Double.ofInt n)
  | .double d => some d
  | _ => none

def asStrings? : Value → Option (List String)
  | .array items => items.mapM asString?
  | _ => none

end Value

end EntityGraph.Toml
