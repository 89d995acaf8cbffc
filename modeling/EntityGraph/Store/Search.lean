import EntityGraph.Store.Basic
import EntityGraph.Text.Search

/-!
Looking entities up by type and by text.
-/
namespace EntityGraph.Store

def entitiesOfType (store : Store) (type : String) : List Entity := store.entities.filter (·.type == type)

/-- The types in use, each once, in ascending order. -/
def allTypes (store : Store) : List String :=
  let types := (store.entities.map (·.type)).filter (!·.isEmpty)
  types.eraseDups.mergeSort fun a b => decide (a ≤ b)

/-- The entities whose id or description contains a text, in any case. -/
def textSearch (store : Store) (query : String) : List Entity :=
  let needle := lower query
  store.entities.filter fun entity =>
    containsText (lower entity.id) needle || containsText (lower entity.description) needle

end EntityGraph.Store
