import EntityGraph.Proofs.SnapshotDecoding

/-!
A snapshot of finite numbers is the one that is read for what is written, field by field and variant by variant. In a
text this rests on its doubles alone: one whose digits are read as a neighbour comes back as that neighbour.
-/
namespace EntityGraph

/-- The text of a double is read as the same number. -/
def Double.Survives (d : Double) : Prop := (Json.read? (Json.doubleText d)).bind Json.asDouble? = some d

instance (d : Double) : Decidable d.Survives := inferInstanceAs (Decidable (_ = _))

theorem Double.Survives.reread_eq {d : Double} (survives : d.Survives) (finite : d.isFinite = true) : d.reread = d := by
  have read : Json.read? (Json.doubleText d) = some (.double d.reread) := by
    have compact := Json.read?_compact (v := .double d) trivial
    rwa [Json.readBack, Json.mapDouble, Json.readDouble, if_pos finite] at compact
  rw [Survives, read, Option.bind_some, Json.asDouble?] at survives
  exact Option.some.inj survives

def Value.double? : Value → Option Double
  | double d => some d
  | _ => none

def Properties.doubles (map : Properties) : List Double := map.entries.filterMap (·.2.double?)

/-- All weights of a snapshot and the doubles among its property values. -/
def Snapshot.doubles (snapshot : Snapshot) : List Double :=
  snapshot.entities.flatMap (·.properties.doubles) ++
    snapshot.relationships.flatMap fun relationship => relationship.weight :: relationship.properties.doubles

section Kept

variable {again : Double → Double}

/-- A finite double that comes back as itself. -/
def Kept (again : Double → Double) (d : Double) : Prop := d.isFinite = true ∧ again d = d

theorem Value.readBack_eq {v : Value} (kept : ∀ d ∈ v.double?, Kept again d) : v.readBack again = v := by
  cases v with
  | double d =>
    obtain ⟨finite, same⟩ := kept d rfl
    rw [readBack, if_pos finite, same]
  | null | bool | integer | string => rfl

theorem Properties.readBack_eq {map : Properties} (kept : ∀ d ∈ map.doubles, Kept again d) :
    map.readBack again = map := by
  apply eq_of_entries
  refine (List.map_congr_left fun entry member => ?_).trans (List.map_id _)
  have same : entry.2.readBack again = entry.2 :=
    Value.readBack_eq fun d held => kept d (List.mem_filterMap.mpr ⟨entry, member, held⟩)
  rw [same, id]

theorem Entity.readBack_eq {entity : Entity} (kept : ∀ d ∈ entity.properties.doubles, Kept again d) :
    entity.readBack again = entity := by
  rw [readBack, Properties.readBack_eq kept]

theorem Relationship.readBack_eq {relationship : Relationship}
    (kept : ∀ d ∈ relationship.weight :: relationship.properties.doubles, Kept again d) :
    relationship.readBack again = relationship := by
  obtain ⟨weight, properties⟩ := List.forall_mem_cons.mp kept
  rw [readBack, weight.2, Properties.readBack_eq properties]

theorem Snapshot.readBack_eq {snapshot : Snapshot} (kept : ∀ d ∈ snapshot.doubles, Kept again d) :
    snapshot.readBack again = snapshot := by
  have entities : snapshot.entities.map (Entity.readBack again) = snapshot.entities := by
    refine (List.map_congr_left fun entity member => ?_).trans (List.map_id _)
    exact Entity.readBack_eq fun d held =>
      kept d (List.mem_append_left _ (List.mem_flatMap.mpr ⟨entity, member, held⟩))
  have relationships : snapshot.relationships.map (Relationship.readBack again) = snapshot.relationships := by
    refine (List.map_congr_left fun relationship member => ?_).trans (List.map_id _)
    exact Relationship.readBack_eq fun d held =>
      kept d (List.mem_append_right _ (List.mem_flatMap.mpr ⟨relationship, member, held⟩))
  rw [readBack, entities, relationships]

end Kept

theorem Snapshot.weights_finite {snapshot : Snapshot} (finite : ∀ d ∈ snapshot.doubles, d.isFinite = true) :
    ∀ relationship ∈ snapshot.relationships, relationship.weight.isFinite = true :=
  fun relationship member => finite relationship.weight
    (List.mem_append_right _ (List.mem_flatMap.mpr ⟨relationship, member, List.mem_cons_self⟩))

/-- A snapshot whose doubles are all finite is what is read for its encoding, and for its text if the digits of every
double are read as that double. -/
theorem Snapshot.decode_encode {snapshot : Snapshot} (version : snapshot.version < 0x1_0000_0000)
    (timely : snapshot.Timely) (finite : ∀ d ∈ snapshot.doubles, d.isFinite = true) (fresh : Nat → RelationshipId) :
    ofJson? fresh snapshot.toJson = some snapshot ∧
      ((∀ d ∈ snapshot.doubles, d.Survives) → ∀ pretty, ofText? fresh (snapshot.text pretty) = some snapshot) := by
  have weights := weights_finite finite
  constructor
  · have same : ∀ d : Double, d.isFinite = true → Json.double d = .double (id d) := fun _ _ => rfl
    have decoded := ofJson?_toJson same timely fresh version
    rw [Json.mapDouble_double, if_pos weights] at decoded
    have kept : ∀ d ∈ snapshot.doubles, Kept id d := fun d held => ⟨finite d held, rfl⟩
    rw [decoded, readBack_eq kept]
  · intro survive pretty
    have kept : ∀ d ∈ snapshot.doubles, Kept Double.reread d :=
      fun d held => ⟨finite d held, (survive d held).reread_eq (finite d held)⟩
    rw [ofText?_text timely fresh version, if_pos weights, readBack_eq kept]

/-- Two entities and a relationship, with properties of every variant. -/
def Snapshot.mixed : Snapshot where
  version := currentVersion
  entities := [
    ⟨"Ada", "Person", "\"mathematician\"\n", .ofList [("born", .integer 1815), ("note", .null), ("rank", .double 2),
      ("room", .string "10"), ("score", .double (Double.ofRatio true 1 10)), ("seen", .bool true)],
      ⟨1700000000, 5000000⟩, none⟩,
    ⟨"engine", "Machine", "", .empty, ⟨-1, 0⟩, some ⟨1700000000, 999999999⟩⟩]
  relationships := [⟨⟨7⟩, "Ada", "engine", "wrote_about", Double.ofRatio false 4 5, .ofList [("pages", .integer (-66))],
    ⟨1700000000, 0⟩⟩]

theorem Snapshot.decode_encode_mixed :
    ofJson? (fun _ => ⟨0⟩) mixed.toJson = some mixed ∧
      ∀ pretty, ofText? (fun _ => ⟨0⟩) (mixed.text pretty) = some mixed := by
  obtain ⟨tree, texts⟩ := decode_encode (show mixed.version < 0x1_0000_0000 by decide) (by decide +kernel)
    (by decide +kernel) fun _ => ⟨0⟩
  exact ⟨tree, texts (by decide +kernel)⟩

end EntityGraph
