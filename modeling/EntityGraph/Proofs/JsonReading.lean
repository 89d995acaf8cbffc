import EntityGraph.Proofs.JsonTokens

/-!
Reading undoes writing: the tokens of a value are folded into that value, so the text of a value, compact or indented,
is read as the value itself, apart from its doubles.
-/
namespace EntityGraph.Json

section MapDouble

variable {f : Double → Json}

mutual

theorem Fits.mapDouble (scalar : ∀ d room, (f d).Fits room) (v : Json) {room : Nat} (fits : v.Fits room) :
    (v.mapDouble f).Fits room := by
  cases v with
  | double d => exact scalar d room
  | array items => exact ⟨fits.1, ItemsFit.mapDouble scalar items fits.2⟩
  | object members => exact ⟨fits.1, MembersFit.mapDouble scalar members fits.2⟩
  | null | bool | integer | string => exact fits

theorem ItemsFit.mapDouble (scalar : ∀ d room, (f d).Fits room) (items : List Json) {room : Nat}
    (fit : ItemsFit room items) : ItemsFit room (mapDoubleItems f items) := by
  match items with
  | [] => trivial
  | item :: rest => exact ⟨Fits.mapDouble scalar item fit.1, ItemsFit.mapDouble scalar rest fit.2⟩

theorem MembersFit.mapDouble (scalar : ∀ d room, (f d).Fits room) (members : List (String × Json)) {room : Nat}
    (fit : MembersFit room members) : MembersFit room (mapDoubleMembers f members) := by
  match members with
  | [] => trivial
  | (_, value) :: rest => exact ⟨Fits.mapDouble scalar value fit.1, MembersFit.mapDouble scalar rest fit.2⟩

end

mutual

theorem mapDouble_double (v : Json) : v.mapDouble .double = v := by
  cases v with
  | array items => rw [mapDouble, mapDoubleItems_double]
  | object members => rw [mapDouble, mapDoubleMembers_double]
  | null | bool | integer | double | string => rfl

theorem mapDoubleItems_double (items : List Json) : mapDoubleItems .double items = items := by
  match items with
  | [] => rfl
  | item :: rest => rw [mapDoubleItems, mapDouble_double item, mapDoubleItems_double rest]

theorem mapDoubleMembers_double (members : List (String × Json)) : mapDoubleMembers .double members = members := by
  match members with
  | [] => rfl
  | (_, value) :: rest => rw [mapDoubleMembers, mapDouble_double value, mapDoubleMembers_double rest]

end

theorem fits_readDouble (d : Double) (room : Nat) : (readDouble d).Fits room := by
  unfold readDouble
  split <;> trivial

theorem mapDoubleItems_eq (items : List Json) : mapDoubleItems f items = items.map (mapDouble f) := by
  induction items with
  | nil => rfl
  | cons item rest ih => rw [mapDoubleItems, ih, List.map_cons]

theorem mapDoubleMembers_eq (members : List (String × Json)) :
    mapDoubleMembers f members = members.map fun member => (member.1, member.2.mapDouble f) := by
  induction members with
  | nil => rfl
  | cons member rest ih => rw [mapDoubleMembers, ih, List.map_cons]

theorem itemsFit_iff {room : Nat} {items : List Json} : ItemsFit room items ↔ ∀ item ∈ items, item.Fits room := by
  induction items with
  | nil => simp [ItemsFit]
  | cons item rest ih => simp [ItemsFit, ih]

theorem membersFit_iff {room : Nat} {members : List (String × Json)} :
    MembersFit room members ↔ ∀ member ∈ members, member.2.Fits room := by
  induction members with
  | nil => simp [MembersFit]
  | cons member rest ih => simp [MembersFit, ih]

end MapDouble

namespace Reading

/-- A value starts as the next one or as the first one of an array. -/
def Starts (expectation : Expectation) : Prop := expectation = .value ∨ expectation = .valueOrClose

theorem step_value {frames : List Frame} {next : Reading} {expectation : Expectation} (starts : Starts expectation)
    {token : Token} (started : startValue frames token = some next) :
    step ⟨frames, expectation⟩ token = some next := by
  rcases starts with rfl | rfl
  · exact started
  · simp [step, started]

theorem step_key {frames : List Frame} {expectation : Expectation}
    (starts : expectation = .key ∨ expectation = .keyOrClose) (key : String) (members : Members) :
    step ⟨.object members :: frames, expectation⟩ (.scalar (.string key)) =
      some ⟨.member members key :: frames, .colon⟩ := by
  rcases starts with rfl | rfl <;> rfl

mutual

/-- The tokens of a value complete that value. -/
theorem fold_value (v : Json) {room : Nat} {frames : List Frame} {expectation : Expectation} {next : Reading}
    (fits : v.Fits room) (deep : frames.length + room ≤ maxNesting) (starts : Starts expectation)
    (completed : complete frames v = some next) :
    (tokensOf v).foldlM step ⟨frames, expectation⟩ = some next := by
  match v with
  | .array items =>
    have entered : startValue frames .openArray = some ⟨.array [] :: frames, .valueOrClose⟩ :=
      if_pos (by have positive := fits.1; omega)
    simp only [tokensOf, List.foldlM_cons, step_value starts entered, Option.bind_eq_bind, Option.bind_some]
    match items with
    | [] => simpa [itemTokens, step, startValue, close] using completed
    | item :: rest =>
      have inner := fold_items (item :: rest) frames [] fits.2 nofun (by have positive := fits.1; omega) (.inr rfl)
      rw [List.foldlM_append, inner]
      simpa [step, close] using completed
  | .object members =>
    have entered : startValue frames .openObject = some ⟨.object [] :: frames, .keyOrClose⟩ :=
      if_pos (by have positive := fits.1; omega)
    simp only [tokensOf, List.foldlM_cons, step_value starts entered, Option.bind_eq_bind, Option.bind_some]
    match members with
    | [] => simpa [memberTokens, step, startKey, close] using completed
    | member :: rest =>
      have inner :=
        fold_members (member :: rest) frames [] fits.2 nofun (by have positive := fits.1; omega) (.inr rfl)
      rw [List.foldlM_append, inner]
      simpa [step, close] using completed
  | .null | .bool _ | .integer _ | .double _ | .string _ =>
    have stepped : step ⟨frames, expectation⟩ (.scalar _) = some next := step_value starts completed
    simp only [tokensOf, List.foldlM_cons, stepped]
    rfl

theorem fold_items (items : List Json) (frames : List Frame) (read : List Json) {room : Nat}
    {expectation : Expectation} (fit : ItemsFit room items) (present : items ≠ [])
    (deep : frames.length + 1 + room ≤ maxNesting) (starts : Starts expectation) :
    (itemTokens items).foldlM step ⟨.array read :: frames, expectation⟩ =
      some ⟨.array (items.reverse ++ read) :: frames, .commaOrClose⟩ := by
  match items with
  | [] => exact absurd rfl present
  | [item] => exact fold_value item fit.1 deep starts rfl
  | item :: second :: rest =>
    have first : (tokensOf item).foldlM step ⟨.array read :: frames, expectation⟩ =
        some ⟨.array (item :: read) :: frames, .commaOrClose⟩ := fold_value item fit.1 deep starts rfl
    have others := fold_items (second :: rest) frames (item :: read) fit.2 nofun deep (.inl rfl)
    simp only [itemTokens, List.foldlM_append, first, Option.bind_eq_bind, Option.bind_some, List.foldlM_cons]
    simpa [step] using others

theorem fold_members (members : List (String × Json)) (frames : List Frame) (read : Members) {room : Nat}
    {expectation : Expectation} (fit : MembersFit room members) (present : members ≠ [])
    (deep : frames.length + 1 + room ≤ maxNesting) (starts : expectation = .key ∨ expectation = .keyOrClose) :
    (memberTokens members).foldlM step ⟨.object read :: frames, expectation⟩ =
      some ⟨.object (members.reverse ++ read) :: frames, .commaOrClose⟩ := by
  match members with
  | [] => exact absurd rfl present
  | [(key, value)] =>
    have only : (tokensOf value).foldlM step ⟨.member read key :: frames, .value⟩ =
        some ⟨.object ((key, value) :: read) :: frames, .commaOrClose⟩ := fold_value value fit.1 deep (.inl rfl) rfl
    simp only [memberTokens, List.foldlM_cons, step_key starts, Option.bind_eq_bind, Option.bind_some]
    simpa [step] using only
  | (key, value) :: second :: rest =>
    have first : (tokensOf value).foldlM step ⟨.member read key :: frames, .value⟩ =
        some ⟨.object ((key, value) :: read) :: frames, .commaOrClose⟩ := fold_value value fit.1 deep (.inl rfl) rfl
    have others := fold_members (second :: rest) frames ((key, value) :: read) fit.2 nofun deep (.inl rfl)
    simp only [memberTokens, List.foldlM_cons, step_key starts, Option.bind_eq_bind, Option.bind_some]
    simp only [step, List.foldlM_append, first, Option.bind_eq_bind, Option.bind_some, List.foldlM_cons]
    simpa using others

end

end Reading

/-- The value that the text of a value is read as. -/
def readBack (v : Json) : Json := v.mapDouble readDouble

theorem read?_of_lexes {v : Json} (fits : v.Fits maxNesting) {text : String}
    (lexes : Lexes text.toList (tokensOf v)) : read? text = some v := by
  have folded : (tokensOf v).foldlM Reading.step ⟨[], .value⟩ = some ⟨[], .finish v⟩ :=
    Reading.fold_value v fits (by decide) (.inl rfl) rfl
  simp only [read?, lexes.tokens?, folded, Option.bind_eq_bind, Option.bind_some]

theorem read?_compact {v : Json} (fits : v.Fits maxNesting) : read? v.compact = some v.readBack := by
  apply read?_of_lexes (Fits.mapDouble fits_readDouble v fits)
  simpa using Lexes.compact v fits .nil (.done rfl)

theorem read?_pretty {v : Json} (fits : v.Fits maxNesting) : read? v.pretty = some v.readBack := by
  apply read?_of_lexes (Fits.mapDouble fits_readDouble v fits)
  simpa [pretty] using Lexes.indented 0 v fits .nil (.done rfl)

end EntityGraph.Json
