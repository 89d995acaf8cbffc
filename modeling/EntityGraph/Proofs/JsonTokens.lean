import EntityGraph.Proofs.DoubleReading

/-!
The text of a structured value, compact or indented, is cut into the tokens of that value: strings come back from their
escapes, numbers end where they were written to end, and blanks between tokens are passed over.
-/
namespace EntityGraph.Json

/-- The piece that a written character is read as: control characters without a letter come as 16-bit units. -/
def pieceOf (c : Char) : Piece :=
  if c = '\n' ∨ c = '\r' ∨ c = '\t' ∨ c.toNat = 8 ∨ c.toNat = 12 ∨ 32 ≤ c.toNat then .literal c else .unit c.toNat

theorem pieces?_letter {letter c : Char} (rest : List Char) (known : escaped? letter = some c) :
    pieces? ('\\' :: letter :: rest) = (pieces? rest).map fun read => (.literal c :: read.1, read.2) := by
  have plain : letter ≠ 'u' := by
    rintro rfl
    cases known
  cases read : pieces? rest <;> simp [pieces?, plain, known, read]

theorem pieces?_unit {n : Nat} (rest : List Char) (small : n < 32) :
    pieces? ('\\' :: 'u' :: '0' :: '0' :: hexDigit (n / 16) :: hexDigit (n % 16) :: rest) =
      (pieces? rest).map fun read => (.unit n :: read.1, read.2) := by
  have digits : ofHex? ['0', '0', hexDigit (n / 16), hexDigit (n % 16)] = some n := by
    interval_cases n <;> rfl
  cases read : pieces? rest <;> simp [pieces?, digits, read]

theorem pieces?_plain {c : Char} (rest : List Char) (quote : c ≠ '"') (slash : c ≠ '\\') (large : 32 ≤ c.toNat) :
    pieces? (c :: rest) = (pieces? rest).map fun read => (.literal c :: read.1, read.2) := by
  cases read : pieces? rest <;> simp [pieces?, slash, large, read]

theorem pieces?_escapeChar (c : Char) (rest : List Char) :
    pieces? (escapeChar c ++ rest) = (pieces? rest).map fun read => (pieceOf c :: read.1, read.2) := by
  unfold escapeChar
  split
  case isTrue quote => subst quote; exact pieces?_letter rest rfl
  split
  case isTrue slash => subst slash; exact pieces?_letter rest rfl
  split
  case isTrue line => subst line; exact pieces?_letter rest rfl
  split
  case isTrue back => subst back; exact pieces?_letter rest rfl
  split
  case isTrue tab => subst tab; exact pieces?_letter rest rfl
  split
  case isTrue eight =>
    have same : Char.ofNat 8 = c := by rw [← eight, Char.ofNat_toNat]
    subst same
    exact pieces?_letter rest rfl
  split
  case isTrue twelve =>
    have same : Char.ofNat 12 = c := by rw [← twelve, Char.ofNat_toNat]
    subst same
    exact pieces?_letter rest rfl
  rename_i quote slash line back tab eight twelve
  split
  case isTrue small =>
    have piece : pieceOf c = .unit c.toNat := by
      simp [pieceOf, line, back, tab, eight, twelve, Nat.not_le.mpr small]
    rw [piece]
    exact pieces?_unit rest small
  case isFalse large =>
    have piece : pieceOf c = .literal c := by
      simp [pieceOf, Nat.not_lt.mp large]
    rw [piece]
    exact pieces?_plain rest quote slash (Nat.not_lt.mp large)

theorem pieces?_quoted (cs rest : List Char) :
    pieces? (cs.flatMap escapeChar ++ '"' :: rest) = some (cs.map pieceOf, rest) := by
  induction cs with
  | nil => rfl
  | cons c more ih => rw [List.flatMap_cons, List.append_assoc, pieces?_escapeChar, ih]; rfl

theorem joinPieces?_cons (c : Char) (rest : List Piece) :
    joinPieces? (pieceOf c :: rest) = (joinPieces? rest).map (c :: ·) := by
  unfold pieceOf
  split
  · rfl
  · rename_i control
    have small : c.toNat < 32 := by omega
    have high : isHighSurrogate c.toNat = false := by
      simp only [isHighSurrogate, Bool.and_eq_false_iff, decide_eq_false_iff_not]
      omega
    have low : isLowSurrogate c.toNat = false := by
      simp only [isLowSurrogate, Bool.and_eq_false_iff, decide_eq_false_iff_not]
      omega
    cases rest with
    | nil => simp [joinPieces?, high, low]
    | cons next more => cases next <;> simp [joinPieces?, high, low]

theorem joinPieces?_pieces (cs : List Char) : joinPieces? (cs.map pieceOf) = some cs := by
  induction cs with
  | nil => rfl
  | cons c more ih => rw [List.map_cons, joinPieces?_cons, ih, Option.map_some]

theorem toList_quote (s : String) : (quote s).toList = '"' :: (s.toList.flatMap escapeChar ++ ['"']) := by
  simp [quote]

theorem token?_quote (s : String) (rest : List Char) :
    token? ((quote s).toList ++ rest) = some (.scalar (.string s), rest) := by
  rw [toList_quote, List.cons_append, List.append_assoc, List.singleton_append]
  simp [token?, pieces?_quoted, joinPieces?_pieces]

/-- A text and its tokens: blanks before a token do not count. -/
inductive Lexes : List Char → List Token → Prop where
  | done {text : List Char} (blank : text.dropWhile isSpace = []) : Lexes text []
  | step {text rest : List Char} {token : Token} {more : List Token}
      (found : token? (text.dropWhile isSpace) = some (token, rest))
      (shorter : rest.length < (text.dropWhile isSpace).length) (later : Lexes rest more) : Lexes text (token :: more)

namespace Lexes

variable {text rest : List Char} {token : Token} {tokens more : List Token}

theorem tokensWithin? (lexes : Lexes text tokens) {fuel : Nat} (enough : text.length ≤ fuel) :
    tokensWithin? fuel text = some tokens := by
  induction lexes generalizing fuel with
  | @done text blank =>
    cases fuel with
    | zero =>
      obtain rfl := List.length_eq_zero_iff.mp (Nat.le_zero.mp enough)
      rfl
    | succ fuel => simp [Json.tokensWithin?, blank]
  | @step text rest token more found shorter later ih =>
    have shrunk := (List.dropWhile_sublist isSpace (l := text)).length_le
    cases fuel with
    | zero => omega
    | succ fuel =>
      cases dropped : text.dropWhile isSpace with
      | nil => simp [dropped] at shorter
      | cons c cs =>
        rw [dropped] at found shorter shrunk
        have enoughLeft : rest.length ≤ fuel := by
          simp only [List.length_cons] at shorter shrunk
          omega
        simp [Json.tokensWithin?, dropped, found, ih enoughLeft]

theorem tokens? (lexes : Lexes text tokens) : tokens? text = some tokens := lexes.tokensWithin? (Nat.le_refl _)

theorem blanks {front : List Char} (blank : ∀ c ∈ front, isSpace c = true) (lexes : Lexes text tokens) :
    Lexes (front ++ text) tokens := by
  have dropped : (front ++ text).dropWhile isSpace = text.dropWhile isSpace := List.dropWhile_append_of_pos blank
  cases lexes with
  | done empty => exact .done (dropped.trans empty)
  | step found shorter later => exact .step (dropped ▸ found) (dropped ▸ shorter) later

/-- A word that is one token. -/
theorem word {c : Char} (word : List Char) (solid : isSpace c = false)
    (found : token? (c :: (word ++ rest)) = some (token, rest)) (later : Lexes rest more) :
    Lexes (c :: (word ++ rest)) (token :: more) := by
  have kept : (c :: (word ++ rest)).dropWhile isSpace = c :: (word ++ rest) := by
    simp [solid]
  refine .step (kept.symm ▸ found) ?_ later
  rw [kept]
  simp only [List.length_cons, List.length_append]
  omega

end Lexes

/-- What a written double is read as: a finite one as its second reading, every other one as null. -/
def readDouble (d : Double) : Json := if d.isFinite then .double d.reread else .null

theorem token?_number {c : Char} (start : c.isDigit = true ∨ c = '-') (rest : List Char) :
    isSpace c = false ∧ token? (c :: rest) = (number? (c :: rest)).map fun (value, rest) => (.scalar value, rest) := by
  rcases start with digit | rfl
  · obtain ⟨d, small, rfl⟩ := Decimal.exists_digitChar digit
    interval_cases d <;> exact ⟨rfl, rfl⟩
  · exact ⟨rfl, rfl⟩

theorem Lexes.number {negative : Bool} {first : Char} {word rest : List Char} {value : Json} {more : List Token}
    (digit : first.isDigit = true) (read : number? (signed negative (first :: word) ++ rest) = some (value, rest))
    (later : Lexes rest more) : Lexes (signed negative (first :: word) ++ rest) (.scalar value :: more) := by
  have token {c : Char} {word : List Char} (start : c.isDigit = true ∨ c = '-')
      (read : number? (c :: (word ++ rest)) = some (value, rest)) :
      Lexes (c :: (word ++ rest)) (.scalar value :: more) := by
    obtain ⟨solid, found⟩ := token?_number start (word ++ rest)
    exact .word word solid (by rw [found, read, Option.map_some]) later
  cases negative with
  | true => exact token (.inr rfl) read
  | false => exact token (.inl digit) read

theorem Lexes.integer {n : Int} {rest : List Char} {more : List Token} (low : -0x8000_0000_0000_0000 ≤ n)
    (high : n < 0x1_0000_0000_0000_0000) (ends : EndsNumber rest) (later : Lexes rest more) :
    Lexes ((toString n).toList ++ rest) (.scalar (.integer n) :: more) := by
  have read := number?_integer low high ends
  rw [toList_toString] at read ⊢
  cases digits : Decimal.digitsOf n.natAbs with
  | nil => exact absurd digits (Decimal.digitsOf_ne_nil _)
  | cons first word =>
    rw [digits] at read
    exact .number (Decimal.isDigit_digitsOf _ first (digits ▸ List.mem_cons_self)) read later

theorem Lexes.double (d : Double) {rest : List Char} {more : List Token} (ends : EndsNumber rest)
    (later : Lexes rest more) : Lexes ((doubleText d).toList ++ rest) (.scalar (readDouble d) :: more) := by
  by_cases finite : d.isFinite = true
  · have read := Double.number?_doubleText finite ends
    rw [Double.reread?_eq finite, Option.map_some] at read
    obtain ⟨n, negative, -, -, -, chars, -⟩ := Double.doubleText_numeral finite
    rw [readDouble, if_pos finite]
    rw [chars] at read ⊢
    cases digits : n.whole with
    | nil => exact absurd digits n.started
    | cons first word =>
      have shown : n.chars = first :: (word ++ (n.fraction.elim [] ('.' :: ·) ++ n.power.elim [] powerChars)) := by
        rw [Numeral.chars, digits, List.cons_append]
      rw [shown] at read ⊢
      exact .number (n.wholeDigits first (digits ▸ List.mem_cons_self)) read later
  · rw [readDouble, if_neg finite, doubleText, if_neg finite]
    exact .word ['u', 'l', 'l'] rfl rfl later

mutual

/-- The value with other values in the place of its doubles. -/
def mapDouble (f : Double → Json) : Json → Json
  | .double d => f d
  | .array items => .array (mapDoubleItems f items)
  | .object members => .object (mapDoubleMembers f members)
  | other => other

def mapDoubleItems (f : Double → Json) : List Json → List Json
  | [] => []
  | item :: rest => mapDouble f item :: mapDoubleItems f rest

def mapDoubleMembers (f : Double → Json) : List (String × Json) → Members
  | [] => []
  | (key, value) :: rest => (key, mapDouble f value) :: mapDoubleMembers f rest

end

mutual

/-- Whole numbers have 64 bits, and no more than so many containers lie in each other. -/
def Fits (room : Nat) : Json → Prop
  | .integer n => -0x8000_0000_0000_0000 ≤ n ∧ n < 0x1_0000_0000_0000_0000
  | .array items => 0 < room ∧ ItemsFit (room - 1) items
  | .object members => 0 < room ∧ MembersFit (room - 1) members
  | _ => True

def ItemsFit (room : Nat) : List Json → Prop
  | [] => True
  | item :: rest => Fits room item ∧ ItemsFit room rest

def MembersFit (room : Nat) : List (String × Json) → Prop
  | [] => True
  | (_, value) :: rest => Fits room value ∧ MembersFit room rest

end

mutual

def tokensOf : Json → List Token
  | .array items => .openArray :: (itemTokens items ++ [.closeArray])
  | .object members => .openObject :: (memberTokens members ++ [.closeObject])
  | scalar => [.scalar scalar]

def itemTokens : List Json → List Token
  | [] => []
  | [item] => tokensOf item
  | item :: rest => tokensOf item ++ .comma :: itemTokens rest

def memberTokens : List (String × Json) → List Token
  | [] => []
  | [(key, value)] => .scalar (.string key) :: .colon :: tokensOf value
  | (key, value) :: rest => .scalar (.string key) :: .colon :: (tokensOf value ++ .comma :: memberTokens rest)

end

theorem EndsNumber.cons {c : Char} (other : c.isDigit = false ∧ c ≠ '.' ∧ c ≠ 'e' ∧ c ≠ 'E') (rest : List Char) :
    EndsNumber (c :: rest) := by
  rintro _ ⟨⟩
  exact other

namespace Lexes

variable {rest : List Char} {more : List Token}

theorem mark {c : Char} {token : Token} (solid : isSpace c = false) (found : token? (c :: rest) = some (token, rest))
    (later : Lexes rest more) : Lexes (c :: rest) (token :: more) :=
  .word [] solid found later

theorem quoted (s : String) (later : Lexes rest more) :
    Lexes ((quote s).toList ++ rest) (.scalar (.string s) :: more) := by
  have found := token?_quote s rest
  rw [toList_quote] at found ⊢
  exact .word _ rfl found later

theorem bool (b : Bool) (later : Lexes rest more) :
    Lexes ((scalarText (.bool b)).toList ++ rest) (.scalar (.bool b) :: more) := by
  cases b
  · exact .word ['a', 'l', 's', 'e'] rfl rfl later
  · exact .word ['r', 'u', 'e'] rfl rfl later

theorem null (later : Lexes rest more) : Lexes ("null".toList ++ rest) (.scalar .null :: more) :=
  .word ['u', 'l', 'l'] rfl rfl later

theorem tokensOf_readDouble (d : Double) : tokensOf (readDouble d) = [.scalar (readDouble d)] := by
  unfold readDouble
  split <;> rfl

mutual

theorem compact (v : Json) {room : Nat} {rest : List Char} {more : List Token} (fits : v.Fits room)
    (ends : EndsNumber rest) (later : Lexes rest more) :
    Lexes (v.compact.toList ++ rest) (tokensOf (v.mapDouble readDouble) ++ more) := by
  cases v with
  | null => exact null later
  | bool b => exact bool b later
  | integer n => exact integer fits.1 fits.2 ends later
  | double d =>
    rw [mapDouble, tokensOf_readDouble]
    exact double d ends later
  | string s => exact quoted s later
  | array items =>
    have inner := compactItems items fits.2 (.cons (c := ']') (by decide) rest) (mark rfl rfl later)
    simpa [Json.compact, mapDouble, tokensOf] using mark rfl rfl inner
  | object members =>
    have inner := compactMembers members fits.2 (.cons (c := '\x7d') (by decide) rest) (mark rfl rfl later)
    simpa [Json.compact, mapDouble, tokensOf] using mark rfl rfl inner

theorem compactItems (items : List Json) {room : Nat} {rest : List Char} {more : List Token} (fit : ItemsFit room items)
    (ends : EndsNumber rest) (later : Lexes rest more) :
    Lexes ((Json.compactItems items).toList ++ rest) (itemTokens (mapDoubleItems readDouble items) ++ more) := by
  match items with
  | [] => exact later
  | [item] => exact compact item fit.1 ends later
  | item :: second :: others =>
    have inner := mark (c := ',') rfl rfl (compactItems (second :: others) fit.2 ends later)
    simpa [Json.compactItems, mapDoubleItems, itemTokens] using compact item fit.1 (.cons (by decide) _) inner

theorem compactMembers (members : List (String × Json)) {room : Nat} {rest : List Char} {more : List Token}
    (fit : MembersFit room members) (ends : EndsNumber rest) (later : Lexes rest more) :
    Lexes ((Json.compactMembers members).toList ++ rest)
      (memberTokens (mapDoubleMembers readDouble members) ++ more) := by
  match members with
  | [] => exact later
  | [(key, value)] =>
    have inner := mark (c := ':') rfl rfl (compact value fit.1 ends later)
    simpa [Json.compactMembers, mapDoubleMembers, memberTokens] using quoted key inner
  | (key, value) :: second :: others =>
    have after := mark (c := ',') rfl rfl (compactMembers (second :: others) fit.2 ends later)
    have inner := mark (c := ':') rfl rfl (compact value fit.1 (.cons (by decide) _) after)
    simpa [Json.compactMembers, mapDoubleMembers, memberTokens] using quoted key inner

end

theorem toList_lineBreak (depth : Nat) :
    (Json.lineBreak depth).toList = '\n' :: List.replicate (2 * depth) ' ' := by
  simp [Json.lineBreak]

theorem lineBreak (depth : Nat) {text : List Char} {tokens : List Token} (lexes : Lexes text tokens) :
    Lexes ((Json.lineBreak depth).toList ++ text) tokens := by
  refine lexes.blanks ?_
  intro c member
  rw [toList_lineBreak, List.mem_cons] at member
  rcases member with rfl | indent
  · rfl
  · rw [List.eq_of_mem_replicate indent]
    rfl

theorem ends_lineBreak (depth : Nat) (rest : List Char) : EndsNumber ((Json.lineBreak depth).toList ++ rest) := by
  rw [toList_lineBreak]
  exact .cons (by decide) _

mutual

theorem indented (depth : Nat) (v : Json) {room : Nat} {rest : List Char} {more : List Token} (fits : v.Fits room)
    (ends : EndsNumber rest) (later : Lexes rest more) :
    Lexes ((v.indented depth).toList ++ rest) (tokensOf (v.mapDouble readDouble) ++ more) := by
  match v with
  | .null => exact null later
  | .bool b => exact bool b later
  | .integer n => exact integer fits.1 fits.2 ends later
  | .double d =>
    rw [mapDouble, tokensOf_readDouble]
    exact double d ends later
  | .string s => exact quoted s later
  | .array [] =>
    have closed := mark (c := '[') rfl rfl (mark (c := ']') rfl rfl later)
    simpa [Json.indented, mapDouble, mapDoubleItems, tokensOf, itemTokens] using closed
  | .array (item :: others) =>
    have closed := lineBreak depth (mark (c := ']') rfl rfl later)
    have inner := indentedItems (depth + 1) (item :: others) fits.2 (ends_lineBreak depth _) closed
    simpa [Json.indented, mapDouble, tokensOf] using mark (c := '[') rfl rfl inner
  | .object [] =>
    have closed := mark (c := '\x7b') rfl rfl (mark (c := '\x7d') rfl rfl later)
    simpa [Json.indented, mapDouble, mapDoubleMembers, tokensOf, memberTokens] using closed
  | .object (member :: others) =>
    have closed := lineBreak depth (mark (c := '\x7d') rfl rfl later)
    have inner := indentedMembers (depth + 1) (member :: others) fits.2 (ends_lineBreak depth _) closed
    simpa [Json.indented, mapDouble, tokensOf] using mark (c := '\x7b') rfl rfl inner

theorem indentedItems (depth : Nat) (items : List Json) {room : Nat} {rest : List Char} {more : List Token}
    (fit : ItemsFit room items) (ends : EndsNumber rest) (later : Lexes rest more) :
    Lexes ((Json.indentedItems depth items).toList ++ rest)
      (itemTokens (mapDoubleItems readDouble items) ++ more) := by
  match items with
  | [] => exact later
  | [item] =>
    have inner := lineBreak depth (indented depth item fit.1 ends later)
    simpa [Json.indentedItems, mapDoubleItems, itemTokens] using inner
  | item :: second :: others =>
    have after := mark (c := ',') rfl rfl (indentedItems depth (second :: others) fit.2 ends later)
    have inner := lineBreak depth (indented depth item fit.1 (.cons (by decide) _) after)
    simpa [Json.indentedItems, mapDoubleItems, itemTokens] using inner

theorem indentedMembers (depth : Nat) (members : List (String × Json)) {room : Nat} {rest : List Char}
    {more : List Token} (fit : MembersFit room members) (ends : EndsNumber rest) (later : Lexes rest more) :
    Lexes ((Json.indentedMembers depth members).toList ++ rest)
      (memberTokens (mapDoubleMembers readDouble members) ++ more) := by
  have blank : ∀ c ∈ [' '], isSpace c = true := List.forall_mem_singleton.mpr rfl
  match members with
  | [] => exact later
  | [(key, value)] =>
    have inner := mark (c := ':') rfl rfl (blanks blank (indented depth value fit.1 ends later))
    have line := lineBreak depth (quoted key inner)
    simpa [Json.indentedMembers, mapDoubleMembers, memberTokens] using line
  | (key, value) :: second :: others =>
    have after := mark (c := ',') rfl rfl (indentedMembers depth (second :: others) fit.2 ends later)
    have inner := mark (c := ':') rfl rfl (blanks blank (indented depth value fit.1 (.cons (by decide) _) after))
    have line := lineBreak depth (quoted key inner)
    simpa [Json.indentedMembers, mapDoubleMembers, memberTokens] using line

end

end Lexes

end EntityGraph.Json
