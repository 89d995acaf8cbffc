import EntityGraph.Graph.Relationship
import EntityGraph.Time.Layout
import Mathlib.Data.List.TakeDrop
import Mathlib.Data.List.TakeWhile
import Mathlib.Tactic.IntervalCases

/-!
Whole numbers in decimal and hexadecimal digits: digits read back as the number they were made from, zeros in front
change nothing, and a scan for digits takes all of them and nothing else.
-/
namespace EntityGraph

section Scans

variable {α : Type} {test : α → Bool} {front rest : List α}

/-- A scan takes what passes its test, up to the first item that does not. -/
theorem takeWhile_append_stop (all : ∀ c ∈ front, test c = true) (stops : ∀ c ∈ rest.head?, test c = false) :
    (front ++ rest).takeWhile test = front := by
  rw [List.takeWhile_append_of_pos all]
  cases rest with
  | nil => simp
  | cons c more => simp [stops c rfl]

theorem dropWhile_append_stop (all : ∀ c ∈ front, test c = true) (stops : ∀ c ∈ rest.head?, test c = false) :
    (front ++ rest).dropWhile test = rest := by
  rw [List.dropWhile_append_of_pos all]
  cases rest with
  | nil => rfl
  | cons c more => simp [stops c rfl]

end Scans

namespace Decimal

theorem ofDigits_digitsOf (n : Nat) : ofDigits (digitsOf n) = n := Nat.ofDigitChars_ten_toDigits

theorem ofDigits_append (front back : List Char) :
    ofDigits (front ++ back) = 10 ^ back.length * ofDigits front + ofDigits back := by
  have split : ofDigits (front ++ back) = Nat.ofDigitChars 10 back (ofDigits front) := List.foldl_append
  rw [split, Nat.ofDigitChars_eq_ofDigitChars_zero]
  rfl

theorem ofDigits_zeros (count : Nat) : ofDigits (List.replicate count '0') = 0 := by
  have scanned : ofDigits (List.replicate count '0') = 10 ^ count * 0 := Nat.ofDigitChars_replicate_zero
  rw [scanned, Nat.mul_zero]

theorem ofDigits_zeros_append (count : Nat) (digits : List Char) :
    ofDigits (List.replicate count '0' ++ digits) = ofDigits digits := by
  rw [ofDigits_append, ofDigits_zeros, Nat.mul_zero, Nat.zero_add]

theorem isDigit_digitsOf (n : Nat) : ∀ c ∈ digitsOf n, c.isDigit = true :=
  fun _ member => Nat.isDigit_of_mem_toDigits (by decide) (by decide) member

theorem isDigit_zeros (count : Nat) : ∀ c ∈ List.replicate count '0', c.isDigit = true := by
  intro c member
  rw [List.eq_of_mem_replicate member]
  rfl

theorem digitsOf_ne_nil (n : Nat) : digitsOf n ≠ [] := Nat.toDigits_ne_nil

theorem length_digitsOf_pos (n : Nat) : 0 < (digitsOf n).length := List.length_pos_iff.mpr (digitsOf_ne_nil n)

theorem length_digitsOf_le_iff {n width : Nat} (wide : 0 < width) :
    (digitsOf n).length ≤ width ↔ n < 10 ^ width := Nat.length_toDigits_le_iff (by decide) wide

theorem digitsOf_zero : digitsOf 0 = ['0'] := rfl

/-- The last digit is the remainder, and the others are those of the quotient. -/
theorem digitsOf_step {n : Nat} (large : 10 ≤ n) : digitsOf n = digitsOf (n / 10) ++ [Nat.digitChar (n % 10)] :=
  Nat.toDigits_of_base_le (by decide) large

/-- Only zero has a leading zero. -/
theorem head_digitsOf {n : Nat} (positive : 0 < n) : (digitsOf n).head? ≠ some '0' := by
  induction n using Nat.strongRecOn with
  | ind n ih =>
    by_cases small : n < 10
    · rw [digitsOf, Nat.toDigits_of_lt_base small]
      simpa using Nat.pos_iff_ne_zero.mp positive
    · rw [digitsOf_step (by omega), List.head?_append, List.head?_eq_some_head (digitsOf_ne_nil _), Option.some_or,
        ← List.head?_eq_some_head]
      exact ih (n / 10) (by omega) (by omega)

theorem exists_digitChar {c : Char} (digit : c.isDigit = true) : ∃ d < 10, c = Nat.digitChar d := by
  have low : 48 ≤ c.toNat := (Char.isDigit_iff_toNat.mp digit).1
  have high : c.toNat ≤ 57 := (Char.isDigit_iff_toNat.mp digit).2
  refine ⟨c.toNat - 48, by omega, ?_⟩
  rw [← Char.toNat_inj, Nat.toNat_digitChar_of_lt_ten (by omega)]
  omega

/-- A text whose first character, if there is one, is no digit. -/
def StopsDigits (rest : List Char) : Prop := ∀ c ∈ rest.head?, c.isDigit = false

theorem StopsDigits.nil : StopsDigits [] := nofun

theorem StopsDigits.cons {c : Char} (other : c.isDigit = false) (rest : List Char) : StopsDigits (c :: rest) := by
  rintro _ ⟨⟩
  exact other

theorem StopsDigits.take {rest : List Char} (stops : StopsDigits rest) (count : Nat) :
    StopsDigits (rest.take count) := by
  cases count with
  | zero => exact .nil
  | succ count =>
    cases rest with
    | nil => exact .nil
    | cons c more => exact .cons (stops c rfl) _

theorem takeWhile_digits {digits rest : List Char} (all : ∀ c ∈ digits, c.isDigit = true) (stops : StopsDigits rest) :
    (digits ++ rest).takeWhile Char.isDigit = digits := takeWhile_append_stop all stops

theorem dropWhile_digits {digits rest : List Char} (all : ∀ c ∈ digits, c.isDigit = true) (stops : StopsDigits rest) :
    (digits ++ rest).dropWhile Char.isDigit = rest := dropWhile_append_stop all stops

theorem span_digits {digits rest : List Char} (all : ∀ c ∈ digits, c.isDigit = true) (stops : StopsDigits rest) :
    (digits ++ rest).span Char.isDigit = (digits, rest) := by
  rw [List.span_eq_takeWhile_dropWhile, takeWhile_digits all stops, dropWhile_digits all stops]

end Decimal

namespace Instant

def paddedDigits (width n : Nat) : List Char :=
  List.replicate (width - (Decimal.digitsOf n).length) '0' ++ Decimal.digitsOf n

theorem toList_padded (width n : Nat) : (padded width n).toList = paddedDigits width n := String.toList_ofList

theorem ofDigits_paddedDigits (width n : Nat) : Decimal.ofDigits (paddedDigits width n) = n := by
  rw [paddedDigits, Decimal.ofDigits_zeros_append, Decimal.ofDigits_digitsOf]

theorem isDigit_paddedDigits (width n : Nat) : ∀ c ∈ paddedDigits width n, c.isDigit = true :=
  List.forall_mem_append.mpr ⟨Decimal.isDigit_zeros _, Decimal.isDigit_digitsOf n⟩

theorem length_paddedDigits {width n : Nat} (wide : 0 < width) (fits : n < 10 ^ width) :
    (paddedDigits width n).length = width := by
  have short := (Decimal.length_digitsOf_le_iff wide).mpr fits
  simp only [paddedDigits, List.length_append, List.length_replicate]
  omega

theorem paddedDigits_ne_nil (width n : Nat) : paddedDigits width n ≠ [] :=
  List.append_ne_nil_of_right_ne_nil _ (Decimal.digitsOf_ne_nil n)

end Instant

theorem hexValue?_digitChar {d : Nat} (single : d < 16) : hexValue? (Nat.digitChar d) = some d := by
  interval_cases d <;> rfl

theorem ofHex?_zero_cons (digits : List Char) : ofHex? ('0' :: digits) = ofHex? digits := by
  have zero : hexValue? '0' = some 0 := rfl
  simp only [ofHex?, List.mapM_cons, zero]
  cases digits.mapM hexValue? <;> simp

theorem ofHex?_zeros_append (count : Nat) (digits : List Char) :
    ofHex? (List.replicate count '0' ++ digits) = ofHex? digits := by
  induction count with
  | zero => rfl
  | succ count ih => rw [List.replicate_succ, List.cons_append, ofHex?_zero_cons, ih]

theorem ofHex?_append_digit {digits : List Char} {n d : Nat} {c : Char} (front : ofHex? digits = some n)
    (last : hexValue? c = some d) : ofHex? (digits ++ [c]) = some (16 * n + d) := by
  obtain ⟨values, read, rfl⟩ := Option.map_eq_some_iff.mp front
  simp [ofHex?, List.mapM_append, read, last]

theorem ofHex?_toDigits (n : Nat) : ofHex? (Nat.toDigits 16 n) = some n := by
  induction n using Nat.strongRecOn with
  | ind n ih =>
    by_cases small : n < 16
    · rw [Nat.toDigits_of_lt_base small]
      simp [ofHex?, hexValue?_digitChar small]
    · rw [Nat.toDigits_of_base_le (by decide) (by omega),
        ofHex?_append_digit (ih (n / 16) (by omega)) (hexValue?_digitChar (Nat.mod_lt n (by decide))),
        Nat.div_add_mod]

/-- A hexadecimal digit is neither a brace nor the first letter of a name space. -/
theorem digitChar_plain {d : Nat} (single : d < 16) : Nat.digitChar d ≠ '\x7b' ∧ Nat.digitChar d ≠ 'u' := by
  interval_cases d <;> decide

theorem mem_toDigits_sixteen {c : Char} {n : Nat} (member : c ∈ Nat.toDigits 16 n) :
    ∃ d < 16, c = Nat.digitChar d := by
  induction n using Nat.strongRecOn with
  | ind n ih =>
    by_cases small : n < 16
    · rw [Nat.toDigits_of_lt_base small, List.mem_singleton] at member
      exact ⟨n, small, member⟩
    · rw [Nat.toDigits_of_base_le (by decide) (by omega), List.mem_append, List.mem_singleton] at member
      rcases member with front | last
      · exact ih (n / 16) (by omega) front
      · exact ⟨n % 16, Nat.mod_lt n (by decide), last⟩

namespace RelationshipId

theorem length_digits (id : RelationshipId) : id.digits.length = 32 := by
  have short : (Nat.toDigits 16 id.bits.toNat).length ≤ 32 :=
    (Nat.length_toDigits_le_iff (by decide) (by decide)).mpr (lt_of_lt_of_eq id.bits.isLt (by decide))
  simp only [digits, List.length_append, List.length_replicate]
  omega

theorem mem_digits {id : RelationshipId} {c : Char} (member : c ∈ id.digits) : ∃ d < 16, c = Nat.digitChar d := by
  rcases List.mem_append.mp member with zero | digit
  · exact ⟨0, by decide, List.eq_of_mem_replicate zero⟩
  · exact mem_toDigits_sixteen digit

theorem ofDigits?_digits (id : RelationshipId) : ofDigits? id.digits = some id := by
  have read : ofHex? id.digits = some id.bits.toNat := by
    rw [digits, ofHex?_zeros_append, ofHex?_toDigits]
  simp [ofDigits?, length_digits, read]

/-- Groups of the right lengths joined by hyphens. -/
theorem ungrouped?_groups {a b c d e : List Char} (first : a.length = 8) (second : b.length = 4) (third : c.length = 4)
    (fourth : d.length = 4) (fifth : e.length = 12) :
    ungrouped? (a ++ '-' :: (b ++ '-' :: (c ++ '-' :: (d ++ '-' :: e)))) = some (a ++ b ++ c ++ d ++ e) := by
  simp (disch := omega) [ungrouped?, List.drop_append, List.getElem?_append, List.getElem?_cons,
    List.drop_eq_nil_of_le, first, second, third, fourth, fifth]

theorem toList_text (id : RelationshipId) :
    id.text.toList = id.digits.take 8 ++ '-' :: ((id.digits.drop 8).take 4 ++ '-' :: ((id.digits.drop 12).take 4 ++
      '-' :: ((id.digits.drop 16).take 4 ++ '-' :: id.digits.drop 20))) := by
  have last : (id.digits.drop 20).take 12 = id.digits.drop 20 :=
    List.take_of_length_le (by simp [length_digits])
  simp [text, String.intercalate_cons_cons, last]

theorem ungrouped?_text (id : RelationshipId) : ungrouped? id.text.toList = some id.digits := by
  have long := length_digits id
  rw [toList_text, ungrouped?_groups (by simp [long]) (by simp [long]) (by simp [long]) (by simp [long])
    (by simp [long])]
  have joined (start count : Nat) :
      (id.digits.drop start).take count ++ id.digits.drop (start + count) = id.digits.drop start := by
    rw [← List.drop_drop, List.take_append_drop]
  rw [List.append_assoc, List.append_assoc, List.append_assoc, joined 16 4, joined 12 4, joined 8 4,
    List.take_append_drop]

theorem ofText?_text (id : RelationshipId) : ofText? id.text = some id := by
  have plain : ∀ c ∈ id.text.toList.head?, c ≠ '\x7b' ∧ c ≠ 'u' := by
    intro c first
    have member : c ∈ id.digits := by
      have nonempty : id.digits.take 8 ≠ [] := by simp [← List.length_pos_iff, length_digits]
      rw [toList_text, List.head?_append, List.head?_eq_some_head nonempty, Option.some_or] at first
      exact List.mem_of_mem_take (Option.some.inj first ▸ List.head_mem nonempty)
    obtain ⟨d, single, rfl⟩ := mem_digits member
    exact digitChar_plain single
  have grouped : id.text.toList.length = 36 := by
    simp [toList_text, length_digits]
  have ungroupedFails : ofDigits? id.text.toList = none := by
    simp [ofDigits?, grouped]
  unfold ofText?
  cases chars : id.text.toList with
  | nil => simp [chars] at grouped
  | cons first rest =>
    rw [chars] at plain ungroupedFails
    obtain ⟨brace, letter⟩ := plain first rfl
    have unnamed : "urn:uuid:".toList.isPrefixOf (first :: rest) = false := by
      simp [List.isPrefixOf, Ne.symm letter]
    simp only [unnamed]
    have read := ungrouped?_text id
    rw [chars] at read
    simp [brace, ungroupedFails, read, ofDigits?_digits]

end RelationshipId

end EntityGraph
