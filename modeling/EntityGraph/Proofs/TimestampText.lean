import EntityGraph.Proofs.CalendarDates
import EntityGraph.Proofs.DigitText

/-!
The written form of a moment names that moment: every field of a timestamp is read back from its digits, and the fields
together are the date and time of day that were written.
-/
namespace EntityGraph

theorem isBlank_of_isDigit {c : Char} (digit : c.isDigit = true) : isBlank c = false := by
  obtain ⟨d, small, rfl⟩ := Decimal.exists_digitChar digit
  interval_cases d <;> decide

/-- A moment that a clock can show: its date is in range, and a leap second only follows second 59 of a minute. -/
structure Instant.Valid (t : Instant) : Prop where
  ranged : Calendar.inRange (Calendar.date (t.second / 86400)).1 = true
  fine : t.nano < 1_000_000_000 ∨ t.nano < 2_000_000_000 ∧ t.second % 60 = 59

instance (t : Instant) : Decidable t.Valid :=
  decidable_of_iff (Calendar.inRange (Calendar.date (t.second / 86400)).1 = true ∧
      (t.nano < 1_000_000_000 ∨ t.nano < 2_000_000_000 ∧ t.second % 60 = 59))
    ⟨fun ⟨ranged, fine⟩ => ⟨ranged, fine⟩, fun valid => ⟨valid.ranged, valid.fine⟩⟩

namespace TimeFields

open Decimal Instant

variable {fields next : TimeFields}

theorem read?_cons {item : LayoutItem} {more : Layout} {text rest : List Char}
    (taken : fields.readItem? text item = some (next, rest)) :
    read? (item :: more) fields text = read? more next rest := by
  simp [read?, taken]

theorem takeNumber?_digits {least most : Nat} {digits rest : List Char} (all : ∀ c ∈ digits, c.isDigit = true)
    (long : least ≤ digits.length) (short : digits.length ≤ most)
    (ends : digits.length = most ∨ StopsDigits rest) :
    takeNumber? least most (digits ++ rest) = some (ofDigits digits, rest) := by
  have stops : StopsDigits (rest.take (most - digits.length)) := by
    rcases ends with full | stops
    · simp [full, StopsDigits.nil]
    · exact stops.take _
  have scanned : ((digits ++ rest).take most).takeWhile Char.isDigit = digits := by
    rw [List.take_append, List.take_of_length_le short, takeWhile_digits all stops]
  simp [takeNumber?, scanned, Nat.not_lt.mpr long]

theorem dropWhile_isBlank_padded (width n : Nat) (rest : List Char) :
    (paddedDigits width n ++ rest).dropWhile isBlank = paddedDigits width n ++ rest := by
  cases shown : paddedDigits width n with
  | nil => exact absurd shown (paddedDigits_ne_nil width n)
  | cons c more =>
    have digit := isDigit_paddedDigits width n c (by simp [shown])
    simp [isBlank_of_isDigit digit]

theorem readItem?_number {field : TimeField} {n : Nat} (rest : List Char) (plain : field ≠ .year) (small : n < 100) :
    fields.readItem? (paddedDigits 2 n ++ rest) (.number field 2) =
      (fields.set? field false n).map fun done => (done, rest) := by
  have width := length_paddedDigits (show 0 < 2 by decide) small
  have taken : takeNumber? 1 2 (paddedDigits 2 n ++ rest) = some (n, rest) := by
    rw [takeNumber?_digits (isDigit_paddedDigits 2 n) (by omega) (by omega) (.inl width), ofDigits_paddedDigits]
  simp only [readItem?, dropWhile_isBlank_padded]
  cases field with
  | year => exact absurd rfl plain
  | _ => simp [taken]; cases fields.set? _ false n <;> rfl

theorem read?_number (field : TimeField) {n : Nat} {more : Layout} {rest : List Char} (plain : field ≠ .year)
    (small : n < 100) (set : fields.set? field false n = some next) :
    read? (.number field 2 :: more) fields (paddedDigits 2 n ++ rest) = read? more next rest :=
  read?_cons (by rw [readItem?_number rest plain small, set, Option.map_some])

theorem readItem?_year (year : Int) (rest : List Char) :
    fields.readItem? ((yearText year).toList ++ '-' :: rest) (.number .year 4) =
      some ({ fields with year }, '-' :: rest) := by
  have stops : StopsDigits ('-' :: rest) := .cons rfl rest
  have digits (n : Nat) := isDigit_paddedDigits 4 n
  have nonempty (n : Nat) : 1 ≤ (paddedDigits 4 n).length := List.length_pos_iff.mpr (paddedDigits_ne_nil 4 n)
  have signed (n : Nat) : takeNumber? 1 ((paddedDigits 4 n).length + (rest.length + 1))
      (paddedDigits 4 n ++ '-' :: rest) = some (n, '-' :: rest) := by
    rw [takeNumber?_digits (digits n) (nonempty n) (by omega) (.inr stops), ofDigits_paddedDigits]
  unfold yearText
  split
  · rename_i four
    obtain ⟨n, rfl⟩ := Int.eq_ofNat_of_zero_le four.1
    have width : (paddedDigits 4 n).length = 4 := length_paddedDigits (by decide) (by omega)
    have taken : takeNumber? 1 4 (paddedDigits 4 n ++ '-' :: rest) = some (n, '-' :: rest) := by
      rw [takeNumber?_digits (digits n) (nonempty n) (by omega) (.inr stops), ofDigits_paddedDigits]
    simp only [readItem?, toList_padded, Int.toNat_natCast, dropWhile_isBlank_padded]
    cases shown : paddedDigits 4 n with
    | nil => exact absurd shown (paddedDigits_ne_nil 4 n)
    | cons c more =>
      have first := digits n c (by simp [shown])
      have minus : c ≠ '-' := fun same => absurd (same ▸ first) (by decide)
      have plus : c ≠ '+' := fun same => absurd (same ▸ first) (by decide)
      rw [shown, List.cons_append] at taken
      simp [minus, plus, taken, set?]
  · have solid : isBlank '-' = false ∧ isBlank '+' = false := by decide
    split
    · rename_i negative
      simp [readItem?, toList_padded, solid, signed, set?, abs_of_neg negative]
    · rename_i positive
      simp [readItem?, toList_padded, solid, signed, set?, abs_of_nonneg (Int.not_lt.mp positive)]

theorem readItem?_blanks {c : Char} {rest : List Char} (solid : isBlank c = false) :
    fields.readItem? (c :: rest) .blanks = some (fields, c :: rest) := by
  simp [readItem?, solid]

theorem readItem?_mark {c : Char} {allowed : List Char} (rest : List Char) (listed : allowed.contains c = true) :
    fields.readItem? (c :: rest) (.mark allowed) = some (fields, rest) := by
  simp only [readItem?, listed, if_true]

/-- The digits after the seconds, with their point. -/
def fractionChars (nano : Nat) : List Char :=
  if nano = 0 then []
  else if nano % 1_000_000 = 0 then '.' :: paddedDigits 3 (nano / 1_000_000)
  else if nano % 1_000 = 0 then '.' :: paddedDigits 6 (nano / 1_000)
  else '.' :: paddedDigits 9 nano

theorem takeFraction?_padded {places n : Nat} {rest : List Char} (positive : 0 < places) (most : places ≤ 9)
    (fits : n < 10 ^ places) (stops : StopsDigits rest) :
    takeFraction? (paddedDigits places n ++ rest) = some (n * 10 ^ (9 - places), rest) := by
  have width := length_paddedDigits positive fits
  have scanned := takeWhile_digits (isDigit_paddedDigits places n) stops
  have kept : (paddedDigits places n).take 9 = paddedDigits places n := List.take_of_length_le (by omega)
  simp [takeFraction?, scanned, kept, width, paddedDigits_ne_nil, ofDigits_paddedDigits]

theorem readItem?_fraction {nano : Nat} {c : Char} {rest : List Char} (whole : fields.nano = 0)
    (fine : nano < 1_000_000_000) (stops : c.isDigit = false) (ends : c ≠ '.') :
    fields.readItem? (fractionChars nano ++ c :: rest) .fraction = some ({ fields with nano }, c :: rest) := by
  have taken {places n : Nat} (positive : 0 < places) (most : places ≤ 9) (fits : n < 10 ^ places)
      (size : n * 10 ^ (9 - places) = nano) :
      fields.readItem? ('.' :: paddedDigits places n ++ c :: rest) .fraction =
        some ({ fields with nano }, c :: rest) := by
    simp [readItem?, takeFraction?_padded positive most fits (.cons stops rest), size]
  unfold fractionChars
  split
  · rename_i none
    simp [readItem?, ends, none, ← whole]
  split
  · exact taken (by decide) (by decide) (by omega) (by omega)
  split
  · exact taken (by decide) (by decide) (by omega) (by omega)
  · exact taken (by decide) (by decide) fine (by omega)

end TimeFields

namespace Instant

def fields (t : Instant) : TimeFields :=
  let clock := (t.second % 86400).toNat
  let (year, month, day) := Calendar.date (t.second / 86400)
  { year, month, day
    hour := clock / 3600
    minute := clock / 60 % 60
    second := clock % 60 + (if 1_000_000_000 ≤ t.nano then 1 else 0)
    nano := t.nano % 1_000_000_000 }

theorem toList_text (t : Instant) :
    t.text.toList = (yearText t.fields.year).toList ++ '-' :: (paddedDigits 2 t.fields.month ++ '-' ::
      (paddedDigits 2 t.fields.day ++ 'T' :: (paddedDigits 2 t.fields.hour ++ ':' ::
        (paddedDigits 2 t.fields.minute ++ ':' :: (paddedDigits 2 t.fields.second ++
          (TimeFields.fractionChars t.fields.nano ++ ['Z'])))))) := by
  have fraction (nano : Nat) :
      (if nano = 0 then ""
        else if nano % 1_000_000 = 0 then "." ++ padded 3 (nano / 1_000_000)
        else if nano % 1_000 = 0 then "." ++ padded 6 (nano / 1_000)
        else "." ++ padded 9 nano).toList = TimeFields.fractionChars nano := by
    unfold TimeFields.fractionChars
    split_ifs <;> simp [toList_padded]
  simp only [text, wholePart, fields, String.toList_append, toList_padded, fraction]
  simp

theorem isDate_fields {t : Instant} (valid : t.Valid) :
    Calendar.isDate t.fields.year t.fields.month t.fields.day = true := Calendar.isDate_date valid.ranged

theorem fields_bounds {t : Instant} (valid : t.Valid) :
    (1 ≤ t.fields.month ∧ t.fields.month ≤ 12) ∧ (1 ≤ t.fields.day ∧ t.fields.day ≤ 31) ∧ t.fields.hour ≤ 23 ∧
      t.fields.minute ≤ 59 ∧ t.fields.second ≤ 60 ∧ t.fields.nano < 1_000_000_000 := by
  have date := isDate_fields valid
  simp only [Calendar.isDate, Bool.and_eq_true, decide_eq_true_eq] at date
  obtain ⟨⟨⟨⟨-, monthLow⟩, monthHigh⟩, dayLow⟩, dayHigh⟩ := date
  have longest : Calendar.daysInMonth t.fields.year t.fields.month ≤ 31 := by
    unfold Calendar.daysInMonth
    split_ifs <;> decide
  have clock : (t.second % 86400).toNat < 86400 := by omega
  refine ⟨⟨monthLow, monthHigh⟩, ⟨dayLow, Nat.le_trans dayHigh longest⟩, ?_⟩
  simp only [fields]
  split_ifs <;> omega

theorem read?_text {t : Instant} (valid : t.Valid) :
    TimeFields.read? Layout.lenient {} t.text.toList = some (t.fields, ['Z']) := by
  obtain ⟨month, day, hour, minute, second, nano⟩ := fields_bounds valid
  have hyphen : isBlank '-' = false := by decide
  have colon : isBlank ':' = false := by decide
  rw [toList_text, Layout.lenient]
  rw [TimeFields.read?_cons (TimeFields.readItem?_year _ _),
    TimeFields.read?_cons (TimeFields.readItem?_blanks hyphen),
    TimeFields.read?_cons (TimeFields.readItem?_mark _ rfl),
    TimeFields.read?_number .month nofun (by omega) (if_pos month),
    TimeFields.read?_cons (TimeFields.readItem?_blanks hyphen),
    TimeFields.read?_cons (TimeFields.readItem?_mark _ rfl),
    TimeFields.read?_number .day nofun (by omega) (if_pos day),
    TimeFields.read?_cons (TimeFields.readItem?_mark _ rfl),
    TimeFields.read?_number .hour nofun (by omega) (if_pos hour),
    TimeFields.read?_cons (TimeFields.readItem?_blanks colon),
    TimeFields.read?_cons (TimeFields.readItem?_mark _ rfl),
    TimeFields.read?_number .minute nofun (by omega) (if_pos minute),
    TimeFields.read?_cons (TimeFields.readItem?_blanks colon),
    TimeFields.read?_cons (TimeFields.readItem?_mark _ rfl),
    TimeFields.read?_number .second nofun (by omega) (if_pos second),
    TimeFields.read?_cons (TimeFields.readItem?_fraction rfl nano rfl (by decide)),
    TimeFields.read?_cons (TimeFields.readItem?_blanks (by decide))]
  rfl

theorem instant?_fields {t : Instant} (valid : t.Valid) : t.fields.instant? 0 = some t := by
  have clock : t.fields.hour * 3600 + t.fields.minute * 60 + (if t.fields.second = 60 then 59 else t.fields.second)
      = (t.second % 86400).toNat := by
    simp only [fields]
    have fine := valid.fine
    split_ifs <;> omega
  have moment : Calendar.dayNumber t.fields.year t.fields.month t.fields.day * 86400
      + ((t.second % 86400).toNat : Int) - 0 = t.second := by
    have day : Calendar.dayNumber t.fields.year t.fields.month t.fields.day = t.second / 86400 :=
      Calendar.dayNumber_date _
    omega
  have nano : (if t.fields.second = 60 then t.fields.nano + 1_000_000_000 else t.fields.nano) = t.nano := by
    simp only [fields]
    have fine := valid.fine
    split_ifs <;> omega
  simp only [TimeFields.instant?, isDate_fields valid, clock, moment, nano, valid.ranged, if_true]

theorem ofLenientText?_text {t : Instant} (valid : t.Valid) : ofLenientText? t.text = some t := by
  have zulu : (['Z'].take 3).map Char.toUpper ≠ ['U', 'T', 'C'] := by decide
  simp only [ofLenientText?, read?_text valid, Option.bind_eq_bind, Option.bind_some, if_neg zulu,
    TimeFields.takeOffset?, instant?_fields valid]
  rfl

end Instant

end EntityGraph
