import EntityGraph.Condition.Expression
import EntityGraph.Proofs.DigitText
import EntityGraph.Text.Case.Fold
import Mathlib.Data.List.Forall2

/-!
Conditions as they are written on a line: a field, an operator and a value between quotes, with blanks around them. Such
a line is read as exactly the condition that it writes. No other reading gets in the way, whatever the value holds: the
field ends before the first blank or sign, the operator before the next blank or quote, and the value at the last quote.
-/
namespace EntityGraph

/-- The code points from the first to the last of every range of a set. -/
def CodeSet.codes (set : CodeSet) : List Nat :=
  set.flatMap fun range => List.range' range.first (range.last + 1 - range.first)

theorem CodeSet.mem_codes {set : CodeSet} {code : Nat} (member : set.contains code = true) : code ∈ set.codes := by
  induction set with
  | nil => cases member
  | cons range rest ih =>
    rw [contains] at member
    split at member
    · cases member
    · rw [codes, List.flatMap_cons, List.mem_append]
      rcases Bool.or_eq_true_iff.mp member with here | later
      · simp only [CodeRange.contains, Bool.and_eq_true, decide_eq_true_eq] at here
        exact .inl (List.mem_range'_1.mpr (by omega))
      · exact .inr (ih later)

theorem isWordChar_of_isBlank {c : Char} (blank : isBlank c = true) : isWordChar c = false := by
  have parted : ∀ code ∈ blanks.codes, wordSets.any (·.contains code) = false := by decide +kernel
  exact parted c.toNat (CodeSet.mem_codes blank)

theorem isBlank_of_isWordChar {c : Char} (word : isWordChar c = true) : isBlank c = false := by
  rw [Bool.eq_false_iff]
  intro blank
  rw [isWordChar_of_isBlank blank] at word
  cases word

namespace Expression

theorem isQuote_iff {c : Char} : isQuote c = true ↔ c = '"' ∨ c = '\'' := by simp [isQuote]

theorem isBlank_of_isQuote {c : Char} (quote : isQuote c = true) : isBlank c = false := by
  rcases isQuote_iff.mp quote with rfl | rfl <;> decide

theorem isQuote_of_isBlank {c : Char} (blank : isBlank c = true) : isQuote c = false := by
  rw [Bool.eq_false_iff]
  intro quote
  rw [isBlank_of_isQuote quote] at blank
  cases blank

end Expression

namespace ExpressionOperator

theorem isSign_iff {c : Char} : isSign c = true ↔ c = '>' ∨ c = '<' ∨ c = '=' ∨ c = '!' := by simp [isSign, or_assoc]

theorem isBlank_of_isSign {c : Char} (sign : isSign c = true) : isBlank c = false := by
  rcases isSign_iff.mp sign with rfl | rfl | rfl | rfl <;> decide

theorem isWordChar_of_isSign {c : Char} (sign : isSign c = true) : isWordChar c = false := by
  rcases isSign_iff.mp sign with rfl | rfl | rfl | rfl <;> decide +kernel

theorem isSign_of_isBlank {c : Char} (blank : isBlank c = true) : isSign c = false := by
  rw [Bool.eq_false_iff]
  intro sign
  rw [isBlank_of_isSign sign] at blank
  cases blank

theorem isSign_of_isQuote {c : Char} (quote : Expression.isQuote c = true) : isSign c = false := by
  rcases Expression.isQuote_iff.mp quote with rfl | rfl <;> decide

/-- The signs that a comparison is written with. -/
def signs? : ExpressionOperator → Option String
  | gt => some ">"
  | lt => some "<"
  | gte => some ">="
  | lte => some "<="
  | eq => some "=="
  | ne => some "!="
  | contains => none
  | unsupported => none

/-- How an operator is written: a comparison with its signs, and the word with its letters in any case. -/
inductive Spelled : ExpressionOperator → String → Prop where
  | signs {operator : ExpressionOperator} {text : String} (known : operator.signs? = some text) :
    Spelled operator text
  | word {text : String}
    (letters : List.Forall₂ (fun c letter => c.toNat ∈ Case.variants letter.toNat) text.toList "CONTAINS".toList) :
    Spelled contains text

theorem wordLetters_eq :
    wordLetters = "CONTAINS".toList.map fun letter => (Case.variants letter.toNat).map Char.ofNat := by
  decide +kernel

theorem afterWord?_append {letters : List (List Char)} {word : List Char}
    (spelled : List.Forall₂ (fun c letter => c ∈ letter) word letters) (rest : List Char) :
    afterWord? letters (word ++ rest) = some rest := by
  induction spelled with
  | nil => rfl
  | cons here _ ih => rw [List.cons_append, afterWord?, if_pos (List.contains_iff_mem.mpr here), ih]

theorem ofSigns_signs {operator : ExpressionOperator} {text : String} (known : operator.signs? = some text) :
    text.toList ≠ [] ∧ text.toList.all isSign = true ∧ ofSigns text.toList = operator := by
  cases operator <;> cases known <;> decide

theorem head_word {word : List Char} (spelled : List.Forall₂ (fun c letter => c ∈ letter) word wordLetters) :
    ∃ c rest, word = c :: rest ∧ isBlank c = false ∧ isSign c = false := by
  cases spelled with
  | cons here _ =>
    refine ⟨_, _, rfl, ?_⟩
    rcases List.mem_pair.mp here with rfl | rfl <;> decide

end ExpressionOperator

namespace Expression

open ExpressionOperator (Spelled)

/-- How a condition is written on a line: its field, its operator, and its value between two quotes, with blanks around
each of them. The field is a word, with a blank behind it if another word follows. The value stays on the line and has
no quotes at its ends. -/
inductive Written (condition : Expression) : String → Prop where
  | line {before between gap after symbol : String} {quote : Char}
    (blank : ∀ space ∈ [before, between, gap, after], isBlankText space = true)
    (named : condition.field ≠ "" ∧ condition.field.toList.all isWordChar = true)
    (spelled : condition.operator.Spelled symbol)
    (parted : condition.operator = .contains → between ≠ "")
    (quoted : isQuote quote = true)
    (oneLine : '\n' ∉ condition.value.toList)
    (opens : ∀ c ∈ condition.value.toList.head?, isQuote c = false)
    (closes : ∀ c ∈ condition.value.toList.getLast?, isQuote c = false) :
    Written condition (before ++ condition.field ++ between ++ symbol ++ gap ++
      quote.toString ++ condition.value ++ quote.toString ++ after)

variable {text gap after value : List Char} {quote : Char}

theorem dropWhile_blanks (space : gap.all isBlank = true) (stops : ∀ c ∈ text.head?, isBlank c = false) :
    (gap ++ text).dropWhile isBlank = text := dropWhile_append_stop (List.all_eq_true.mp space) stops

theorem quoted?_line (quoted : isQuote quote = true) (oneLine : '\n' ∉ value) (blank : after.all isBlank = true) :
    quoted? (quote :: (value ++ quote :: after)) = some (quote :: (value ++ [quote])) := by
  have stays : ∀ c ∈ value ++ [quote], decide (c ≠ '\n') = true := by
    intro c member
    apply decide_eq_true
    rintro rfl
    rcases List.mem_append.mp member with inside | closing
    · exact oneLine inside
    · rw [← List.mem_singleton.mp closing] at quoted
      exact absurd quoted (by decide)
  have line : (value ++ quote :: after).takeWhile (· ≠ '\n') = value ++ quote :: after.takeWhile (· ≠ '\n') := by
    rw [List.append_cons, List.takeWhile_append_of_pos stays, List.append_assoc, List.singleton_append]
  have unquoted : ∀ c ∈ (after.takeWhile (· ≠ '\n')).reverse, (!isQuote c) = true := by
    intro c member
    have spaced := List.all_eq_true.mp blank c (List.takeWhile_subset _ (List.mem_reverse.mp member))
    rw [isQuote_of_isBlank spaced, Bool.not_false]
  have closed : ((after.takeWhile (· ≠ '\n')).reverse ++ quote :: value.reverse).dropWhile (fun c => !isQuote c) =
      quote :: value.reverse := by
    apply dropWhile_append_stop unquoted
    rintro _ ⟨⟩
    rw [quoted, Bool.not_true]
  have reversed : (value ++ quote :: after.takeWhile (· ≠ '\n')).reverse =
      (after.takeWhile (· ≠ '\n')).reverse ++ quote :: value.reverse := by simp
  simp only [quoted?, quoted, if_true, line, reversed, closed]
  simp

/-- A value without quotes at its ends is what remains when its quotes are taken off. -/
theorem trimQuotes_quoted (quoted : isQuote quote = true)
    (opens : ∀ c ∈ value.head?, isQuote c = false) (closes : ∀ c ∈ value.getLast?, isQuote c = false) :
    trimQuotes (quote :: (value ++ [quote])) = value := by
  rw [trimQuotes, List.dropWhile_cons_of_pos quoted]
  cases value with
  | nil => simp [quoted]
  | cons first rest =>
    have opening : isQuote first = false := opens first rfl
    have closing : ∀ c ∈ (first :: rest).reverse.head?, isQuote c = false := by
      rw [List.head?_reverse]
      exact closes
    have inner : ([quote] ++ (first :: rest).reverse).dropWhile isQuote = (first :: rest).reverse :=
      dropWhile_append_stop (List.forall_mem_singleton.mpr quoted) closing
    rw [List.cons_append, List.dropWhile_cons_of_neg (by simp [opening]), ← List.cons_append, List.reverse_append,
      List.reverse_singleton, inner, List.reverse_reverse]

theorem value?_quoted (space : gap.all isBlank = true) (quoted : isQuote quote = true) (oneLine : '\n' ∉ value)
    (blank : after.all isBlank = true) :
    value? (gap ++ quote :: (value ++ quote :: after)) = some (quote :: (value ++ [quote])) := by
  have starts : ∀ c ∈ (quote :: (value ++ quote :: after)).head?, isBlank c = false := by
    rintro _ ⟨⟩
    exact isBlank_of_isQuote quoted
  rw [value?, dropWhile_blanks space starts, quoted?_line quoted oneLine blank]

theorem signsThenValue?_append {signs rest found : List Char} (nonempty : signs ≠ [])
    (follows : value? rest = some found) :
    signsThenValue? (signs ++ rest) signs.length = some (.ofSigns signs, found) := by
  obtain ⟨count, length⟩ := Nat.exists_eq_succ_of_ne_zero (List.length_pos_iff.mpr nonempty).ne'
  rw [length, signsThenValue?, ← Nat.succ_eq_add_one, ← length, List.drop_left, follows, List.take_left]

theorem operatorAndValue?_spelled {operator : ExpressionOperator} {symbol : String} {rest found : List Char}
    (space : gap.all isBlank = true) (spelled : operator.Spelled symbol)
    (stops : ∀ c ∈ rest.head?, ExpressionOperator.isSign c = false) (follows : value? rest = some found) :
    operatorAndValue? (gap ++ (symbol.toList ++ rest)) = some (operator, found) := by
  cases spelled with
  | signs known =>
    obtain ⟨nonempty, signs, reads⟩ := ExpressionOperator.ofSigns_signs known
    have all := List.all_eq_true.mp signs
    have starts : ∀ c ∈ (symbol.toList ++ rest).head?, isBlank c = false := by
      intro c first
      rw [List.head?_append_of_ne_nil _ nonempty] at first
      exact ExpressionOperator.isBlank_of_isSign (all c (List.mem_of_head? first))
    rw [operatorAndValue?, dropWhile_blanks space starts, takeWhile_append_stop all stops,
      signsThenValue?_append nonempty follows, reads]
  | word letters =>
    have spelled : List.Forall₂ (fun c letter => c ∈ letter) symbol.toList ExpressionOperator.wordLetters := by
      rw [ExpressionOperator.wordLetters_eq, List.forall₂_map_right_iff]
      exact letters.imp fun c letter variant => List.mem_map.mpr ⟨_, variant, Char.ofNat_toNat c⟩
    obtain ⟨first, more, word, starts, unsigned⟩ := ExpressionOperator.head_word spelled
    have continues := ExpressionOperator.afterWord?_append spelled rest
    have noSigns : (symbol.toList ++ rest).takeWhile ExpressionOperator.isSign = [] := by
      rw [word, List.cons_append, List.takeWhile_cons_of_neg (by simp [unsigned])]
    have opens : ∀ c ∈ (symbol.toList ++ rest).head?, isBlank c = false := by
      rw [word]
      rintro _ ⟨⟩
      exact starts
    simp [operatorAndValue?, dropWhile_blanks space opens, noSigns, signsThenValue?, continues, follows]

theorem fieldFirst?_append {field rest found : List Char} {operator : ExpressionOperator} (nonempty : field ≠ [])
    (follows : operatorAndValue? rest = some (operator, found)) :
    fieldFirst? (field ++ rest) field.length =
      some ⟨String.ofList field, operator, String.ofList (trimQuotes found)⟩ := by
  obtain ⟨count, length⟩ := Nat.exists_eq_succ_of_ne_zero (List.length_pos_iff.mpr nonempty).ne'
  rw [length, fieldFirst?, ← Nat.succ_eq_add_one, ← length, List.drop_left, follows, List.take_left]

/-- No word goes on with blanks, or with an operator that has a blank in front where it needs one. -/
theorem stops_field {operator : ExpressionOperator} {symbol : String} (space : gap.all isBlank = true)
    (spelled : operator.Spelled symbol) (parted : operator = .contains → gap ≠ []) (rest : List Char) :
    ∀ c ∈ (gap ++ (symbol.toList ++ rest)).head?, isWordChar c = false := by
  cases gap with
  | cons first more =>
    rintro _ ⟨⟩
    exact isWordChar_of_isBlank (List.all_eq_true.mp space _ List.mem_cons_self)
  | nil =>
    cases spelled with
    | signs known =>
      obtain ⟨nonempty, signs, -⟩ := ExpressionOperator.ofSigns_signs known
      intro c first
      rw [List.nil_append, List.head?_append_of_ne_nil _ nonempty] at first
      exact ExpressionOperator.isWordChar_of_isSign (List.all_eq_true.mp signs c (List.mem_of_head? first))
    | word => exact absurd rfl (parted rfl)

/-- Neither blanks nor a quote are signs. -/
theorem stops_signs (space : gap.all isBlank = true) (quoted : isQuote quote = true) (rest : List Char) :
    ∀ c ∈ (gap ++ quote :: rest).head?, ExpressionOperator.isSign c = false := by
  cases gap with
  | cons first more =>
    rintro _ ⟨⟩
    exact ExpressionOperator.isSign_of_isBlank (List.all_eq_true.mp space _ List.mem_cons_self)
  | nil =>
    rintro _ ⟨⟩
    exact ExpressionOperator.isSign_of_isQuote quoted

/-- A line that writes a condition is read as this condition. The value may hold blanks, signs, words and quotes of
either kind. -/
theorem ofText?_written {condition : Expression} {line : String} (written : condition.Written line) :
    ofText? line = some condition := by
  obtain @⟨before, between, gap, after, symbol, quote, blank, ⟨named, word⟩, spelled, parted, quoted, oneLine, opens,
    closes⟩ := written
  have chars : (before ++ condition.field ++ between ++ symbol ++ gap ++ quote.toString ++ condition.value ++
      quote.toString ++ after).toList = before.toList ++ (condition.field.toList ++ (between.toList ++ (symbol.toList ++
        (gap.toList ++ quote :: (condition.value.toList ++ quote :: after.toList))))) := by
    simp
  simp only [List.forall_mem_cons, isBlankText] at blank
  obtain ⟨first, second, third, last, -⟩ := blank
  have wordChars := List.all_eq_true.mp word
  have started : condition.field.toList ≠ [] := by simpa using named
  have starts (rest : List Char) : ∀ c ∈ (condition.field.toList ++ rest).head?, isBlank c = false := by
    intro c member
    rw [List.head?_append_of_ne_nil _ started] at member
    exact isBlank_of_isWordChar (wordChars c (List.mem_of_head? member))
  have stops := stops_field second spelled (fun same => by simpa using parted same)
  have value := value?_quoted third quoted oneLine last
  have operator := operatorAndValue?_spelled second spelled (stops_signs third quoted _) value
  -- from the left, each part is taken as far as it goes, and so no shorter field or operator is tried
  rw [ofText?, chars, dropWhile_blanks first (starts _), takeWhile_append_stop wordChars (stops _),
    fieldFirst?_append started operator, trimQuotes_quoted quoted opens closes, String.ofList_toList,
    String.ofList_toList]

/-- A field that is spelled like the operator, and a value with quotes, signs and an operator inside. -/
theorem ofText?_written_nested :
    let condition : Expression := ⟨"contains", .contains, "say \"a >= 'b'\" contains c"⟩
    let line := "\tcontains ConTainſ'say \"a >= 'b'\" contains c' \n"
    condition.Written line ∧ ofText? line = some condition := by
  intro condition line
  have opens : ∀ c ∈ condition.value.toList.head?, isQuote c = false := by
    rw [(by decide : condition.value.toList.head? = some 's')]
    rintro _ ⟨⟩
    rfl
  have closes : ∀ c ∈ condition.value.toList.getLast?, isQuote c = false := by
    rw [(by decide : condition.value.toList.getLast? = some 'c')]
    rintro _ ⟨⟩
    rfl
  have written : condition.Written line :=
    @Written.line condition "\t" " " "" " \n" "ConTainſ" '\'' (by decide) ⟨by decide, by decide +kernel⟩
      (.word (by decide +kernel)) (by decide) (by decide) (by decide) opens closes
  exact ⟨written, ofText?_written written⟩

end Expression

end EntityGraph
