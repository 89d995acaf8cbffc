import EntityGraph.Proofs.TidyContents

/-!
Texts with blanks and pairs of brackets around them. Stripping takes away everything that wrapping adds, so texts differ
only in what is wrapped around them exactly if they are stripped to the same.
-/
namespace EntityGraph

/-- A text that arises from a core by any number of steps, each of which puts blanks at its ends or a pair of brackets
around it. -/
inductive Wraps (core : String) : String → Prop where
  | bare : Wraps core core
  | spaced {text : String} (before after : String) (blankBefore : isBlankText before = true)
      (blankAfter : isBlankText after = true) (wraps : Wraps core text) : Wraps core (before ++ text ++ after)
  | bracketed {text : String} (wraps : Wraps core text) : Wraps core ("[" ++ text ++ "]")

namespace Brackets

/-- Blanks at the ends make no difference. -/
theorem trimChars_spaced {before after : List Char} (cs : List Char) (blankBefore : before.all isBlank = true)
    (blankAfter : after.all isBlank = true) : trimChars (before ++ cs ++ after) = trimChars cs := by
  have leading (text : List Char) : (before ++ text).dropWhile isBlank = text.dropWhile isBlank :=
    List.dropWhile_append_of_pos (List.all_eq_true.mp blankBefore)
  have trailing (text : List Char) : (after.reverse ++ text).dropWhile isBlank = text.dropWhile isBlank :=
    List.dropWhile_append_of_pos fun c member => List.all_eq_true.mp blankAfter c (List.mem_reverse.mp member)
  rw [trimChars, List.append_assoc, leading, List.dropWhile_append]
  split
  · rename_i nothing
    have blank : cs.dropWhile isBlank = [] := List.isEmpty_iff.mp nothing
    rw [← trimChars, trimChars_eq_nil_iff.mpr blankAfter, trimChars, blank]
    rfl
  · rw [List.reverse_append, trailing, trimChars]

/-- Trimming takes nothing but blanks off the ends. -/
theorem exists_spaces (cs : List Char) : ∃ before after : List Char,
    before.all isBlank = true ∧ after.all isBlank = true ∧ cs = before ++ trimChars cs ++ after := by
  have blank (text : List Char) : (text.takeWhile isBlank).all isBlank = true := List.all_takeWhile
  refine ⟨cs.takeWhile isBlank, ((cs.dropWhile isBlank).reverse.takeWhile isBlank).reverse, blank cs, ?_, ?_⟩
  · rw [List.all_reverse]
    exact blank _
  · rw [List.append_assoc, trimChars, ← List.reverse_append, List.takeWhile_append_dropWhile, List.reverse_reverse,
      List.takeWhile_append_dropWhile]

theorem toList_bracketed (text : String) : ("[" ++ text ++ "]").toList = '[' :: (text.toList ++ [']']) := by
  simp

theorem inside?_bracketed (cs : List Char) : inside? ('[' :: (cs ++ [']'])) = some cs := by
  simp [inside?]

theorem eq_of_inside? {cs inner : List Char} (found : inside? cs = some inner) : cs = '[' :: (inner ++ [']']) := by
  unfold inside? at found
  split at found
  · rename_i rest
    split at found
    · rename_i closed
      cases found
      rw [List.dropLast_append_getLast? _ closed]
    · cases found
  · cases found

theorem trimChars_bracketed (cs : List Char) : trimChars ('[' :: (cs ++ [']'])) = '[' :: (cs ++ [']']) := by
  have opening : isBlank '[' = false := by decide
  have closing : isBlank ']' = false := by decide
  simp [trimChars, opening, closing]

theorem stripChars_inside {cs inner : List Char} (found : inside? (trimChars cs) = some inner) :
    stripChars cs = stripChars inner := by
  rw [stripChars]
  split
  · rename_i same
    cases found.symm.trans same
    rfl
  · rename_i bare
    cases found.symm.trans bare

theorem stripChars_bare {cs : List Char} (bare : inside? (trimChars cs) = none) : stripChars cs = trimChars cs := by
  rw [stripChars]
  split
  · rename_i found
    cases bare.symm.trans found
  · rfl

/-- Stripping depends on what is left after trimming alone. -/
theorem stripChars_trimmed {one two : List Char} (same : trimChars one = trimChars two) :
    stripChars one = stripChars two := by
  cases found : inside? (trimChars one) with
  | none =>
    have bare : inside? (trimChars two) = none := same ▸ found
    rw [stripChars_bare found, stripChars_bare bare, same]
  | some inner =>
    have other : inside? (trimChars two) = some inner := same ▸ found
    rw [stripChars_inside found, stripChars_inside other]

theorem stripChars_bracketed (cs : List Char) : stripChars ('[' :: (cs ++ [']'])) = stripChars cs :=
  stripChars_inside (by rw [trimChars_bracketed, inside?_bracketed])

theorem inside?_stripChars (cs : List Char) : inside? (stripChars cs) = none := by
  fun_induction stripChars cs with
  | case1 cs inner found ih => exact ih
  | case2 cs bare => exact bare

theorem stripChars_idempotent (cs : List Char) : stripChars (stripChars cs) = stripChars cs := by
  rw [stripChars_bare, trim_stripChars]
  rw [trim_stripChars, inside?_stripChars]

/-- Stripping takes nothing but blanks and pairs of brackets away. -/
theorem wraps_stripChars (cs : List Char) : Wraps (String.ofList (stripChars cs)) (String.ofList cs) := by
  have spaced {core : String} {cs : List Char} (wraps : Wraps core (String.ofList (trimChars cs))) :
      Wraps core (String.ofList cs) := by
    obtain ⟨before, after, blankBefore, blankAfter, whole⟩ := exists_spaces cs
    have wrapped := wraps.spaced (.ofList before) (.ofList after) (by simpa [isBlankText] using blankBefore)
      (by simpa [isBlankText] using blankAfter)
    rwa [← String.ofList_append, ← String.ofList_append, ← whole] at wrapped
  fun_induction stripChars cs with
  | case1 cs inner found ih =>
    have wrapped := ih.bracketed
    rw [← String.ofList_toList (s := "[" ++ String.ofList inner ++ "]"), toList_bracketed, String.toList_ofList,
      ← eq_of_inside? found] at wrapped
    exact spaced wrapped
  | case2 cs bare => exact spaced .bare

end Brackets

theorem stripBrackets_trim (text : String) : stripBrackets (trim text) = stripBrackets text := by
  rw [stripBrackets, stripBrackets, trim, String.toList_ofList]
  exact congrArg String.ofList (Brackets.stripChars_trimmed (trimChars_idempotent text.toList))

theorem stripBrackets_idempotent (text : String) : stripBrackets (stripBrackets text) = stripBrackets text := by
  simp only [stripBrackets, String.toList_ofList, Brackets.stripChars_idempotent]

/-- Whatever is wrapped around a text is stripped with it. -/
theorem Wraps.stripBrackets_eq {core text : String} (wraps : Wraps core text) :
    stripBrackets text = stripBrackets core := by
  induction wraps with
  | bare => rfl
  | spaced before after blankBefore blankAfter _ ih =>
    rw [← ih, stripBrackets, stripBrackets, String.toList_append, String.toList_append]
    exact congrArg String.ofList (Brackets.stripChars_trimmed (Brackets.trimChars_spaced _ blankBefore blankAfter))
  | bracketed _ ih =>
    rw [← ih, stripBrackets, stripBrackets, Brackets.toList_bracketed, Brackets.stripChars_bracketed]

/-- Texts differ only by blanks and brackets around them exactly if they are stripped to the same. -/
theorem same_core_iff {one two : String} :
    (∃ core, Wraps core one ∧ Wraps core two) ↔ stripBrackets one = stripBrackets two := by
  have stripped (text : String) : Wraps (stripBrackets text) text := by
    have wraps := Brackets.wraps_stripChars text.toList
    rwa [String.ofList_toList] at wraps
  constructor
  · rintro ⟨core, left, right⟩
    rw [left.stripBrackets_eq, right.stripBrackets_eq]
  · intro same
    exact ⟨stripBrackets one, stripped one, same ▸ stripped two⟩

end EntityGraph
