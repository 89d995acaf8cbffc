import EntityGraph.Embedding.Hashing

/-!
The runs that an embedding counts are the maximal ones: a text is parted in exactly one way into runs of letters and numbers
and the gaps around them.
-/
namespace EntityGraph.Hashing

variable {gap run rest text : List Char} {found others : List (List Char)} {c next : Char}

/-- Neither letters nor numbers. -/
def IsGap (gap : List Char) : Prop := ∀ c ∈ gap, isAlphanumeric c = false

/-- Letters and numbers only, and at least one. -/
structure IsRun (run : List Char) : Prop where
  full : run ≠ []
  alphanumeric : ∀ c ∈ run, isAlphanumeric c = true

/-- A run in front of the text does not go on into it. -/
def StartsApart (text : List Char) : Prop := ∀ c ∈ text.head?, isAlphanumeric c = false

/-- The maximal runs of a text in their order: each takes all letters and numbers up to the next gap. -/
inductive MaximalRuns : List Char → List (List Char) → Prop
  | none {gap : List Char} (outside : IsGap gap) : MaximalRuns gap []
  | next {gap run rest : List Char} {found : List (List Char)} (outside : IsGap gap) (inside : IsRun run)
      (apart : StartsApart rest) (others : MaximalRuns rest found) : MaximalRuns (gap ++ (run ++ rest)) (run :: found)

theorem runs_outside (outside : isAlphanumeric c = false) (rest : List Char) : runs (c :: rest) = runs rest := by
  simp [runs, outside]

theorem runs_within (inside : isAlphanumeric c = true) (following : isAlphanumeric next = true)
    (found : runs (next :: rest) = run :: others) : runs (c :: next :: rest) = (c :: run) :: others := by
  rw [runs.eq_def]
  simp only [inside, following, found, if_true]

theorem runs_ending (inside : isAlphanumeric c = true) (apart : StartsApart rest) :
    runs (c :: rest) = [c] :: runs rest := by
  cases rest with
  | nil => simp [runs, inside]
  | cons next rest =>
    have outside : isAlphanumeric next = false := apart next rfl
    rw [runs.eq_def]
    simp only [inside, if_true]
    cases runs (next :: rest) with
    | nil => rfl
    | cons run others => simp only [outside, Bool.false_eq_true, if_false]

theorem runs_gap (outside : IsGap gap) (rest : List Char) : runs (gap ++ rest) = runs rest := by
  induction gap with
  | nil => rfl
  | cons c gap shorter =>
    obtain ⟨first, later⟩ := List.forall_mem_cons.mp outside
    rw [List.cons_append, runs_outside first, shorter later]

theorem runs_run (inside : IsRun run) (apart : StartsApart rest) : runs (run ++ rest) = run :: runs rest := by
  obtain ⟨full, alphanumeric⟩ := inside
  induction run with
  | nil => exact absurd rfl full
  | cons c run shorter =>
    obtain ⟨first, later⟩ := List.forall_mem_cons.mp alphanumeric
    cases run with
    | nil => exact runs_ending first apart
    | cons next run =>
      exact runs_within first (later next List.mem_cons_self) (shorter (List.cons_ne_nil next run) later)

/-- No other runs are maximal. -/
theorem MaximalRuns.eq_runs (maximal : MaximalRuns text found) : found = runs text := by
  induction maximal with
  | none outside =>
    have nothing := runs_gap outside []
    rw [List.append_nil] at nothing
    exact nothing.symm
  | next outside inside apart _ rest => rw [runs_gap outside, runs_run inside apart, rest]

/-- A text may start with its first run. -/
theorem MaximalRuns.first (inside : IsRun run) (apart : StartsApart rest) (others : MaximalRuns rest found) :
    MaximalRuns (run ++ rest) (run :: found) :=
  @MaximalRuns.next [] run rest found nofun inside apart others

theorem MaximalRuns.outside (maximal : MaximalRuns text found) (outside : isAlphanumeric c = false) :
    MaximalRuns (c :: text) found := by
  cases maximal with
  | none gap => exact .none (List.forall_mem_cons.mpr ⟨outside, gap⟩)
  | next gap inside apart others => exact .next (List.forall_mem_cons.mpr ⟨outside, gap⟩) inside apart others

/-- A letter or number in front of a text lengthens its first run, or is one of its own before a gap. -/
theorem MaximalRuns.inside (maximal : MaximalRuns text found) (inside : isAlphanumeric c = true) :
    ∃ found, MaximalRuns (c :: text) found := by
  have alone : IsRun [c] := ⟨List.cons_ne_nil c [], by simpa using inside⟩
  cases maximal with
  | none outside =>
    have apart : StartsApart text := fun c front => outside c (List.mem_of_mem_head? front)
    exact ⟨_, .first alone apart (.none outside)⟩
  | @next gap run rest others outside first apart remaining =>
    cases gap with
    | nil =>
      have longer : IsRun (c :: run) := ⟨List.cons_ne_nil c run, List.forall_mem_cons.mpr ⟨inside, first.alphanumeric⟩⟩
      exact ⟨_, .first longer apart remaining⟩
    | cons front gap =>
      have ends : StartsApart (front :: gap ++ (run ++ rest)) := by
        rintro c ⟨⟩
        exact outside front List.mem_cons_self
      exact ⟨_, .first alone ends (.next outside first apart remaining)⟩

theorem exists_maximalRuns (text : List Char) : ∃ found, MaximalRuns text found := by
  induction text with
  | nil => exact ⟨[], .none nofun⟩
  | cons c text shorter =>
    obtain ⟨found, maximal⟩ := shorter
    cases inside : isAlphanumeric c with
    | false => exact ⟨found, maximal.outside inside⟩
    | true => exact maximal.inside inside

theorem maximalRuns_iff : MaximalRuns text found ↔ found = runs text := by
  refine ⟨MaximalRuns.eq_runs, ?_⟩
  rintro rfl
  obtain ⟨found, maximal⟩ := exists_maximalRuns text
  exact maximal.eq_runs ▸ maximal

theorem MaximalRuns.ne_nil_iff (maximal : MaximalRuns text found) :
    found ≠ [] ↔ ∃ c ∈ text, isAlphanumeric c = true := by
  cases maximal with
  | none outside =>
    refine ⟨fun full => absurd rfl full, ?_⟩
    rintro ⟨c, member, inside⟩
    exact absurd inside (Bool.eq_false_iff.mp (outside c member))
  | @next gap run rest others outside inside apart remaining =>
    obtain ⟨c, later, rfl⟩ := List.exists_cons_of_ne_nil inside.full
    exact iff_of_true (List.cons_ne_nil _ _) ⟨c, by simp, inside.alphanumeric c List.mem_cons_self⟩

end EntityGraph.Hashing
