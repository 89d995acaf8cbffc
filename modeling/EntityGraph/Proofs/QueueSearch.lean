import EntityGraph.Proofs.LevelInvariant

/-!
A search with a queue finds the levels around its start, one after the other: a level waits in front of what was found
of the next one.
-/
namespace EntityGraph.Search

variable {α : Type} [BEq α] {step : α → List α} {maxDepth depth turns : Nat}

theorem accept_seen {search : Search α} {neighbor : α} (seen : search.visited.contains neighbor = true) :
    search.accept depth neighbor = search := if_pos seen

theorem accept_unseen {search : Search α} {neighbor : α} (unseen : ¬ search.visited.contains neighbor = true) :
    accept depth search neighbor =
      ⟨search.visited ++ [neighbor], search.queue ++ [(neighbor, depth)], search.found ++ [neighbor]⟩ := if_neg unseen

theorem run_below (below : depth < maxDepth) (turns : Nat) (node : α) (visited found : List α)
    (queue : List (α × Nat)) : run step maxDepth (turns + 1) ⟨visited, (node, depth) :: queue, found⟩ =
      run step maxDepth turns ((step node).foldl (accept (depth + 1)) ⟨visited, queue, found⟩) := by
  simp only [run, if_neg (Nat.not_le.mpr below)]

theorem run_deepest (deepest : maxDepth ≤ depth) (turns : Nat) (node : α) (visited found : List α)
    (queue : List (α × Nat)) : run step maxDepth (turns + 1) ⟨visited, (node, depth) :: queue, found⟩ =
      run step maxDepth turns ⟨visited, queue, found⟩ := by
  simp only [run, if_pos deepest]

theorem run_last (deepest : maxDepth ≤ depth) (visited frontier found : List α) :
    (run step maxDepth turns ⟨visited, frontier.map (·, depth), found⟩).found = found := by
  induction turns generalizing frontier with
  | zero => rfl
  | succ turns ih =>
    cases frontier with
    | nil => rfl
    | cons first rest =>
      rw [List.map_cons, run_deepest deepest]
      exact ih rest

variable [LawfulBEq α]

theorem foldl_accept {neighbors : List α} (distinct : neighbors.Nodup) (depth : Nat) (search : Search α) :
    neighbors.foldl (accept depth) search =
      ⟨search.visited ++ neighbors.filter (!search.visited.contains ·),
        search.queue ++ (neighbors.filter (!search.visited.contains ·)).map (·, depth),
        search.found ++ neighbors.filter (!search.visited.contains ·)⟩ := by
  induction neighbors generalizing search with
  | nil => simp
  | cons first rest ih =>
    obtain ⟨absent, distinctRest⟩ := List.nodup_cons.mp distinct
    rw [List.foldl_cons, ih distinctRest]
    by_cases seen : search.visited.contains first = true
    · rw [accept_seen seen, List.filter_cons_of_neg (by simpa using seen)]
    · have others : rest.filter (!(search.visited ++ [first]).contains ·) =
          rest.filter (!search.visited.contains ·) := by
        apply List.filter_congr
        intro neighbor later
        have different : neighbor ≠ first := fun same => absent (same ▸ later)
        simp [different]
      rw [accept_unseen seen, List.filter_cons_of_pos (by simpa using seen)]
      simp only [others, List.append_assoc, List.map_cons, List.cons_append, List.nil_append]

/-- While a level below the largest depth waits, its nodes are taken from the queue and the next level is gathered. -/
theorem run_level (distinct : ∀ node, (step node).Nodup) (below : depth < maxDepth) (turns : Nat)
    (visited frontier next found : List α) :
    run step maxDepth (turns + frontier.length)
        ⟨visited ++ next, frontier.map (·, depth) ++ next.map (·, depth + 1), found ++ next⟩ =
      let gathered := frontier.foldl (gather step visited) next
      run step maxDepth turns ⟨visited ++ gathered, gathered.map (·, depth + 1), found ++ gathered⟩ := by
  -- What is left of the level waits first, and what was found of the next one behind it.
  induction frontier generalizing next with
  | nil => rfl
  | cons first rest ih =>
    have fresh : (step first).filter (!(visited ++ next).contains ·) =
        (step first).filter fun neighbor => !visited.contains neighbor && !next.contains neighbor := by
      apply List.filter_congr
      intro neighbor _
      rw [List.contains_append, Bool.not_or]
    rw [List.length_cons, ← Nat.add_assoc, List.map_cons, List.cons_append, run_below below,
      foldl_accept (distinct first), fresh, List.foldl_cons, ← ih]
    simp only [gather, List.append_assoc, List.map_append]

theorem run_levels (distinct : ∀ node, (step node).Nodup) {remaining : Nat} (within : depth + remaining = maxDepth)
    {visited frontier found : List α}
    (enough : frontier.length + (levels step remaining visited frontier).length ≤ turns) :
    (run step maxDepth turns ⟨visited, frontier.map (·, depth), found⟩).found =
      found ++ levels step remaining visited frontier := by
  induction remaining generalizing depth turns visited frontier found with
  | zero => rw [run_last (by omega), levels, List.append_nil]
  | succ remaining ih =>
    rw [levels, List.length_append] at enough
    have below : depth < maxDepth := by omega
    have level : run step maxDepth turns ⟨visited, frontier.map (·, depth), found⟩ =
        run step maxDepth (turns - frontier.length) ⟨visited ++ nextLevel step visited frontier,
          (nextLevel step visited frontier).map (·, depth + 1), found ++ nextLevel step visited frontier⟩ := by
      have whole := run_level distinct below (turns - frontier.length) visited frontier [] found
      rw [Nat.sub_add_cancel (by omega), List.append_nil, List.append_nil, List.map_nil, List.append_nil] at whole
      exact whole
    rw [level, levels, ih (by omega) (by omega), List.append_assoc]

end EntityGraph.Search
