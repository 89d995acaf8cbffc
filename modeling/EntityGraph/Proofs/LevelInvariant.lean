import EntityGraph.Proofs.Walk
import EntityGraph.Store.Traversal
import Mathlib.Data.List.Nodup

/-!
The levels around a node: every node within a depth is on them once, at its distance.
-/
namespace EntityGraph.Search

variable {α : Type} {step : α → List α} {start node : α} {visited frontier : List α}

/-- A level with the nodes to which steps from one more node lead for the first time. -/
def gather [BEq α] (step : α → List α) (visited next : List α) (node : α) : List α :=
  next ++ (step node).filter fun neighbor => !visited.contains neighbor && !next.contains neighbor

/-- One more level: the nodes to which steps from a frontier lead for the first time, in the order of discovery. -/
def nextLevel [BEq α] (step : α → List α) (visited frontier : List α) : List α :=
  frontier.foldl (gather step visited) []

/-- The nodes found on up to `depth` further levels. -/
def levels [BEq α] (step : α → List α) : Nat → List α → List α → List α
  | 0, _, _ => []
  | depth + 1, visited, frontier =>
    let next := nextLevel step visited frontier
    next ++ levels step depth (visited ++ next) next

/-- After so many levels the visited nodes are those at most so far away, and the frontier is the last level. -/
structure AtLevel (step : α → List α) (start : α) (level : Nat) (visited frontier : List α) : Prop where
  visited : ∀ node, node ∈ visited ↔ ∃ near ≤ level, IsDistance (Listed step) start near node
  frontier : ∀ node, node ∈ frontier ↔ IsDistance (Listed step) start level node

theorem AtLevel.initial (step : α → List α) (start : α) : AtLevel step start 0 [start] [start] := by
  constructor
  · intro node
    simp [IsDistance.start_iff]
  · intro node
    simp [IsDistance.start_iff]

variable [BEq α] [LawfulBEq α]

theorem mem_gathered (gathered : List α) : node ∈ frontier.foldl (gather step visited) gathered ↔
    node ∈ gathered ∨ node ∉ visited ∧ ∃ before ∈ frontier, node ∈ step before := by
  induction frontier generalizing gathered with
  | nil => simp
  | cons first rest ih =>
    rw [List.foldl_cons, ih, gather, List.mem_append, List.mem_filter]
    by_cases known : node ∈ gathered
    · simp [known]
    · by_cases seen : node ∈ visited
      · simp [seen]
      · simp [known, seen]

theorem mem_nextLevel : node ∈ nextLevel step visited frontier ↔
    node ∉ visited ∧ ∃ before ∈ frontier, node ∈ step before := by
  rw [nextLevel, mem_gathered]
  simp

theorem nodup_nextLevel (distinct : ∀ node, (step node).Nodup) : (nextLevel step visited frontier).Nodup := by
  refine List.foldlRecOn frontier _ List.nodup_nil ?_
  intro gathered once before _
  refine List.nodup_append'.mpr ⟨once, (distinct before).filter _, ?_⟩
  intro node known added
  rw [List.mem_filter] at added
  simp [known] at added

namespace AtLevel

theorem mem_next (reached : AtLevel step start level visited frontier) : node ∈ nextLevel step visited frontier ↔
    IsDistance (Listed step) start (level + 1) node := by
  rw [mem_nextLevel]
  constructor
  · intro joined
    obtain ⟨fresh, before, last, taken⟩ := joined
    refine ((reached.frontier before).mp last).next taken ?_
    intro near bound found
    exact fresh ((reached.visited node).mpr ⟨near, bound, found⟩)
  · intro found
    constructor
    · intro seen
      obtain ⟨near, bound, nearer⟩ := (reached.visited node).mp seen
      have same := nearer.unique found
      omega
    · obtain ⟨before, last, taken⟩ := found.before
      exact ⟨before, (reached.frontier before).mpr last, taken⟩

theorem next (reached : AtLevel step start level visited frontier) : AtLevel step start (level + 1)
    (visited ++ nextLevel step visited frontier) (nextLevel step visited frontier) := by
  constructor
  · intro node
    rw [List.mem_append, reached.visited, reached.mem_next]
    constructor
    · intro known
      rcases known with ⟨near, bound, found⟩ | found
      · exact ⟨near, by omega, found⟩
      · exact ⟨level + 1, Nat.le_refl _, found⟩
    · intro known
      obtain ⟨near, bound, found⟩ := known
      by_cases last : near = level + 1
      · subst last
        exact .inr found
      · exact .inl ⟨near, by omega, found⟩
  · intro node
    exact reached.mem_next

theorem mem_levels (reached : AtLevel step start level visited frontier) (depth : Nat) :
    node ∈ levels step depth visited frontier ↔
      ∃ distance, level < distance ∧ distance ≤ level + depth ∧
        IsDistance (Listed step) start distance node := by
  induction depth generalizing level visited frontier with
  | zero =>
    simp only [levels, List.not_mem_nil, false_iff]
    intro known
    obtain ⟨distance, beyond, within, _⟩ := known
    omega
  | succ depth ih =>
    rw [levels, List.mem_append, ih reached.next, reached.mem_next]
    constructor
    · intro known
      rcases known with found | ⟨distance, beyond, within, found⟩
      · exact ⟨level + 1, by omega, by omega, found⟩
      · exact ⟨distance, by omega, by omega, found⟩
    · intro known
      obtain ⟨distance, beyond, within, found⟩ := known
      by_cases first : distance = level + 1
      · subst first
        exact .inl found
      · exact .inr ⟨distance, by omega, by omega, found⟩

theorem nodup_levels (reached : AtLevel step start level visited frontier) (distinct : ∀ node, (step node).Nodup)
    (depth : Nat) : (levels step depth visited frontier).Nodup := by
  induction depth generalizing level visited frontier with
  | zero => exact List.nodup_nil
  | succ depth ih =>
    refine List.nodup_append'.mpr ⟨nodup_nextLevel distinct, ih reached.next, ?_⟩
    intro node first later
    obtain ⟨distance, beyond, _, found⟩ := (reached.next.mem_levels depth).mp later
    have same := found.unique (reached.mem_next.mp first)
    omega

/-- Nearer nodes come first. -/
theorem ordered_levels (reached : AtLevel step start level visited frontier) (depth : Nat) :
    (levels step depth visited frontier).Pairwise fun first second => ∃ near far, near ≤ far ∧
      IsDistance (Listed step) start near first ∧ IsDistance (Listed step) start far second := by
  induction depth generalizing level visited frontier with
  | zero => exact List.Pairwise.nil
  | succ depth ih =>
    refine List.pairwise_append.mpr ⟨?_, ih reached.next, ?_⟩
    · refine List.pairwise_of_forall_mem_list ?_
      intro first one second two
      exact ⟨level + 1, level + 1, Nat.le_refl _, reached.mem_next.mp one, reached.mem_next.mp two⟩
    · intro first one second later
      obtain ⟨distance, beyond, _, found⟩ := (reached.next.mem_levels depth).mp later
      exact ⟨level + 1, distance, by omega, reached.mem_next.mp one, found⟩

end AtLevel

end EntityGraph.Search
