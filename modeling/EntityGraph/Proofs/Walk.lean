import Mathlib.Data.List.Chain
import Mathlib.Data.List.Nodup

/-!
Walks of so many steps from a start, and the distance of a node: the fewest steps of a walk that leads there.
-/
namespace EntityGraph

/-- A number of steps leads from a start to a node. -/
inductive Walk (step : α → α → Prop) (start : α) : Nat → α → Prop where
  | here : Walk step start 0 start
  | next (walk : Walk step start count node) (taken : step node neighbor) : Walk step start (count + 1) neighbor

/-- A walk of so many steps leads to a node, and no shorter one does. -/
structure IsDistance (step : α → α → Prop) (start : α) (distance : Nat) (node : α) : Prop where
  walk : Walk step start distance node
  least : ∀ shorter, shorter < distance → ¬ Walk step start shorter node

/-- The steps that lists of neighbours allow. -/
abbrev Listed (step : α → List α) (node neighbor : α) : Prop := neighbor ∈ step node

namespace Walk

variable {step : α → α → Prop} {start node : α} {count : Nat}

theorem zero_iff : Walk step start 0 node ↔ node = start := by
  constructor
  · intro walk
    cases walk
    rfl
  · rintro rfl
    exact .here

theorem succ_iff : Walk step start (count + 1) node ↔ ∃ before, Walk step start count before ∧ step before node := by
  constructor
  · intro walk
    cases walk with
    | next walk taken => exact ⟨_, walk, taken⟩
  · intro longer
    obtain ⟨before, walk, taken⟩ := longer
    exact .next walk taken

/-- Wherever a walk leads there is a distance, and it is at most the steps of the walk. -/
theorem distance (walk : Walk step start count node) : ∃ distance ≤ count, IsDistance step start distance node := by
  induction count using Nat.strongRecOn generalizing node with
  | ind count ih =>
    by_cases shortcut : ∃ shorter < count, Walk step start shorter node
    · obtain ⟨shorter, fewer, found⟩ := shortcut
      obtain ⟨distance, bound, shortest⟩ := ih shorter fewer found
      exact ⟨distance, by omega, shortest⟩
    · exact ⟨count, Nat.le_refl _, walk, fun shorter fewer found => shortcut ⟨shorter, fewer, found⟩⟩

/-- A renaming under which every step stays a step or leads nowhere makes no walk longer. -/
theorem image {other : β → β → Prop} {rename : α → β} (moves : ∀ node neighbor, step node neighbor →
    rename node ≠ rename neighbor → other (rename node) (rename neighbor)) (walk : Walk step start count node) :
    ∃ fewer ≤ count, Walk other (rename start) fewer (rename node) := by
  induction walk with
  | here => exact ⟨0, Nat.le_refl 0, .here⟩
  | @next count node neighbor _ taken ih =>
    obtain ⟨fewer, bound, shorter⟩ := ih
    by_cases same : rename node = rename neighbor
    · exact ⟨fewer, by omega, same ▸ shorter⟩
    · exact ⟨fewer + 1, by omega, shorter.next (moves node neighbor taken same)⟩

theorem after (walk : Walk step node count finish) (taken : step start node) : Walk step start (count + 1) finish := by
  induction walk with
  | here => exact .next .here taken
  | next _ last ih => exact .next ih last

theorem back {other : α → α → Prop} (returns : ∀ node neighbor, step node neighbor → other neighbor node)
    (walk : Walk step start count node) : Walk other node count start := by
  induction walk with
  | here => exact .here
  | next _ last ih => exact ih.after (returns _ _ last)

end Walk

namespace IsDistance

variable {step : α → α → Prop} {start node neighbor : α} {distance : Nat}

theorem start_iff : IsDistance step start 0 node ↔ node = start := by
  constructor
  · intro found
    exact Walk.zero_iff.mp found.walk
  · rintro rfl
    exact ⟨.here, by simp⟩

theorem ne_start (found : IsDistance step start (distance + 1) node) : node ≠ start := by
  rintro rfl
  exact found.least 0 (Nat.succ_pos distance) .here

theorem exists_succ (found : IsDistance step start distance node) (elsewhere : node ≠ start) :
    ∃ before, distance = before + 1 := by
  cases distance with
  | zero => exact absurd (start_iff.mp found) elsewhere
  | succ before => exact ⟨before, rfl⟩

theorem le (found : IsDistance step start distance node) (walk : Walk step start count node) : distance ≤ count := by
  by_cases shorter : count < distance
  · exact absurd walk (found.least count shorter)
  · omega

theorem unique (first : IsDistance step start distance node) (second : IsDistance step start other node) :
    distance = other :=
  Nat.le_antisymm (first.le second.walk) (second.le first.walk)

/-- A step leads at most one level further. -/
theorem le_succ (found : IsDistance step start distance node) (taken : step node neighbor)
    (reached : IsDistance step start other neighbor) : other ≤ distance + 1 :=
  reached.le (found.walk.next taken)

theorem before (found : IsDistance step start (distance + 1) node) :
    ∃ before, IsDistance step start distance before ∧ step before node := by
  obtain ⟨before, walk, taken⟩ := Walk.succ_iff.mp found.walk
  refine ⟨before, ⟨walk, ?_⟩, taken⟩
  intro shorter fewer shortcut
  exact found.least (shorter + 1) (by omega) (shortcut.next taken)

theorem within_iff : (∃ distance, 0 < distance ∧ distance ≤ bound ∧ IsDistance step start distance node) ↔
    node ≠ start ∧ ∃ count ≤ bound, Walk step start count node := by
  constructor
  · intro reached
    obtain ⟨distance, positive, near, found⟩ := reached
    refine ⟨?_, distance, near, found.walk⟩
    intro same
    have zero := found.unique (start_iff.mpr same)
    omega
  · intro reached
    obtain ⟨elsewhere, count, near, walk⟩ := reached
    obtain ⟨distance, least, found⟩ := walk.distance
    refine ⟨distance, Nat.pos_of_ne_zero ?_, by omega, found⟩
    intro zero
    subst zero
    exact elsewhere (start_iff.mp found)

theorem lt_of_empty (found : IsDistance step start distance node)
    (empty : ∀ node, ¬ IsDistance step start level node) : distance < level := by
  induction distance generalizing node with
  | zero =>
    by_cases first : level = 0
    · subst first
      exact absurd found (empty node)
    · omega
  | succ distance ih =>
    obtain ⟨before, nearer, _⟩ := found.before
    have within := ih nearer
    by_cases last : level = distance + 1
    · subst last
      exact absurd found (empty node)
    · omega

/-- A node that one step from a level reaches, and none of the levels so far hold, is on the next one. -/
theorem next (found : IsDistance step start distance node) (taken : step node neighbor)
    (fresh : ∀ near ≤ distance, ¬ IsDistance step start near neighbor) :
    IsDistance step start (distance + 1) neighbor := by
  refine ⟨found.walk.next taken, ?_⟩
  intro shorter fewer walk
  obtain ⟨near, bound, reached⟩ := walk.distance
  exact fresh near (by omega) reached

/-- On the way to a node there is one at every smaller distance, so that many are distinct. -/
theorem trail (found : IsDistance step start distance node) : ∃ nodes : List α, nodes.length = distance + 1 ∧
    nodes.Nodup ∧ ∀ node ∈ nodes, ∃ near ≤ distance, IsDistance step start near node := by
  induction distance generalizing node with
  | zero => exact ⟨[node], rfl, List.nodup_singleton _, by simpa using found⟩
  | succ distance ih =>
    obtain ⟨before, nearer, _⟩ := found.before
    obtain ⟨nodes, length, distinct, near⟩ := ih nearer
    refine ⟨node :: nodes, by rw [List.length_cons, length], List.nodup_cons.mpr ⟨?_, distinct⟩, ?_⟩
    · intro listed
      obtain ⟨other, bound, here⟩ := near node listed
      have same := here.unique found
      omega
    · intro other listed
      rcases List.mem_cons.mp listed with rfl | earlier
      · exact ⟨distance + 1, Nat.le_refl _, found⟩
      · obtain ⟨near, bound, here⟩ := near other earlier
        exact ⟨near, by omega, here⟩

/-- Where all walks stay within a list of nodes, no node is further away than there are others. -/
theorem lt_length (found : IsDistance step start distance node) {nodes : List α}
    (inside : ∀ node count, Walk step start count node → node ∈ nodes) : distance < nodes.length := by
  obtain ⟨trail, length, distinct, reached⟩ := found.trail
  have fits : trail ⊆ nodes := by
    intro node member
    obtain ⟨near, _, here⟩ := reached node member
    exact inside node near here.walk
  have bound := distinct.length_le_of_subset fits
  omega

end IsDistance

/-- The nodes along a walk of so many steps, both ends included. -/
structure IsPath (step : α → α → Prop) (start finish : α) (count : Nat) (path : List α) : Prop where
  length : path.length = count + 1
  head : path.head? = some start
  last : path.getLast? = some finish
  chain : path.IsChain step

namespace IsPath

variable {step : α → α → Prop} {start finish node neighbor : α} {count : Nat} {path : List α}

theorem zero_iff : IsPath step start finish 0 path ↔ finish = start ∧ path = [start] := by
  constructor
  · intro whole
    obtain ⟨length, head, last, _⟩ := whole
    obtain ⟨only, rfl⟩ := List.length_eq_one_iff.mp length
    cases head
    cases last
    exact ⟨rfl, rfl⟩
  · rintro ⟨rfl, rfl⟩
    exact ⟨rfl, rfl, rfl, List.isChain_singleton _⟩

theorem next (front : IsPath step start node count path) (taken : step node neighbor) :
    IsPath step start neighbor (count + 1) (path ++ [neighbor]) := by
  refine ⟨by simp [front.length], by simp [front.head], by simp, ?_⟩
  refine List.isChain_append.mpr ⟨front.chain, List.isChain_singleton _, ?_⟩
  intro last isLast first isFirst
  rw [front.last] at isLast
  cases isLast
  cases isFirst
  exact taken

theorem exists_of_walk (walk : Walk step start count node) : ∃ path, IsPath step start node count path := by
  induction walk with
  | here => exact ⟨[start], zero_iff.mpr ⟨rfl, rfl⟩⟩
  | next _ taken ih =>
    obtain ⟨path, front⟩ := ih
    exact ⟨_, front.next taken⟩

theorem front (whole : IsPath step start finish (count + 1) path) : ∃ front node, path = front ++ [finish] ∧
    IsPath step start node count front ∧ step node finish := by
  obtain ⟨length, head, last, chain⟩ := whole
  obtain ⟨front, rfl⟩ := List.getLast?_eq_some_iff.mp last
  have size : front.length = count + 1 := by simpa using length
  have nonempty : front ≠ [] := by
    intro none
    simp [none] at size
  obtain ⟨frontChain, _, joined⟩ := List.isChain_append.mp chain
  have frontLast := List.getLast?_eq_some_getLast nonempty
  refine ⟨front, front.getLast nonempty, rfl, ⟨size, ?_, frontLast, frontChain⟩, ?_⟩
  · rwa [List.head?_append_of_ne_nil _ nonempty] at head
  · exact joined _ frontLast _ rfl

theorem forall_mem {holds : α → Prop} (starts : holds start)
    (leads : ∀ node neighbor, step node neighbor → holds neighbor) (whole : IsPath step start finish count path) :
    ∀ node ∈ path, holds node := by
  induction count generalizing finish path with
  | zero =>
    obtain ⟨-, rfl⟩ := zero_iff.mp whole
    exact List.forall_mem_singleton.mpr starts
  | succ count ih =>
    obtain ⟨front, node, rfl, shorter, taken⟩ := whole.front
    exact List.forall_mem_append.mpr ⟨ih shorter, List.forall_mem_singleton.mpr (leads node finish taken)⟩

theorem walk (path : IsPath step start finish count nodes) : Walk step start count finish := by
  induction count generalizing finish nodes with
  | zero => exact Walk.zero_iff.mpr (zero_iff.mp path).1
  | succ count ih =>
    obtain ⟨front, node, _, shorter, taken⟩ := path.front
    exact (ih shorter).next taken

end IsPath

end EntityGraph
