import EntityGraph.Proofs.VectorLength
import EntityGraph.Proofs.WordRuns
import Mathlib.Algebra.BigOperators.Group.Finset.Piecewise

/-!
The embedding of a text is a bag of words. Its buckets are filled by adding one for each word; that counts the words of every
bucket, and so neither their order nor what stands between them matters.
-/
namespace EntityGraph.Hashing

variable {size : Nat} {tokens others : List String}

/-- One word more: one is added to its bucket. -/
def increment (size : Nat) (v : Vector32) (word : String) : Vector32 :=
  v.modify (bucket size word) fun count => count.add (Single.ofNat 1)

/-- The buckets after all words, from empty ones. -/
def tally (size : Nat) (tokens : List String) : Vector32 :=
  tokens.foldl (increment size) (List.replicate size Single.zero)

def occurrences (size : Nat) (tokens : List String) (i : Nat) : Nat := tokens.countP fun word => bucket size word = i

theorem counts_eq (size : Nat) (tokens : List String) :
    counts size tokens = (List.range size).map (occurrences size tokens) := by
  refine List.map_congr_left fun i _ => ?_
  rw [List.count, List.countP_map]
  exact List.countP_congr fun word _ => by simp

theorem length_counts (size : Nat) (tokens : List String) : (counts size tokens).length = size := by
  rw [counts_eq, List.length_map, List.length_range]

theorem getElem?_counts {i : Nat} (inside : i < size) (tokens : List String) :
    (counts size tokens)[i]? = some (occurrences size tokens i) := by
  rw [counts_eq, List.getElem?_map, List.getElem?_range inside, Option.map_some]

theorem bucket_lt (positive : 0 < size) (word : String) : bucket size word < size := Nat.mod_lt _ positive

theorem countNumber_add_one (n : Nat) : (countNumber n).add (Single.ofNat 1) = countNumber (n + 1) := by
  rcases Nat.lt_or_ge n (2 ^ 24) with small | large
  · rw [countNumber, countNumber, Nat.min_eq_left (by omega), Nat.min_eq_left (by omega)]
    exact Single.ofNat_add_one small
  · -- one more is half of the last place there, and the tie goes back to the even number
    have full : (Single.ofNat 0x1000000).add (Single.ofNat 1) = Single.ofNat 0x1000000 := by decide +kernel
    rw [countNumber, countNumber, Nat.min_eq_right (by omega), Nat.min_eq_right (by omega), full]

/-- Adding one to the bucket of a word counts the word. -/
theorem increment_counts (size : Nat) (tokens : List String) (word : String) :
    increment size ((counts size tokens).map countNumber) word = (counts size (tokens ++ [word])).map countNumber := by
  apply List.ext_getElem?
  intro i
  rw [increment, List.getElem?_modify, List.getElem?_map, List.getElem?_map]
  rcases Nat.lt_or_ge i size with inside | outside
  · have appended : occurrences size (tokens ++ [word]) i =
        occurrences size tokens i + if bucket size word = i then 1 else 0 := by
      simp [occurrences, List.countP_append, List.countP_singleton]
    rw [getElem?_counts inside, getElem?_counts inside, appended]
    split
    · exact congrArg some (countNumber_add_one _)
    · rfl
  · have absent (tokens : List String) : (counts size tokens)[i]? = none :=
      List.getElem?_eq_none ((length_counts size tokens).trans_le outside)
    rw [absent, absent]
    rfl

theorem tally_eq (size : Nat) (tokens : List String) : tally size tokens = (counts size tokens).map countNumber := by
  induction tokens using List.reverseRecOn with
  | nil =>
    have empty : (List.range size).map (occurrences size []) = List.replicate size 0 :=
      List.map_eq_replicate_iff.mpr (fun i _ => rfl) |>.trans (by rw [List.length_range])
    rw [counts_eq, empty, List.map_replicate]
    rfl
  | append_singleton tokens word filled =>
    rw [← increment_counts, ← filled, tally, List.foldl_append]
    rfl

theorem length_tally (size : Nat) (tokens : List String) : (tally size tokens).length = size := by
  rw [tally_eq, List.length_map, length_counts]

/-- Below `2 ^ 24` words a bucket holds the number of its words exactly. -/
theorem tally_holds {i : Nat} (inside : i < size) (few : tokens.length < 2 ^ 24) :
    ∃ count, (tally size tokens)[i]? = some count ∧ count.Holds (occurrences size tokens i) := by
  have bounded : occurrences size tokens i ≤ tokens.length := List.countP_le_length
  refine ⟨countNumber (occurrences size tokens i), ?_, ?_⟩
  · rw [tally_eq, List.getElem?_map, getElem?_counts inside, Option.map_some]
  · rw [countNumber, Nat.min_eq_left (by omega)]
    exact Single.holds_ofNat (by omega)

theorem sum_counts (positive : 0 < size) (tokens : List String) : (counts size tokens).sum = tokens.length := by
  have total : ∑ i ∈ Finset.range size, occurrences size tokens i = tokens.length := by
    induction tokens with
    | nil => simp [occurrences]
    | cons word tokens rest =>
      have inside := bucket_lt positive word
      simp only [occurrences, List.countP_cons, decide_eq_true_eq, List.length_cons] at rest ⊢
      rw [Finset.sum_add_distrib, rest, Finset.sum_ite_eq, if_pos (Finset.mem_range.mpr inside)]
  rw [counts_eq, ← total]
  rfl

theorem countNumber_between {low n : Nat} (bit : low ≤ 1) (reached : low ≤ n) : (countNumber n).Between low (2 ^ 24) := by
  refine ⟨_, Single.holds_ofNat (Nat.min_le_right n (2 ^ 24)), ?_, ?_⟩
  · exact_mod_cast Nat.le_min.mpr ⟨reached, bit.trans (by decide)⟩
  · exact_mod_cast Nat.min_le_right n (2 ^ 24)

/-- The buckets of at least one word are not divided by zero. -/
theorem norm_tally (positive : 0 < size) (full : tokens ≠ []) :
    (Vector32.norm (tally size tokens)).Between 1 (2 ^ 51) := by
  obtain ⟨word, member⟩ := List.exists_mem_of_ne_nil tokens full
  have inside := bucket_lt positive word
  have present : 1 ≤ occurrences size tokens (bucket size word) := List.countP_pos_iff.mpr ⟨word, member, by simp⟩
  rw [tally_eq]
  refine Vector32.norm_between ?_ ⟨countNumber (occurrences size tokens (bucket size word)), ?_, ?_⟩
  · intro x member
    obtain ⟨n, -, rfl⟩ := List.mem_map.mp member
    exact countNumber_between (by decide) (Nat.zero_le n)
  · exact List.mem_map_of_mem (List.mem_of_getElem? (getElem?_counts inside tokens))
  · exact countNumber_between le_rfl present

/-- Runs in lower case. -/
def lowered (found : List (List Char)) : List String := found.map fun run => String.ofList (lowerChars run)

theorem counts_perm (same : tokens.Perm others) : counts size tokens = counts size others := by
  rw [counts_eq, counts_eq]
  exact List.map_congr_left fun i _ => same.countP_eq _

theorem tally_perm (same : tokens.Perm others) : tally size tokens = tally size others := by
  rw [tally_eq, tally_eq, counts_perm same]

/-- The buckets of all words are divided by their length; without a word there is no vector. -/
theorem embed_eq {text : String} {found : List (List Char)} (maximal : MaximalRuns text.toList found) :
    embed size text = if found = [] then .error .emptyInput
      else .ok ((tally size (lowered found)).map fun count => count.div (tally size (lowered found)).norm) := by
  have listed : words text = lowered found := by rw [maximal.eq_runs, lowered, words]
  rw [embed, listed, tally_eq]
  split
  · rename_i none
    rw [if_pos (List.map_eq_nil_iff.mp none)]
  · rename_i some
    rw [if_neg fun none => some (congrArg lowered none)]
    rfl

/-- An embedding is a bag of words on a text with these maximal runs. -/
structure BagOfWords (embedding : EmbeddingProvider) (text : String) (found : List (List Char)) : Prop where
  /-- Without a run there is no vector, and otherwise all buckets are divided by their length. -/
  result : embedding.embed text = if found = [] then .error .emptyInput
    else .ok ((tally embedding.dimensions (lowered found)).map
      fun count => count.div (tally embedding.dimensions (lowered found)).norm)
  succeeds : (∃ v, embedding.embed text = .ok v) ↔ ∃ c ∈ text.toList, isAlphanumeric c = true
  length : ∀ v, embedding.embed text = .ok v → v.length = embedding.dimensions
  /-- Whatever has been counted before, a word is written to a bucket that there is. -/
  inside : ∀ before word, word ∈ lowered found →
    bucket embedding.dimensions word < (tally embedding.dimensions before).length
  counted : found.length < 2 ^ 24 → ∀ i < embedding.dimensions,
    ∃ count, (tally embedding.dimensions (lowered found))[i]? = some count ∧
      count.Holds (occurrences embedding.dimensions (lowered found) i)
  total : ((List.range embedding.dimensions).map (occurrences embedding.dimensions (lowered found))).sum = found.length
  divisor : found ≠ [] → (tally embedding.dimensions (lowered found)).norm.isFinite = true ∧
    (tally embedding.dimensions (lowered found)).norm.compare? Single.zero = some .gt
  /-- Another text with the same words, in any order and with anything between them, has the same vector. -/
  reordered : ∀ other others, MaximalRuns other.toList others → (lowered others).Perm (lowered found) →
    embedding.embed other = embedding.embed text

theorem bagOfWords_embed (positive : 0 < size) {text : String} {found : List (List Char)}
    (maximal : MaximalRuns text.toList found) : BagOfWords ⟨size, embed size⟩ text found where
  result := embed_eq maximal
  succeeds := by
    change (∃ v, embed size text = .ok v) ↔ _
    rw [← maximal.ne_nil_iff, embed_eq maximal]
    split
    · rename_i none
      exact iff_of_false (by simp) (by simp [none])
    · rename_i some
      exact iff_of_true ⟨_, rfl⟩ some
  length := by
    intro v embedded
    simp only [embed_eq maximal] at embedded
    split at embedded
    · cases embedded
    · cases embedded
      rw [List.length_map, length_tally]
  inside before word _ := (bucket_lt positive word).trans_eq (length_tally size before).symm
  counted few i inside := tally_holds inside (by simpa [lowered] using few)
  total := by
    rw [← counts_eq, sum_counts positive, lowered, List.length_map]
  divisor full := by
    obtain ⟨value, shown, least, -⟩ := norm_tally positive (mt List.map_eq_nil_iff.mp full)
    exact ⟨shown.isFinite, Single.compare?_zero shown (zero_lt_one.trans_le (by exact_mod_cast least))⟩
  reordered := by
    intro other others parted same
    have lengths : others.length = found.length := by simpa [lowered] using same.length_eq
    have empty : others = [] ↔ found = [] := by rw [← List.length_eq_zero_iff, lengths, List.length_eq_zero_iff]
    change embed size other = embed size text
    rw [embed_eq parted, embed_eq maximal, tally_perm same]
    simp only [empty]

/-- The hashing embedder is a bag of words, whatever number of buckets it is asked for. -/
theorem provider_bagOfWords (dimensions : Nat) (text : String) :
    (provider dimensions).dimensions = max dimensions 1 ∧
      ∃ found, (∀ runs, MaximalRuns text.toList runs ↔ runs = found) ∧ BagOfWords (provider dimensions) text found := by
  refine ⟨rfl, runs text.toList, fun runs => maximalRuns_iff, ?_⟩
  exact bagOfWords_embed (by omega) (maximalRuns_iff.mpr rfl)

/-- Two texts with the same three words. -/
theorem provider_bagOfWords_shuffled :
    (∃ v, (provider 4).embed "A_is [a]" = .ok v) ∧
      (provider 4).embed "Is: a, A" = (provider 4).embed "A_is [a]" := by
  obtain ⟨-, found, only, bag⟩ := provider_bagOfWords 4 "A_is [a]"
  obtain rfl := (only _).mp (maximalRuns_iff.mpr rfl)
  constructor
  · exact bag.succeeds.mpr ⟨'A', by decide +kernel, by decide +kernel⟩
  · exact bag.reordered _ _ (maximalRuns_iff.mpr rfl) (by decide +kernel)

end EntityGraph.Hashing
