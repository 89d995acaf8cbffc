import EntityGraph.Embedding.Basic
import EntityGraph.Text.Case.Lower
import EntityGraph.Text.Letter

/-!
An embedding that counts words: every run of letters and numbers, in lower case, is counted in the bucket that its
hash selects, and the counts are scaled to a vector of length one.
-/
namespace EntityGraph.Hashing

/-- The 64-bit hash of some bytes: each is mixed in by an exclusive or and a multiplication. -/
def fnv1a (bytes : List UInt8) : UInt64 :=
  bytes.foldl (fun hash byte => (hash ^^^ byte.toUInt64) * 0x100000001b3) 0xcbf29ce484222325

/-- The runs of letters and numbers of a text. -/
def runs : List Char → List (List Char)
  | [] => []
  | c :: rest =>
    if isAlphanumeric c then
      match rest, runs rest with
      | next :: _, run :: others => if isAlphanumeric next then (c :: run) :: others else [c] :: run :: others
      | _, others => [c] :: others
    else runs rest

/-- The words of a text: its runs in lower case. -/
def words (text : String) : List String := (runs text.toList).map fun run => String.ofList (lowerChars run)

def bucket (dimensions : Nat) (word : String) : Nat := (fnv1a word.toUTF8.toList).toNat % dimensions

/-- How many words fall into each bucket. -/
def counts (dimensions : Nat) (words : List String) : List Nat :=
  let buckets := words.map (bucket dimensions)
  (List.range dimensions).map fun i => buckets.count i

/-- A count as a single precision number. Counting by ones stops where one is less than the last place. -/
def countNumber (n : Nat) : Single := Single.ofNat (min n 0x100_0000)

def scaled (v : Vector32) : Vector32 :=
  let length := (Vector32.sum (v.map fun x => x.mul x)).sqrt
  v.map (·.div length)

/-- The vector of a text with a number of buckets; a text without a word has none. -/
def embed (dimensions : Nat) (text : String) : Except EmbeddingError Vector32 :=
  match words text with
  | [] => .error .emptyInput
  | words => .ok (scaled ((counts dimensions words).map countNumber))

/-- The number of buckets when none is asked for. -/
def defaultDimensions : Nat := 512

/-- The provider with a number of buckets, at least one. -/
def provider (dimensions : Nat) : EmbeddingProvider := ⟨max dimensions 1, embed (max dimensions 1)⟩

end EntityGraph.Hashing
