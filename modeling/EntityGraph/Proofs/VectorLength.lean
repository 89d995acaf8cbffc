import EntityGraph.Embedding.Basic
import EntityGraph.Proofs.RoundingOrder
import Mathlib.Data.Nat.Sqrt

/-!
Single precision numbers with the positive sign, and the length of a vector of counts. However many squares of counts are
added, their sum never leaves the finite numbers: near `2 ^ 100` one more square is less than half of the last place. So the
length is a finite number, and at least one as soon as one count is.
-/
namespace EntityGraph

namespace BinaryFormat

/-- Each binary place of the root is set if the square allows it, so the root is short of the next one only by the places
that are not decided yet. -/
theorem squareRoot_go (n place root : Nat) (below : root * root ≤ n)
    (above : n < (root + 2 ^ place) * (root + 2 ^ place)) : squareRoot.go n place root = Nat.sqrt n := by
  induction place generalizing root with
  | zero => exact Nat.eq_sqrt.mpr ⟨below, above⟩
  | succ place rest =>
    rw [squareRoot.go, Nat.one_shiftLeft]
    have halves : root + 2 ^ (place + 1) = root + 2 ^ place + 2 ^ place := by
      rw [Nat.pow_succ]
      omega
    rw [halves] at above
    split
    · rename_i fits
      exact rest _ fits above
    · rename_i exceeds
      exact rest _ below (Nat.not_le.mp exceeds)

theorem squareRoot_eq (n : Nat) : squareRoot n = Nat.sqrt n := by
  refine squareRoot_go n _ 0 (Nat.zero_le n) ?_
  rw [Nat.zero_add, ← Nat.pow_add]
  calc n < 2 ^ (n.log2 + 1) := Nat.lt_log2_self
    _ ≤ 2 ^ (n.log2 / 2 + 1 + (n.log2 / 2 + 1)) := Nat.pow_le_pow_right (by decide) (by omega)

/-- A number from one to `4 ^ k` has a root from one to `2 ^ k`, also after both are cut at a binary place. -/
theorem sqrt_bounds {n k : Nat} {place : Int} (least : (1 : ℚ) ≤ n * (2 ^ place * 2 ^ place))
    (most : (n * (2 ^ place * 2 ^ place) : ℚ) ≤ 4 ^ k) :
    1 ≤ (n.sqrt : ℚ) * 2 ^ place ∧ (n.sqrt : ℚ) * 2 ^ place ≤ 2 ^ k := by
  have unit : (0 : ℚ) < 2 ^ place := by positivity
  constructor
  · rcases Int.le_total 0 place with whole | broken
    · have positive : n ≠ 0 := by
        rintro rfl
        norm_num at least
      have root : (1 : ℚ) ≤ n.sqrt := by exact_mod_cast Nat.sqrt_pos.mpr (Nat.pos_of_ne_zero positive)
      exact one_le_mul_of_one_le_of_one_le root (one_le_zpow₀ one_le_two whole)
    · obtain ⟨shift, rfl⟩ := Int.exists_eq_neg_ofNat broken
      rw [zpow_neg, zpow_natCast] at least unit ⊢
      have square : 2 ^ shift * 2 ^ shift ≤ n := by
        rw [← mul_inv, ← div_eq_mul_inv, le_div_iff₀ (by positivity), one_mul] at least
        exact_mod_cast least
      rw [← div_eq_mul_inv, le_div_iff₀ (by positivity), one_mul]
      exact_mod_cast Nat.le_sqrt.mpr square
  · refine nonneg_le_nonneg_of_sq_le_sq (by positivity) ?_
    have square : (n.sqrt * n.sqrt : ℚ) ≤ n := by exact_mod_cast Nat.sqrt_le n
    calc (n.sqrt * 2 ^ place * (n.sqrt * 2 ^ place) : ℚ) = n.sqrt * n.sqrt * (2 ^ place * 2 ^ place) := by ring
      _ ≤ n * (2 ^ place * 2 ^ place) := by gcongr
      _ ≤ 4 ^ k := most
      _ = 2 ^ k * 2 ^ k := by rw [← mul_pow]; norm_num

/-- The root of a number from one to `4 ^ k` is rounded from a ratio between one and `2 ^ (k + 1)`. -/
theorem sqrt_ratio (format : BinaryFormat) {m k : Nat} {e : Int} (least : (1 : ℚ) ≤ m * 2 ^ e)
    (most : (m * 2 ^ e : ℚ) ≤ 4 ^ k) : ∃ n d, 0 < d ∧ format.sqrt (.finite false m e) = format.round false n d ∧
      (1 : ℚ) ≤ n / d ∧ (n / d : ℚ) ≤ 2 ^ (k + 1) := by
  have present : m ≠ 0 := by
    rintro rfl
    norm_num at least
  obtain ⟨spare, spareEq⟩ : ∃ spare, format.fractionBits + 3 = spare := ⟨_, rfl⟩
  obtain ⟨place, placeEq⟩ : ∃ place, (e - e % 2) / 2 - (spare : Int) = place := ⟨_, rfl⟩
  obtain ⟨n, radicand⟩ : ∃ n, m <<< (2 * spare + (e % 2).toNat) = n := ⟨_, rfl⟩
  obtain ⟨marked, mark⟩ : ∃ marked, (if n.sqrt * n.sqrt = n then 2 * n.sqrt else 2 * n.sqrt + 1) = marked := ⟨_, rfl⟩
  have rounded : format.sqrt (.finite false m e) =
      format.round false (binaryRatio marked (place - 1)).1 (binaryRatio marked (place - 1)).2 := by
    simp only [sqrt, present, if_false, Bool.false_eq_true, spareEq, radicand, squareRoot_eq, mark, placeEq]
  have value : (n * (2 ^ place * 2 ^ place) : ℚ) = m * 2 ^ e := by
    have exponents : e = (2 * spare + (e % 2).toNat : Nat) + (place + place) := by omega
    have power : (2 : ℚ) ^ e = 2 ^ (2 * spare + (e % 2).toNat) * (2 ^ place * 2 ^ place) := by
      conv_lhs => rw [exponents, zpow_add₀ two_ne_zero, zpow_add₀ two_ne_zero, zpow_natCast]
    rw [power, ← radicand, Nat.shiftLeft_eq, Nat.cast_mul, Nat.cast_pow, Nat.cast_ofNat, mul_assoc]
  rw [← value] at least most
  obtain ⟨low, high⟩ := sqrt_bounds least most
  have root : 1 ≤ n.sqrt := by
    refine Nat.sqrt_pos.mpr (Nat.pos_of_ne_zero ?_)
    rintro rfl
    norm_num at least
  have bounds : 2 * n.sqrt ≤ marked ∧ marked ≤ 4 * n.sqrt := by
    rw [← mark]
    split <;> omega
  have lower : (2 * n.sqrt : ℚ) ≤ marked := by exact_mod_cast bounds.1
  have upper : (marked : ℚ) ≤ 4 * n.sqrt := by exact_mod_cast bounds.2
  refine ⟨_, _, binaryRatio_pos marked (place - 1), rounded, ?_, ?_⟩
  all_goals rw [binaryRatio_value, zpow_sub_one₀ two_ne_zero]
  · calc (1 : ℚ) ≤ n.sqrt * 2 ^ place := low
      _ = 2 * n.sqrt * (2 ^ place * 2⁻¹) := by ring
      _ ≤ marked * (2 ^ place * 2⁻¹) := by gcongr
  · calc (marked * (2 ^ place * 2⁻¹) : ℚ) ≤ 4 * n.sqrt * (2 ^ place * 2⁻¹) := by gcongr
      _ = n.sqrt * 2 ^ place * 2 := by ring
      _ ≤ 2 ^ k * 2 := by gcongr
      _ = 2 ^ (k + 1) := (pow_succ 2 k).symm

end BinaryFormat

namespace Parts

/-- The sum of two numbers with the positive sign, and also of a negative zero and such a number, has that sign. -/
theorem add_finite (s : Bool) (m n : Nat) (e d : Int) (positive : s = true → m = 0) :
    ∃ k base, (finite s m e).add (finite false n d) = finite false k base ∧
      (k * 2 ^ base : ℚ) = m * 2 ^ e + n * 2 ^ d := by
  obtain ⟨base, baseEq⟩ : ∃ base, min e d = base := ⟨_, rfl⟩
  obtain ⟨total, totalEq⟩ : ∃ total, m <<< (e - base).toNat + n <<< (d - base).toNat = total := ⟨_, rfl⟩
  have signed : (if s then -((m <<< (e - base).toNat : Nat) : Int) else (m <<< (e - base).toNat : Nat)) +
      (n <<< (d - base).toNat : Nat) = total := by
    cases s with
    | false => simp [← totalEq]
    | true => simp [← totalEq, positive rfl]
  have shown : (finite s m e).add (finite false n d) = finite false total base := by
    change (
      let sum : Int := (if s then -((m <<< (e - min e d).toNat : Nat) : Int) else (m <<< (e - min e d).toNat : Nat)) +
        (n <<< (d - min e d).toNat : Nat)
      if sum = 0 then finite (s && false) 0 (min e d) else finite (decide (sum < 0)) sum.natAbs (min e d)) = _
    simp only [baseEq, signed, Bool.and_false]
    split
    · rename_i nothing
      rw [Int.natCast_eq_zero.mp nothing]
    · simp
  have parted {exponent : Int} (above : base ≤ exponent) :
      (2 : ℚ) ^ exponent = 2 ^ (exponent - base).toNat * 2 ^ base := by
    rw [← zpow_natCast, ← zpow_add₀ two_ne_zero]
    congr 1
    omega
  refine ⟨_, _, shown, ?_⟩
  rw [parted (show base ≤ e by omega), parted (show base ≤ d by omega), ← totalEq, Nat.shiftLeft_eq, Nat.shiftLeft_eq]
  push_cast
  ring

end Parts

namespace Single

open BinaryFormat

variable {x y : Single} {p q : ℚ} {n low high : Nat}

/-- The number has the positive sign, and this is its value. -/
def Holds (x : Single) (value : ℚ) : Prop := single.Shows x.word.toNat value

def nearest (n d : Nat) : Single := ⟨UInt32.ofNat (single.round false n d)⟩

theorem holds_nearest (n d : Nat) : (nearest n d).Holds q ↔ single.Shows (single.round false n d) q := by
  have bounded := round_le_infinityWord single n d
  have infinity : single.infinityWord < 2 ^ 32 := by decide
  rw [Holds, nearest, UInt32.toNat_ofNat_of_lt' (bounded.trans_lt infinity)]

theorem ofParts_whole {m : Nat} {e : Int} (value : (m * 2 ^ e : ℚ) = n) : ofParts (.finite false m e) = ofNat n := by
  have same : ((binaryRatio m e).1 / (binaryRatio m e).2 : ℚ) = n / (1 : Nat) := by
    rw [binaryRatio_value, value, Nat.cast_one, div_one]
  have words := round_congr single (binaryRatio_pos m e) Nat.one_pos same
  exact congrArg (fun word => Single.mk (UInt32.ofNat word)) words

/-- The number has the positive sign and lies between two whole numbers. -/
def Between (x : Single) (low high : Nat) : Prop := ∃ value, x.Holds value ∧ low ≤ value ∧ value ≤ high

/-- A ratio between two whole numbers is rounded to a number between those that they are rounded to. -/
theorem nearest_between {n d first last : Nat} (positive : 0 < d) (lower : (first : ℚ) ≤ n / d)
    (upper : (n / d : ℚ) ≤ last) (bottom : (ofNat first).Holds low) (top : (ofNat last).Holds high) :
    (nearest n d).Between low high := by
  obtain ⟨value, shown, bounds⟩ := shows_round_between positive lower upper ((holds_nearest first 1).mp bottom)
    ((holds_nearest last 1).mp top)
  exact ⟨value, (holds_nearest n d).mpr shown, bounds⟩

theorem ofParts_between {m first last : Nat} {e : Int} (lower : (first : ℚ) ≤ m * 2 ^ e)
    (upper : (m * 2 ^ e : ℚ) ≤ last) (bottom : (ofNat first).Holds low) (top : (ofNat last).Holds high) :
    (ofParts (.finite false m e)).Between low high := by
  rw [← binaryRatio_value] at lower upper
  exact nearest_between (binaryRatio_pos m e) lower upper bottom top

theorem holds_ofNat (bounded : n ≤ 2 ^ 24) : (ofNat n).Holds n := by
  have top : single.Shows (single.round false (2 ^ 24) 1) (2 ^ 24 : Nat) := ⟨2 ^ 23, 1, by decide +kernel, by norm_num⟩
  exact (holds_nearest n 1).mpr (shows_whole (by decide) rfl top bounded)

theorem Holds.isFinite (shown : x.Holds q) : x.isFinite = true := by
  obtain ⟨m, e, shown, -⟩ := shown
  rw [Single.isFinite, parts, shown]
  rfl

theorem compare?_zero (shown : x.Holds q) (positive : 0 < q) : x.compare? zero = some .gt := by
  have nonzero : x.word.toNat ≠ 0 := by
    intro empty
    have nothing : single.Shows x.word.toNat 0 := by
      rw [empty]
      exact ⟨0, _, rfl, by simp⟩
    exact absurd (shown.unique nothing) positive.ne'
  have key : x.key? = some (x.word.toNat : Int) := key?_signed false shown.lt_infinityWord.le
  have origin : zero.key? = some 0 := by decide +kernel
  have order : compare (x.word.toNat : Int) 0 = .gt := compare_gt_iff_gt.mpr (by omega)
  rw [compare?, key, origin]
  exact congrArg some order

theorem add_holds (left : x.Holds p) (right : y.Holds q) :
    ∃ m e, x.add y = ofParts (.finite false m e) ∧ (m * 2 ^ e : ℚ) = p + q := by
  obtain ⟨m, e, left, rfl⟩ := left
  obtain ⟨n, d, right, rfl⟩ := right
  obtain ⟨total, base, sum, value⟩ := Parts.add_finite false m n e d nofun
  refine ⟨total, base, ?_, value⟩
  rw [add, parts, parts, left, right, sum]

theorem negativeZero_add (right : y.Holds q) :
    ∃ m e, negativeZero.add y = ofParts (.finite false m e) ∧ (m * 2 ^ e : ℚ) = q := by
  obtain ⟨n, d, right, rfl⟩ := right
  obtain ⟨total, base, sum, value⟩ := Parts.add_finite true 0 n single.minExponent d fun _ => rfl
  have zero : negativeZero.parts = .finite true 0 single.minExponent := by decide +kernel
  refine ⟨total, base, ?_, by simpa using value⟩
  rw [add, zero, parts, right, sum]

theorem ofNat_add_one (small : n < 2 ^ 24) : (ofNat n).add (ofNat 1) = ofNat (n + 1) := by
  obtain ⟨m, e, sum, value⟩ := add_holds (holds_ofNat small.le) (holds_ofNat (n := 1) (by decide))
  rw [sum]
  exact ofParts_whole (by exact_mod_cast value)

/-- The square of a count is at most `2 ^ 48`, and at least one for a count that is not zero. -/
theorem mul_self_between (bit : low ≤ 1) (count : x.Between low (2 ^ 24)) : (x.mul x).Between low (2 ^ 48) := by
  have top : (ofNat (2 ^ 48)).Holds (2 ^ 48 : Nat) := ⟨2 ^ 23, 25, by decide +kernel, by norm_num⟩
  obtain ⟨_, ⟨m, e, shown, rfl⟩, least, most⟩ := count
  have product : x.mul x = ofParts (.finite false (m * m) (e + e)) := by
    rw [mul, parts, shown]
    rfl
  have value := binary_mul m m e e
  have square : low * low = low := by
    rcases Nat.le_one_iff_eq_zero_or_eq_one.mp bit with rfl | rfl <;> rfl
  rw [product]
  refine ofParts_between ?_ ?_ (holds_ofNat (by omega)) top
  · calc (low : ℚ) = low * low := by exact_mod_cast square.symm
      _ ≤ m * 2 ^ e * (m * 2 ^ e) := by gcongr
      _ = (m * m : Nat) * 2 ^ (e + e) := value.symm
  · calc ((m * m : Nat) * 2 ^ (e + e) : ℚ) = m * 2 ^ e * (m * 2 ^ e) := value
      _ ≤ (2 ^ 24 : Nat) * (2 ^ 24 : Nat) := by gcongr
      _ = (2 ^ 48 : Nat) := by norm_num

/-- The last place of `2 ^ 100` is `2 ^ 77`, so `2 ^ 48` more is rounded away. -/
theorem holds_limit : (ofNat (2 ^ 100 + 2 ^ 48)).Holds (2 ^ 100 : Nat) := ⟨2 ^ 23, 77, by decide +kernel, by norm_num⟩

theorem add_between {first second : Nat} (bit : low ≤ 1) (enough : low ≤ first + second)
    (left : x.Between first (2 ^ 100)) (right : y.Between second (2 ^ 48)) : (x.add y).Between low (2 ^ 100) := by
  obtain ⟨p, left, leastLeft, mostLeft⟩ := left
  obtain ⟨q, right, leastRight, mostRight⟩ := right
  obtain ⟨m, e, sum, value⟩ := add_holds left right
  have reached : (low : ℚ) ≤ first + second := by exact_mod_cast enough
  rw [sum]
  refine ofParts_between ?_ ?_ (holds_ofNat (by omega)) holds_limit
  · rw [value]
    linarith
  · rw [value, Nat.cast_add]
    linarith

theorem negativeZero_add_between (bit : low ≤ 1) (right : y.Between low (2 ^ 48)) :
    (negativeZero.add y).Between low (2 ^ 100) := by
  obtain ⟨q, right, least, most⟩ := right
  obtain ⟨m, e, sum, value⟩ := negativeZero_add right
  rw [sum]
  refine ofParts_between (value ▸ least) ?_ (holds_ofNat (by omega)) holds_limit
  rw [value]
  exact most.trans (by norm_num)

theorem sqrt_between (between : x.Between 1 (2 ^ 100)) : x.sqrt.Between 1 (2 ^ 51) := by
  have top : (ofNat (2 ^ 51)).Holds (2 ^ 51 : Nat) := ⟨2 ^ 23, 28, by decide +kernel, by norm_num⟩
  obtain ⟨_, ⟨m, e, shown, rfl⟩, least, most⟩ := between
  have square : (m * 2 ^ e : ℚ) ≤ 4 ^ 50 := most.trans (by norm_num)
  obtain ⟨n, d, positive, rounded, lower, upper⟩ := sqrt_ratio single (by exact_mod_cast least) square
  have root : x.sqrt = nearest n d := by
    rw [sqrt, parts, shown, rounded]
    rfl
  rw [root]
  exact nearest_between positive (by exact_mod_cast lower) (by exact_mod_cast upper) (holds_ofNat (by decide)) top

end Single

namespace Vector32

open Single

variable {v : Vector32}

/-- The length of a vector: the root of the sum of the squares. -/
def norm (v : Vector32) : Single := (sum (v.map fun x => x.mul x)).sqrt

theorem foldl_add_between {low : Nat} {start : Single} (bit : low ≤ 1) (between : start.Between low (2 ^ 100))
    (squares : ∀ x ∈ v, x.Between 0 (2 ^ 48)) : (v.foldl Single.add start).Between low (2 ^ 100) := by
  induction v generalizing start with
  | nil => exact between
  | cons x rest step =>
    have next := add_between bit le_rfl between (squares x List.mem_cons_self)
    exact step next fun y member => squares y (List.mem_cons_of_mem x member)

theorem sum_between (squares : ∀ x ∈ v, x.Between 0 (2 ^ 48)) (one : ∃ x ∈ v, x.Between 1 (2 ^ 48)) :
    (sum v).Between 1 (2 ^ 100) := by
  obtain ⟨x, member, square⟩ := one
  obtain ⟨before, after, rfl⟩ := List.append_of_mem member
  have later : ∀ y ∈ after, y.Between 0 (2 ^ 48) := fun y member => squares y (by simp [member])
  -- the sum is at least one after the first square that is, and from there on
  have reached : ((before ++ [x]).foldl Single.add negativeZero).Between 1 (2 ^ 100) := by
    cases before with
    | nil => exact negativeZero_add_between le_rfl square
    | cons first rest =>
      have start := negativeZero_add_between (by decide) (squares first (by simp))
      have earlier := foldl_add_between (by decide) start fun y (member : y ∈ rest) => squares y (by simp [member])
      rw [List.foldl_append]
      exact add_between le_rfl (by decide) earlier square
  rw [sum, List.append_cons, List.foldl_append]
  exact foldl_add_between le_rfl reached later

theorem norm_between (counts : ∀ x ∈ v, x.Between 0 (2 ^ 24)) (one : ∃ x ∈ v, x.Between 1 (2 ^ 24)) :
    (norm v).Between 1 (2 ^ 51) := by
  refine sqrt_between (sum_between ?_ ?_)
  · intro square member
    obtain ⟨x, inside, rfl⟩ := List.mem_map.mp member
    exact mul_self_between (by decide) (counts x inside)
  · obtain ⟨x, member, count⟩ := one
    exact ⟨x.mul x, List.mem_map_of_mem member, mul_self_between le_rfl count⟩

end Vector32

end EntityGraph
