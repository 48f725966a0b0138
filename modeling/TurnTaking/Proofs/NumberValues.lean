import Mathlib.Algebra.Order.Field.Power
import Mathlib.Algebra.Order.Field.Rat
import Mathlib.Data.Nat.Prime.Basic
import Mathlib.Tactic.NormNum
import Mathlib.Tactic.Ring
import TurnTaking.Number.Binary

namespace TurnTaking

lemma cast_twoTo (n : Nat) : (twoTo n : ℚ) = 2 ^ n := by
  simp [twoTo]

lemma tenTo_le_tenTo {m n : Nat} (h : m ≤ n) : tenTo m ≤ tenTo n :=
  Nat.pow_le_pow_right (by decide) h

lemma log2_lt_of_lt_twoTo {n k : Nat} (h0 : n ≠ 0) (h : n < twoTo k) : n.log2 < k :=
  (Nat.log2_lt h0).mpr h

namespace Binary

def signed (negative : Bool) (m : Nat) : Int :=
  if negative then -m else m

def value? : Binary → Option ℚ
  | nan => none
  | infinite _ => none
  | finite negative m e => some (signed negative m * 2 ^ e)

@[simp] lemma value?_nan : nan.value? = none := rfl

@[simp] lemma value?_infinite (negative : Bool) : (infinite negative).value? = none := rfl

@[simp] lemma value?_zero : zero.value? = some 0 := by
  simp [value?, zero, signed]

@[simp] lemma value?_one : one.value? = some 1 := by
  simp [value?, one, signed]

@[simp] lemma value?_half : half.value? = some (1 / 2) := by
  simp [value?, half, signed]

@[simp] lemma value?_two : two.value? = some 2 := by
  simp [value?, two, signed]

lemma numerator_mul {base e : Int} (h : base ≤ e) (negative : Bool) (m : Nat) :
    (numerator base negative m e : ℚ) * 2 ^ base = signed negative m * 2 ^ e := by
  have he : (2 : ℚ) ^ e = 2 ^ (e - base).toNat * 2 ^ base := by
    rw [← zpow_natCast, ← zpow_add₀ two_ne_zero]
    congr 1
    omega
  rw [he, ← cast_twoTo, ← mul_assoc, numerator, signed]
  cases negative <;> push_cast <;> simp

lemma le_iff_of_value? {x y : Binary} {a b : ℚ} (hx : x.value? = some a) (hy : y.value? = some b) :
    x.le y = true ↔ a ≤ b := by
  cases x with
  | nan => cases hx
  | infinite n => cases hx
  | finite n m e =>
    cases y with
    | nan => cases hy
    | infinite n' => cases hy
    | finite n' m' e' =>
      obtain rfl := Option.some.inj hx
      obtain rfl := Option.some.inj hy
      have hpos : (0 : ℚ) < 2 ^ min e e' := zpow_pos two_pos _
      rw [le, decide_eq_true_eq, ← numerator_mul (min_le_left e e'),
        ← numerator_mul (min_le_right e e'), mul_le_mul_iff_left₀ hpos, Int.cast_le]

lemma between_iff {low high : Binary} {a b : ℚ} (hl : low.value? = some a)
    (hh : high.value? = some b) (x : Binary) :
    (low.le x && x.le high) = true ↔ ∃ q, x.value? = some q ∧ a ≤ q ∧ q ≤ b := by
  rw [Bool.and_eq_true]
  cases x with
  | nan => cases low <;> simp [le]
  | infinite n =>
    cases low with
    | nan => cases hl
    | infinite n' => cases hl
    | finite n' m e =>
      cases high with
      | nan => cases hh
      | infinite n' => cases hh
      | finite n'' m' e' => cases n <;> simp [le]
  | finite n m e =>
    have hx : (finite n m e).value? = some ((signed n m : ℚ) * 2 ^ e) := rfl
    rw [le_iff_of_value? hl hx, le_iff_of_value? hx hh, hx]
    simp

lemma isNan_eq_false_of_value? {x : Binary} {q : ℚ} (h : x.value? = some q) :
    x.isNan = false := by
  cases x with
  | nan => cases h
  | infinite negative => rfl
  | finite negative m e => rfl

lemma isNan_negate (x : Binary) : x.negate.isNan = x.isNan := by
  cases x <;> rfl

def isNonzero : Binary → Bool
  | finite _ m _ => m ≠ 0
  | _ => false

lemma exists_of_isNonzero {x : Binary} (h : x.isNonzero = true) :
    ∃ negative m e, x = finite negative m e ∧ m ≠ 0 := by
  cases x with
  | nan | infinite negative => cases h
  | finite negative m e => exact ⟨negative, m, e, rfl, of_decide_eq_true h⟩

lemma twoTo_twos_dvd (n : Nat) : twoTo (twos n) ∣ n := by
  -- What a number has in common with a power of two is a power of two itself.
  obtain ⟨k, -, hk⟩ :=
    (Nat.dvd_prime_pow Nat.prime_two).mp (Nat.gcd_dvd_right n (twoTo n.log2))
  have ht : twos n = k := by rw [twos, hk, Nat.log2_two_pow]
  have hd := Nat.gcd_dvd_left n (twoTo n.log2)
  rw [hk] at hd
  rw [ht]
  exact hd

lemma value?_scaled (negative : Bool) (n : Nat) (e : Int) :
    (scaled negative n e).value? = some ((signed negative n : ℚ) * 2 ^ e) := by
  by_cases hn : n = 0
  · simp [scaled, hn, value?, signed]
  · obtain ⟨m, hm⟩ := twoTo_twos_dvd n
    have hdiv : n / twoTo (twos n) = m := Nat.div_eq_of_eq_mul_right (twoTo_pos _) hm
    have hcast : (n : ℚ) = 2 ^ twos n * m := by
      rw [← cast_twoTo, ← Nat.cast_mul, ← hm]
    rw [scaled, if_neg hn, hdiv, value?, zpow_add₀ two_ne_zero, zpow_natCast]
    cases negative <;> simp [signed, hcast] <;> ring

lemma isNonzero_scaled (negative : Bool) {n : Nat} (h : n ≠ 0) (e : Int) :
    (scaled negative n e).isNonzero = true := by
  obtain ⟨m, hm⟩ := twoTo_twos_dvd n
  have hdiv : n / twoTo (twos n) = m := Nat.div_eq_of_eq_mul_right (twoTo_pos _) hm
  have hne : m ≠ 0 := by
    rintro rfl
    exact h hm
  rw [scaled, if_neg h, hdiv]
  exact decide_eq_true hne

end Binary

lemma roundHalfEven_one (n : Nat) : roundHalfEven n 1 = n := by
  simp [roundHalfEven, Nat.mod_one]

lemma div_le_roundHalfEven (num den : Nat) : num / den ≤ roundHalfEven num den := by
  simp only [roundHalfEven]
  split
  · exact le_rfl
  · split <;> omega

lemma roundHalfEven_le (num den : Nat) : roundHalfEven num den ≤ num / den + 1 := by
  simp only [roundHalfEven]
  split
  · omega
  · split <;> omega

lemma binaryExponent_one {n : Nat} (h : n ≠ 0) : binaryExponent n 1 = n.log2 := by
  have hle : twoTo n.log2 ≤ n := Nat.log2_self_le h
  have hone : Nat.log2 1 = 0 := rfl
  simp [binaryExponent, hone, hle]

namespace Format

variable {f : Format}

lemma isNan_round (f : Format) (negative : Bool) (num den : Nat) :
    (f.round negative num den).isNan = false := by
  rw [round]
  split
  · rfl
  · dsimp only
    split
    · rfl
    · exact Binary.isNan_eq_false_of_value? (Binary.value?_scaled _ _ _)

lemma isNan_cast (f : Format) (x : Binary) : (f.cast x).isNan = x.isNan := by
  cases x with
  | nan => rfl
  | infinite negative => rfl
  | finite negative m e => exact isNan_round f negative _ _

lemma isNan_mul {x : Binary} (hx : x.isNan = false) (negative : Bool) {m : Nat} (hm : m ≠ 0)
    (e : Int) : (f.mul x (.finite negative m e)).isNan = false := by
  cases x with
  | nan => cases hx
  | infinite n => simp [mul, hm, Binary.isNan]
  | finite n m' e' => exact isNan_round f _ _ _

lemma isNan_div {x : Binary} (hx : x.isNan = false) (negative : Bool) (m : Nat) (e : Int) :
    (f.div x (.finite negative m e)).isNan = false := by
  cases x with
  | nan => cases hx
  | infinite n => rfl
  | finite n m' e' => exact isNan_round f _ _ _

lemma isNonzero_ofNat (hp : 0 < f.precision) (hl : f.lowest ≤ 0) {n : Nat} (h0 : n ≠ 0)
    (hn : (n.log2 : Int) + 1 < f.limit) : (f.ofNat n).isNonzero = true := by
  obtain ⟨q, hq⟩ : ∃ q, f.lastBit n.log2 = q := ⟨_, rfl⟩
  have hqn : q.toNat ≤ n.log2 := by
    rw [← hq, lastBit]
    omega
  -- The quotient that is rounded has at least one bit and at most so many that they end, from the
  -- last one at `q` on, with the first bit of `n`. Rounding adds at most one to it.
  obtain ⟨bits, hbits⟩ : ∃ k, k = n.log2 + 1 + (-q).toNat - q.toNat := ⟨_, rfl⟩
  have hpos : 0 < n * twoTo (-q).toNat / twoTo q.toNat := by
    have hle : twoTo q.toNat ≤ n :=
      (Nat.pow_le_pow_right two_pos hqn).trans (Nat.log2_self_le h0)
    exact Nat.div_pos (hle.trans (Nat.le_mul_of_pos_right n (twoTo_pos _))) (twoTo_pos _)
  have hlt : n * twoTo (-q).toNat / twoTo q.toNat < 2 ^ bits := by
    rw [Nat.div_lt_iff_lt_mul (twoTo_pos _), twoTo, twoTo, Nat.pow_eq, Nat.pow_eq, ← Nat.pow_add,
      hbits, Nat.sub_add_cancel (by omega), Nat.pow_add]
    exact Nat.mul_lt_mul_of_pos_right Nat.lt_log2_self (Nat.pow_pos two_pos)
  obtain ⟨r, hr⟩ : ∃ r, roundHalfEven (n * twoTo (-q).toNat) (twoTo q.toNat) = r := ⟨_, rfl⟩
  have hlow := div_le_roundHalfEven (n * twoTo (-q).toNat) (twoTo q.toNat)
  have hhigh := roundHalfEven_le (n * twoTo (-q).toNat) (twoTo q.toNat)
  rw [hr] at hlow hhigh
  have hne : r ≠ 0 := by omega
  have hlog : r.log2 < bits + 1 := by
    rw [Nat.log2_lt hne, Nat.pow_succ]
    omega
  have hlimit : ¬ f.limit ≤ (r.log2 : Int) + q := by omega
  rw [ofNat, round, if_neg h0, binaryExponent_one h0, hq]
  simp only [one_mul, hr, if_neg hlimit]
  exact Binary.isNonzero_scaled false hne q

lemma value?_ofInt (hl : f.lowest ≤ 0) (hp : (f.precision : Int) ≤ f.limit) {i : Int}
    (hi : i.natAbs < 2 ^ f.precision) : (f.ofInt i).value? = some (i : ℚ) := by
  have hsign : Binary.signed (decide (i < 0)) i.natAbs = i := by
    simp only [Binary.signed, decide_eq_true_eq]
    split <;> omega
  by_cases h0 : i.natAbs = 0
  · obtain rfl := Int.natAbs_eq_zero.mp h0
    simp [ofInt, round, Binary.value?, Binary.signed]
  · have hlog : i.natAbs.log2 < f.precision := (Nat.log2_lt h0).mpr hi
    obtain ⟨k, hk⟩ : ∃ k : Nat, f.lastBit i.natAbs.log2 = -(k : Int) := by
      refine ⟨(-(f.lastBit i.natAbs.log2)).toNat, ?_⟩
      rw [lastBit]
      omega
    have hne : i.natAbs * twoTo k ≠ 0 := Nat.mul_ne_zero h0 (twoTo_pos k).ne'
    have hlimit : ¬ f.limit ≤ ((i.natAbs * twoTo k).log2 : Int) + -(k : Int) := by
      have hlt : i.natAbs * twoTo k < 2 ^ (f.precision + k) := by
        rw [Nat.pow_add]
        exact Nat.mul_lt_mul_of_pos_right hi (twoTo_pos k)
      have hbits := (Nat.log2_lt hne).mpr hlt
      omega
    have hround : f.ofInt i = .scaled (decide (i < 0)) (i.natAbs * twoTo k) (-(k : Int)) := by
      rw [ofInt, round, if_neg h0, binaryExponent_one h0, hk]
      simp [roundHalfEven_one, hlimit]
    have hvalue : (Binary.signed (decide (i < 0)) (i.natAbs * twoTo k) : ℚ) =
        Binary.signed (decide (i < 0)) i.natAbs * 2 ^ k := by
      cases decide (i < 0) <;> simp [Binary.signed, cast_twoTo]
    rw [hround, Binary.value?_scaled, hvalue, hsign, zpow_neg, zpow_natCast,
      mul_inv_cancel_right₀ (pow_ne_zero k two_ne_zero)]

end Format

end TurnTaking
