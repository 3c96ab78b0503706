import Mathlib.Algebra.Order.Field.Power
import Mathlib.Data.Rat.Cast.Order
import Mathlib.Tactic.Ring
import TriStore.Number.Binary64

/-!
Rounding keeps the order of numbers and does not pass over a number that can be held exactly.
-/
namespace TriStore
open Option Magnitude

theorem Magnitude.value_le_value {a b : ℚ} : (value a).le (value b) = true ↔ a ≤ b := by
  simp [le, lt, same, le_iff_lt_or_eq]

theorem Magnitude.le_trans {a b c : Magnitude} (h : a.le b = true) (h' : b.le c = true) : a.le c = true := by
  cases a with
  | undefined => cases h
  | below =>
    cases c with
    | undefined => cases b <;> cases h'
    | _ => rfl
  | value p =>
    cases b with
    | value q =>
      cases c with
      | value r => exact value_le_value.2 ((value_le_value.1 h).trans (value_le_value.1 h'))
      | above => rfl
      | _ => cases h'
    | above =>
      cases c with
      | above => rfl
      | _ => cases h'
    | _ => cases h
  | above =>
    cases b with
    | above => exact h'
    | _ => cases h

theorem Magnitude.ne_undefined_of_le {a b : Magnitude} (h : a.le b = true) : b ≠ .undefined := by
  rintro rfl
  cases a <;> cases h

theorem Magnitude.le_above {a : Magnitude} (h : a ≠ .undefined) : a.le .above = true := by
  cases a with
  | undefined => exact absurd rfl h
  | _ => rfl

namespace Binary64

variable {x y z : Binary64} {a b q c : ℚ} {num den num' den' m : Nat} {e : Int}

def Fits : Binary64 → Prop
  | .finite _ m e => m < 2 ^ 53 ∧ minExponent ≤ e
  | _ => True

/-- A rational that can be held in 64 bits as it is. -/
def Holds (q : Rat) : Prop := ∃ x : Binary64, x.Fits ∧ x.toRat? = some q

theorem two_zpow (e : Int) : (2 : ℚ) ^ e = 2 ^ e.toNat / 2 ^ (-e).toNat := by
  rcases Int.le_total 0 e with h | h
  · obtain ⟨n, rfl⟩ := Int.eq_ofNat_of_zero_le h
    simp
  · obtain ⟨n, hn⟩ := Int.eq_ofNat_of_zero_le (Int.neg_nonneg_of_nonpos h)
    obtain rfl : e = -(n : Int) := by omega
    simp

theorem toRat?_finite (s : Bool) (m : Nat) (e : Int) :
    (finite s m e).toRat? = some (if s then -((m : ℚ) * 2 ^ e) else m * 2 ^ e) := by
  have top : ((m * Int.pow 2 e.toNat : Int) : ℚ) = m * 2 ^ e.toNat := by
    rw [Int.cast_mul, Int.cast_natCast]
    exact congrArg _ (Int.cast_pow 2 e.toNat)
  have bottom : ((Nat.pow 2 (-e).toNat : Nat) : ℚ) = 2 ^ (-e).toNat := Nat.cast_pow 2 (-e).toNat
  have unsigned : mkRat (m * Int.pow 2 e.toNat) (Nat.pow 2 (-e).toNat) = (m : ℚ) * 2 ^ e := by
    rw [Rat.mkRat_eq_div, top, bottom, two_zpow, mul_div_assoc]
  rw [toRat?, unsigned]

theorem toRat?_neg (h : x.toRat? = some a) : x.neg.toRat? = some (-a) := by
  cases x with
  | nan => cases h
  | infinite s => cases h
  | finite s m e =>
    rw [toRat?_finite, some_inj] at h
    rw [neg, toRat?_finite, ← h]
    cases s <;> simp

theorem add_of_toRat? (hx : x.toRat? = some a) (hy : y.toRat? = some b)
    (nonzero : a + b ≠ 0) : x.add y = ofRat (a + b) := by
  cases x with
  | nan => cases hx
  | infinite s => cases hx
  | finite s m e =>
    cases y with
    | nan => cases hy
    | infinite t => cases hy
    | finite t n f =>
      rw [add, hx, hy]
      dsimp only [getD_some]
      rw [if_neg (by simpa using nonzero)]

theorem div_le_roundDiv (num den : Nat) : num / den ≤ roundDiv num den := by
  unfold roundDiv
  dsimp only
  split <;> omega

theorem two_zpow_floorLog2_le (hn : 0 < num) (hd : 0 < den) : (2 : ℚ) ^ floorLog2 num den ≤ num / den := by
  have den_pos : (0 : ℚ) < den := by exact_mod_cast hd
  rw [floorLog2]
  split
  · next fits =>
    have fits' : (den : ℚ) * 2 ^ ((num.log2 : Int) - den.log2).toNat ≤
        num * 2 ^ (-((num.log2 : Int) - den.log2)).toNat := by exact_mod_cast fits
    rw [two_zpow, div_le_div_iff₀ (pow_pos two_pos _) den_pos, mul_comm]
    exact fits'
  · have low : ((2 : ℚ) ^ num.log2) ≤ num := by exact_mod_cast Nat.log2_self_le hn.ne'
    have high : (den : ℚ) ≤ 2 ^ (den.log2 + 1) := by exact_mod_cast Nat.lt_log2_self.le
    rw [le_div_iff₀ den_pos]
    calc (2 : ℚ) ^ ((num.log2 : Int) - den.log2 - 1) * den
        ≤ 2 ^ ((num.log2 : Int) - den.log2 - 1) * 2 ^ (den.log2 + 1) := by gcongr
      _ = 2 ^ num.log2 := by
        rw [← zpow_natCast, ← zpow_add₀ two_ne_zero, ← zpow_natCast]
        congr 1
        push_cast
        omega
      _ ≤ num := low

theorem roundDiv_le_roundDiv {a b c d : Nat} (hb : 0 < b) (hd : 0 < d) (h : a * d ≤ c * b) :
    roundDiv a b ≤ roundDiv c d := by
  have quotients : a / b ≤ c / d := by
    rw [Nat.le_div_iff_mul_le hd]
    refine Nat.le_of_mul_le_mul_right ?_ hb
    calc a / b * d * b = a / b * b * d := by ring
      _ ≤ a * d := Nat.mul_le_mul_right d (Nat.div_mul_le_self a b)
      _ ≤ c * b := h
  rcases Nat.lt_or_eq_of_le quotients with below | same
  · have up : roundDiv a b ≤ a / b + 1 := by
      unfold roundDiv
      dsimp only
      split <;> omega
    exact up.trans ((Nat.succ_le_of_lt below).trans (div_le_roundDiv c d))
  · -- Over one whole number the remainders decide, and they are in the order of the quotients.
    have rests : a % b * d ≤ c % d * b := by
      have whole : a / b * (b * d) = c / d * (b * d) := by rw [same]
      have left : a * d = a / b * (b * d) + a % b * d := by
        conv_lhs => rw [← Nat.div_add_mod a b]
        ring
      have right : c * b = c / d * (b * d) + c % d * b := by
        conv_lhs => rw [← Nat.div_add_mod c d]
        ring
      omega
    have half : b ≤ 2 * (a % b) → d ≤ 2 * (c % d) := by
      intro reached
      refine Nat.le_of_mul_le_mul_right ?_ hb
      calc d * b ≤ d * (2 * (a % b)) := Nat.mul_le_mul_left d reached
        _ = 2 * (a % b * d) := by ring
        _ ≤ 2 * (c % d * b) := Nat.mul_le_mul_left 2 rests
        _ = 2 * (c % d) * b := by ring
    have past : b < 2 * (a % b) → d < 2 * (c % d) := by
      intro passed
      refine Nat.lt_of_mul_lt_mul_right (a := b) ?_
      calc d * b < d * (2 * (a % b)) := Nat.mul_lt_mul_of_pos_left passed hd
        _ = 2 * (a % b * d) := by ring
        _ ≤ 2 * (c % d * b) := Nat.mul_le_mul_left 2 rests
        _ = 2 * (c % d) * b := by ring
    unfold roundDiv
    rw [same]
    simp only [gt_iff_lt, Bool.or_eq_true, decide_eq_true_eq, Bool.and_eq_true, beq_iff_eq]
    split
    · next up =>
      rw [if_pos (by omega)]
    · split <;> omega

theorem lt_two_zpow_floorLog2 (hd : 0 < den) : (num : ℚ) / den < 2 ^ (floorLog2 num den + 1) := by
  have den_pos : (0 : ℚ) < den := by exact_mod_cast hd
  rw [floorLog2]
  split
  · have high : (num : ℚ) < 2 ^ (num.log2 + 1) := by exact_mod_cast Nat.lt_log2_self
    have low : (2 : ℚ) ^ den.log2 ≤ den := by exact_mod_cast Nat.log2_self_le hd.ne'
    rw [div_lt_iff₀ den_pos]
    calc (num : ℚ) < 2 ^ (num.log2 + 1) := high
      _ = 2 ^ ((num.log2 : Int) - den.log2 + 1) * 2 ^ den.log2 := by
        rw [← zpow_natCast, ← zpow_natCast, ← zpow_add₀ two_ne_zero]
        congr 1
        push_cast
        omega
      _ ≤ 2 ^ ((num.log2 : Int) - den.log2 + 1) * den := by gcongr
  · next less =>
    have less' : (num : ℚ) * 2 ^ (-((num.log2 : Int) - den.log2)).toNat <
        den * 2 ^ ((num.log2 : Int) - den.log2).toNat := by exact_mod_cast Nat.lt_of_not_le less
    rw [sub_add_cancel, two_zpow, div_lt_div_iff₀ den_pos (pow_pos two_pos _), mul_comm _ (den : ℚ)]
    exact less'

theorem floorLog2_mono (hn : 0 < num) (hd : 0 < den) (hd' : 0 < den')
    (h : (num : ℚ) / den ≤ num' / den') : floorLog2 num den ≤ floorLog2 num' den' := by
  have between : (2 : ℚ) ^ floorLog2 num den < 2 ^ (floorLog2 num' den' + 1) :=
    (two_zpow_floorLog2_le hn hd).trans_lt (h.trans_lt (lt_two_zpow_floorLog2 hd'))
  exact Int.lt_add_one_iff.1 ((zpow_lt_zpow_iff_right₀ one_lt_two).1 between)

theorem le_roundDiv {n num den : Nat} {place : Int} (hd : 0 < den) (below : (n : ℚ) * 2 ^ place ≤ num / den) :
    n ≤ roundDiv (num * Nat.pow 2 (-place).toNat) (den * Nat.pow 2 place.toNat) := by
  have den_pos : (0 : ℚ) < den := by exact_mod_cast hd
  refine le_trans ?_ (div_le_roundDiv _ _)
  refine (Nat.le_div_iff_mul_le (Nat.mul_pos hd (Nat.pow_pos two_pos))).2 ?_
  rw [two_zpow, ← mul_div_assoc, div_le_div_iff₀ (pow_pos two_pos _) den_pos] at below
  have below' : n * 2 ^ place.toNat * den ≤ num * 2 ^ (-place).toNat := by exact_mod_cast below
  calc n * (den * 2 ^ place.toNat) = n * 2 ^ place.toNat * den := by ring
    _ ≤ num * 2 ^ (-place).toNat := below'

/-- The power of two that the last place of the nearest number stands for. -/
def place (num den : Nat) : Int := max minExponent (floorLog2 num den - 52)

def mantissa (num den : Nat) : Nat :=
  roundDiv (num * Nat.pow 2 (-place num den).toNat) (den * Nat.pow 2 (place num den).toNat)

/-- What a quotient is rounded to, as long as that is not too great. -/
def rounded (num den : Nat) : ℚ := mantissa num den * 2 ^ place num den

theorem mantissa_le (hd : 0 < den) : mantissa num den ≤ 2 ^ 53 := by
  have den_pos : (0 : ℚ) < den := by exact_mod_cast hd
  have scaled : (num : ℚ) * 2 ^ (-place num den).toNat ≤ 2 ^ 53 * (den * 2 ^ (place num den).toNat) := by
    have quotient : (num : ℚ) / den ≤ 2 ^ 53 * 2 ^ place num den := by
      refine (lt_two_zpow_floorLog2 hd).le.trans ?_
      have power : (2 : ℚ) ^ 53 * 2 ^ place num den = 2 ^ (53 + place num den) := by
        rw [zpow_add₀ two_ne_zero]
        rfl
      rw [power]
      refine zpow_le_zpow_right₀ one_le_two ?_
      unfold place
      omega
    rw [two_zpow, ← mul_div_assoc, div_le_div_iff₀ den_pos (pow_pos two_pos _)] at quotient
    exact quotient.trans_eq (by ring)
  have scaled' : num * 2 ^ (-place num den).toNat * 1 ≤ 2 ^ 53 * (den * 2 ^ (place num den).toNat) := by
    rw [mul_one]
    exact_mod_cast scaled
  have below := roundDiv_le_roundDiv (Nat.mul_pos hd (Nat.pow_pos two_pos)) one_pos scaled'
  have whole : roundDiv (2 ^ 53) 1 = 2 ^ 53 := by decide
  exact below.trans whole.le

theorem le_mantissa (hn : 0 < num) (hd : 0 < den) (h : minExponent < place num den) :
    2 ^ 52 ≤ mantissa num den := by
  refine le_roundDiv hd (le_trans (le_of_eq ?_) (two_zpow_floorLog2_le hn hd))
  have power : ((2 ^ 52 : Nat) : ℚ) = 2 ^ (52 : Int) := by norm_cast
  rw [power, ← zpow_add₀ two_ne_zero]
  congr 1
  unfold place at h ⊢
  omega

theorem rounded_mono (hn : 0 < num) (hd : 0 < den) (hn' : 0 < num')
    (hd' : 0 < den') (h : (num : ℚ) / den ≤ num' / den') : rounded num den ≤ rounded num' den' := by
  have places : place num den ≤ place num' den' := by
    have logs := floorLog2_mono hn hd hd' h
    unfold place
    omega
  rcases places.lt_or_eq with lower | same
  · have full := le_mantissa hn' hd' ((le_max_left _ _).trans_lt lower)
    calc rounded num den ≤ 2 ^ 53 * 2 ^ (place num' den' - 1) := by
          unfold rounded
          gcongr
          · exact_mod_cast mantissa_le hd
          · norm_num
          · omega
      _ = 2 ^ 52 * 2 ^ place num' den' := by
          rw [zpow_sub_one₀ two_ne_zero]
          ring
      _ ≤ rounded num' den' := by
          unfold rounded
          gcongr
          exact_mod_cast full
  · have mantissas : mantissa num den ≤ mantissa num' den' := by
      have den_pos : (0 : ℚ) < den := by exact_mod_cast hd
      have den_pos' : (0 : ℚ) < den' := by exact_mod_cast hd'
      have crossed : num * den' ≤ num' * den := by
        rw [div_le_div_iff₀ den_pos den_pos'] at h
        exact_mod_cast h
      unfold mantissa
      rw [same]
      refine roundDiv_le_roundDiv (Nat.mul_pos hd (Nat.pow_pos two_pos))
        (Nat.mul_pos hd' (Nat.pow_pos two_pos)) ?_
      calc num * Nat.pow 2 (-place num' den').toNat * (den' * Nat.pow 2 (place num' den').toNat)
          = num * den' * (Nat.pow 2 (-place num' den').toNat * Nat.pow 2 (place num' den').toNat) := by ring
        _ ≤ num' * den * (Nat.pow 2 (-place num' den').toNat * Nat.pow 2 (place num' den').toNat) :=
          Nat.mul_le_mul_right _ crossed
        _ = _ := by ring
    unfold rounded
    rw [same]
    gcongr

theorem ofBinary64_nearest (hn : 0 < num) (hd : 0 < den) : Magnitude.ofBinary64 (nearest false num den) =
      if rounded num den < 2 ^ (maxExponent + 53) then .value (rounded num den) else .above := by
  have finite_value (m : Nat) (e : Int) :
      Magnitude.ofBinary64 (finite false m e) = .value ((m : ℚ) * 2 ^ e) := by
    rw [Magnitude.ofBinary64, toRat?_finite, getD_some] <;> simp
  have split : nearest false num den =
      if mantissa num den = 2 ^ 53 then
        if place num den + 1 > maxExponent then .infinite false
        else .finite false (2 ^ 52) (place num den + 1)
      else if place num den > maxExponent then .infinite false
      else .finite false (mantissa num den) (place num den) := by
    rw [nearest, if_neg (by simp; omega)]
    dsimp only
    have carry : Nat.pow 2 53 = 2 ^ 53 := rfl
    have half : Nat.pow 2 52 = 2 ^ 52 := rfl
    rw [← place, ← mantissa, carry, half]
    by_cases carried : mantissa num den = 2 ^ 53
    · rw [if_pos (beq_iff_eq.2 carried), if_pos carried]
    · rw [if_neg (mt beq_iff_eq.1 carried), if_neg carried]
  rw [split]
  by_cases carried : mantissa num den = 2 ^ 53
  · rw [if_pos carried]
    have value : rounded num den = 2 ^ (place num den + 53) := by
      rw [rounded, carried, add_comm (place num den), zpow_add₀ two_ne_zero]
      norm_cast
    by_cases great : place num den + 1 > maxExponent
    · rw [if_pos great, if_neg]
      · rfl
      · rw [value, not_lt]
        exact zpow_le_zpow_right₀ one_le_two (by omega)
    · rw [if_neg great, if_pos, finite_value, value]
      · congr 1
        have power : ((2 ^ 52 : Nat) : ℚ) = 2 ^ (52 : Int) := by norm_cast
        rw [power, ← zpow_add₀ two_ne_zero]
        congr 1
        omega
      · rw [value]
        exact zpow_lt_zpow_right₀ one_lt_two (by omega)
  · rw [if_neg carried]
    have below : mantissa num den < 2 ^ 53 := lt_of_le_of_ne (mantissa_le hd) carried
    by_cases great : place num den > maxExponent
    · have full := le_mantissa hn hd (lt_trans (by decide) great)
      rw [if_pos great, if_neg]
      · rfl
      · rw [not_lt]
        calc (2 : ℚ) ^ (maxExponent + 53) ≤ 2 ^ (52 + place num den) :=
              zpow_le_zpow_right₀ one_le_two (by omega)
          _ = 2 ^ 52 * 2 ^ place num den := by
              rw [zpow_add₀ two_ne_zero]
              rfl
          _ ≤ rounded num den := by
              unfold rounded
              gcongr
              exact_mod_cast full
    · rw [if_neg great, if_pos, finite_value]
      · rfl
      · calc rounded num den < 2 ^ 53 * 2 ^ place num den := by
              unfold rounded
              gcongr
              exact_mod_cast below
          _ = 2 ^ (53 + place num den) := by
              rw [zpow_add₀ two_ne_zero]
              rfl
          _ ≤ 2 ^ (maxExponent + 53) := zpow_le_zpow_right₀ one_le_two (by omega)

theorem le_rounded (fits : m < 2 ^ 53) (least : minExponent ≤ e)
    (hn : 0 < num) (hd : 0 < den) (h : (m : ℚ) * 2 ^ e ≤ num / den) : (m : ℚ) * 2 ^ e ≤ rounded num den := by
  rcases le_or_gt (place num den) e with above | below
  · have shifted : ((m * 2 ^ (e - place num den).toNat : Nat) : ℚ) * 2 ^ place num den = m * 2 ^ e := by
      push_cast
      rw [mul_assoc, ← zpow_natCast, ← zpow_add₀ two_ne_zero]
      congr 2
      omega
    rw [← shifted, rounded]
    gcongr
    exact le_roundDiv hd (shifted.trans_le h)
  · -- A smaller exponent means that the mantissa is full, and no mantissa that fits is greater.
    have full := le_mantissa hn hd (least.trans_lt below)
    calc (m : ℚ) * 2 ^ e ≤ 2 ^ 53 * 2 ^ (place num den - 1) := by
          gcongr
          · exact_mod_cast fits.le
          · norm_num
          · omega
      _ = 2 ^ 52 * 2 ^ place num den := by
          rw [zpow_sub_one₀ two_ne_zero]
          ring
      _ ≤ rounded num den := by
          unfold rounded
          gcongr
          exact_mod_cast full

theorem le_nearest (fits : m < 2 ^ 53) (least : minExponent ≤ e)
    (hn : 0 < num) (hd : 0 < den) (h : (m : ℚ) * 2 ^ e ≤ num / den) :
    (Magnitude.value (m * 2 ^ e)).le (.ofBinary64 (nearest false num den)) = true := by
  rw [ofBinary64_nearest hn hd]
  split
  · exact value_le_value.2 (le_rounded fits least hn hd h)
  · rfl

theorem ofBinary64_of_toRat? (h : x.toRat? = some a) : Magnitude.ofBinary64 x = .value a := by
  cases x with
  | nan => cases h
  | infinite s => cases h
  | finite s m e => rw [Magnitude.ofBinary64, h, getD_some] <;> simp

theorem quotient_of_pos (h : 0 < q) : 0 < q.num.natAbs ∧ (q.num.natAbs : ℚ) / q.den = q := by
  have num_pos := Rat.num_pos.2 h
  refine ⟨Int.natAbs_pos.2 num_pos.ne', ?_⟩
  rw [Nat.cast_natAbs, abs_of_pos num_pos, Rat.num_div_den]

theorem ofBinary64_sub (hx : x.toRat? = some a) (hz : z.toRat? = some c)
    (h : c ≤ a) : Magnitude.ofBinary64 (x.sub z) = if c = a then .value 0
      else .ofBinary64 (nearest false (a - c).num.natAbs (a - c).den) := by
  split
  · next same =>
    cases x with
    | nan => cases hx
    | infinite s => cases hx
    | finite s m e =>
      cases z with
      | nan => cases hz
      | infinite s => cases hz
      | finite t n f =>
        have hz' := toRat?_neg hz
        rw [sub]
        unfold neg at hz' ⊢
        rw [add, hx, hz']
        rw [if_pos (by simp [same]), zero, ofBinary64_of_toRat? (toRat?_finite _ 0 _)]
        simp
  · next other =>
    have difference : 0 < a - c := sub_pos.2 (lt_of_le_of_ne h other)
    rw [sub, add_of_toRat? hx (toRat?_neg hz) (by rw [← sub_eq_add_neg]; exact difference.ne'), ofRat,
      ← sub_eq_add_neg, decide_eq_false difference.not_gt]

theorem ofBinary64_sub_mono (hx : x.toRat? = some a)
    (hy : y.toRat? = some b) (hz : z.toRat? = some c) (zx : c ≤ a) (xy : a ≤ b) :
    (Magnitude.ofBinary64 (x.sub z)).le (.ofBinary64 (y.sub z)) = true := by
  rw [ofBinary64_sub hx hz zx, ofBinary64_sub hy hz (zx.trans xy)]
  by_cases later : c = b
  · have same : c = a := le_antisymm zx (xy.trans_eq later.symm)
    rw [if_pos later, if_pos same]
    rfl
  · have after : 0 < b - c := sub_pos.2 (lt_of_le_of_ne (zx.trans xy) later)
    obtain ⟨num_pos, quotient⟩ := quotient_of_pos after
    rw [if_neg later, ofBinary64_nearest num_pos (b - c).den_pos]
    by_cases same : c = a
    · rw [if_pos same]
      split
      · refine value_le_value.2 (mul_nonneg ?_ (zpow_nonneg two_pos.le _))
        exact Nat.cast_nonneg _
      · rfl
    · have before : 0 < a - c := sub_pos.2 (lt_of_le_of_ne zx same)
      obtain ⟨num_pos', quotient'⟩ := quotient_of_pos before
      have order : rounded (a - c).num.natAbs (a - c).den ≤ rounded (b - c).num.natAbs (b - c).den :=
        rounded_mono num_pos' (a - c).den_pos num_pos (b - c).den_pos (by
          rw [quotient, quotient']
          exact sub_le_sub_right xy c)
      rw [if_neg same, ofBinary64_nearest num_pos' (a - c).den_pos]
      split
      · split
        · exact value_le_value.2 order
        · rfl
      · next great =>
        rw [if_neg fun small => great (order.trans_lt small)]
        rfl

theorem le_sub_of_le {limit : Magnitude} (zx : (Magnitude.ofBinary64 z).le (.ofBinary64 x) = true)
    (xy : (Magnitude.ofBinary64 x).le (.ofBinary64 y) = true)
    (reached : limit.le (.ofBinary64 (x.sub z)) = true) : limit.le (.ofBinary64 (y.sub z)) = true := by
  have defined := ne_undefined_of_le reached
  have zy := le_trans zx xy
  refine le_trans reached ?_
  cases y with
  | nan => exact absurd rfl (ne_undefined_of_le xy)
  | infinite s =>
    cases z with
    | nan => cases zx
    | infinite t =>
      cases s <;> cases t
      · cases x with
        | infinite u =>
          cases u
          · exact absurd rfl defined
          · cases zx
        | _ => cases zx
      · exact le_above defined
      · cases zy
      · cases x with
        | infinite u =>
          cases u
          · cases xy
          · exact absurd rfl defined
        | _ => cases xy
    | finite t l d =>
      cases s
      · exact le_above defined
      · cases zy
  | finite s n f =>
    cases z with
    | nan => cases zx
    | infinite t =>
      cases t
      · cases zy
      · exact le_above defined
    | finite t l d =>
      cases x with
      | nan => cases zx
      | infinite u =>
        cases u
        · cases xy
        · cases zx
      | finite u m e =>
        have value (negative : Bool) (m : Nat) (e : Int) : ∃ q, (finite negative m e).toRat? = some q :=
          ⟨_, rfl⟩
        obtain ⟨a, hx⟩ := value u m e
        obtain ⟨b, hy⟩ := value s n f
        obtain ⟨c, hz⟩ := value t l d
        rw [ofBinary64_of_toRat? hx, ofBinary64_of_toRat? hz, value_le_value] at zx
        rw [ofBinary64_of_toRat? hx, ofBinary64_of_toRat? hy, value_le_value] at xy
        exact ofBinary64_sub_mono hx hy hz zx xy

theorem le_sub (positive : 0 < q) (holds : Holds q) (hx : x.toRat? = some a)
    (hy : y.toRat? = some b) (h : q ≤ a - b) : (Magnitude.value q).le (.ofBinary64 (x.sub y)) = true := by
  obtain ⟨z, fits, hz⟩ := holds
  have difference : 0 < a - b := positive.trans_le h
  obtain ⟨num_pos, quotient⟩ := quotient_of_pos difference
  rw [ofBinary64_sub hx hy (sub_pos.1 difference).le, if_neg (sub_pos.1 difference).ne]
  cases z with
  | nan => cases hz
  | infinite s => cases hz
  | finite s m e =>
    have size_nonneg : (0 : ℚ) ≤ (m : ℚ) * 2 ^ e := mul_nonneg m.cast_nonneg (zpow_nonneg two_pos.le e)
    rw [toRat?_finite, some_inj] at hz
    cases s with
    | true =>
      rw [← hz] at positive
      exact absurd (neg_nonpos_of_nonneg size_nonneg) positive.not_ge
    | false =>
      obtain rfl : (m : ℚ) * 2 ^ e = q := hz
      exact le_nearest fits.1 fits.2 num_pos (a - b).den_pos (h.trans_eq quotient.symm)

end Binary64

end TriStore
