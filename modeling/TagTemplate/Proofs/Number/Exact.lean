import Mathlib.Data.Int.ModEq
import Mathlib.Data.Rat.Floor
import TagTemplate.Proofs.Number.Nearest

/-!
# Exact values

A finite number stands for a rational number. Dropping the fraction, the remainder of a division,
and sums of integers of up to 53 digits are never rounded, as the exact result lies on a grid that
is coarse enough for its size. Order and saturation follow the exact values too.
-/

namespace TagTemplate

/-- The integer part of a rational number, which lies towards zero from it. -/
def towardZero (q : ℚ) : Int := if q < 0 then ⌈q⌉ else ⌊q⌋

@[simp] theorem towardZero_intCast (i : Int) : towardZero i = i := by
  unfold towardZero
  split_ifs
  · exact Int.ceil_intCast i
  · exact Int.floor_intCast i

/-- The integer part of a quotient is the quotient that division without a remainder gives. -/
theorem towardZero_div {d : Nat} (hd : 0 < d) (a : Int) : towardZero ((a : ℚ) / d) = a.tdiv d := by
  have hd' : (0 : ℚ) < d := Nat.cast_pos.mpr hd
  unfold towardZero
  split_ifs with hneg
  · have ha : a < 0 := by exact_mod_cast (div_lt_iff₀ hd').mp hneg |>.trans_eq (zero_mul _)
    rw [Rat.ceil_intCast_div_natCast, ← Int.tdiv_eq_ediv_of_nonneg (by omega), Int.neg_tdiv,
      neg_neg]
  · have ha : 0 ≤ a := by
      by_contra hlt
      exact hneg (div_neg_of_neg_of_pos (by exact_mod_cast not_le.mp hlt) hd')
    rw [Rat.floor_intCast_div_natCast, Int.tdiv_eq_ediv_of_nonneg ha]

/-- A larger number does not have a smaller integer part. -/
theorem towardZero_mono {p q : ℚ} (hpq : p ≤ q) : towardZero p ≤ towardZero q := by
  unfold towardZero
  split_ifs with hp hq hq
  · exact Int.ceil_mono hpq
  · exact (Int.ceil_le.mpr (by simpa using hp.le)).trans (Int.floor_nonneg.mpr (not_lt.mp hq))
  · exact absurd (hpq.trans_lt hq) hp
  · exact Int.floor_mono hpq

theorem unitsPerOne_pos : 0 < unitsPerOne := by
  obtain ⟨k, -, hone⟩ := exists_unitsPerOne_eq
  rw [hone]
  exact Nat.two_pow_pos k

/-- A magnitude has at most 53 digits at its scale. -/
theorem Magnitude.units_lt (m : Magnitude) : m.units < 2 ^ (53 + m.scale) := by
  rw [pow_add]
  exact Nat.mul_lt_mul_of_pos_right m.significand_lt (Nat.two_pow_pos m.scale)

/-- A magnitude is a multiple of its scale. -/
theorem Magnitude.dvd_units (m : Magnitude) : 2 ^ m.scale ∣ m.units :=
  Dvd.intro_left m.significand rfl

namespace Number

variable {x y : Number} {p q : ℚ} {i j : Int} {negative : Bool} {m n e : Nat}

/-- The sign of a product is that of its first factor. -/
theorem signed_mul (negative : Bool) (m n : Nat) :
    (if negative then -((m * n : Nat) : Int) else (m * n : Nat)) =
      (if negative then -(m : Int) else m) * n := by
  cases negative <;> simp

/-- The rational number that a finite number stands for. -/
def rational? : Number → Option ℚ
  | .finite negative m => some ((signedUnits negative m : ℚ) / unitsPerOne)
  | _ => none

/-- Exactly the finite numbers stand for one. -/
theorem rational?_eq_none_iff : x.rational? = none ↔ x.isFinite = false := by
  cases x with
  | finite negative m => exact ⟨nofun, nofun⟩
  | _ => exact ⟨fun _ => rfl, fun _ => rfl⟩

/-- A number with an exact value is finite. -/
theorem exists_finite_of_rational? (h : x.rational? = some q) :
    ∃ negative m, x = .finite negative m ∧ q = (signedUnits negative m : ℚ) / unitsPerOne := by
  cases x with
  | nan => cases h
  | infinite negative => cases h
  | finite negative m => exact ⟨negative, m, rfl, (Option.some.inj h).symm⟩

/-- A number stands for an integer if it has as many units as that many ones. -/
theorem rational?_finite_eq_intCast_iff {m : Magnitude} :
    (finite negative m).rational? = some (i : ℚ) ↔ signedUnits negative m = i * unitsPerOne := by
  have hone : (unitsPerOne : ℚ) ≠ 0 := Nat.cast_ne_zero.mpr unitsPerOne_pos.ne'
  rw [rational?, Option.some.injEq, div_eq_iff hone]
  exact_mod_cast Iff.rfl

/-- A number that stands for an integer has as many units as the size of the integer in ones, and
its sign. -/
theorem rational?_finite_iff {m : Magnitude} :
    (finite negative m).rational? = some (i : ℚ) ↔
      ∃ k : Nat, m.units = k * unitsPerOne ∧ i = if negative then -(k : Int) else k := by
  have hone : (0 : Int) < unitsPerOne := Int.natCast_pos.mpr unitsPerOne_pos
  rw [rational?_finite_eq_intCast_iff, signedUnits]
  constructor
  · intro h
    refine ⟨i.natAbs, ?_, ?_⟩
    · have habs := congrArg Int.natAbs h
      rw [Int.natAbs_mul, Int.natAbs_natCast] at habs
      rw [← habs]
      cases negative <;> simp
    · have hunits : (0 : Int) ≤ m.units := Int.natCast_nonneg _
      cases negative with
      | false =>
        have hi : 0 ≤ i := nonneg_of_mul_nonneg_left (h ▸ hunits) hone
        simp [abs_of_nonneg hi]
      | true =>
        have hi : i ≤ 0 := by
          by_contra hpos
          have := mul_pos (not_le.mp hpos) hone
          rw [if_pos rfl] at h
          omega
        simp [abs_of_nonpos hi]
  · rintro ⟨k, hm, rfl⟩
    rw [hm]
    exact signed_mul negative k unitsPerOne

/-! ### Results that are not rounded -/

/-- Units that fit 53 digits at some scale are kept as they are. -/
theorem exists_ofUnits_eq (hdvd : 2 ^ e ∣ n) (hlt : n < 2 ^ (53 + e)) (he : e ≤ 2045)
    (negative : Bool) :
    ∃ m : Magnitude, ofUnits negative n 1 = .finite negative m ∧ m.units = n := by
  have hlog : n.log2 < 53 + e := by
    by_cases hzero : n = 0
    · rw [hzero, Nat.log2_zero]
      omega
    · exact (Nat.log2_lt hzero).mpr hlt
  have hscale := roundUnits_snd n
  have hround : (roundUnits 53 0 n 1).1 * 2 ^ (roundUnits 53 0 n 1).2 = n := by
    have hfine : 2 ^ (n.log2 + 1 - 53) ∣ n := (pow_dvd_pow 2 (by omega)).trans hdvd
    have hpos : 0 < 2 ^ (n.log2 + 1 - 53) := Nat.two_pow_pos _
    rw [roundUnits_fst, hscale, nearestEven, Nat.mod_eq_zero_of_dvd hfine, mul_zero, if_pos hpos]
    exact Nat.div_mul_cancel hfine
  have hdigits : (roundUnits 53 0 n 1).1 < Nat.pow 2 53 := by
    refine Nat.lt_of_mul_lt_mul_right (a := 2 ^ (roundUnits 53 0 n 1).2) ?_
    rw [hround, Nat.pow_eq, ← pow_add]
    exact Nat.lt_log2_self.trans_le (Nat.pow_le_pow_right (by decide) (by omega))
  have hfits : (roundUnits 53 0 n 1).1 < Nat.pow 2 53 ∧ (roundUnits 53 0 n 1).2 ≤ 2045 ∧
      (Nat.pow 2 52 ≤ (roundUnits 53 0 n 1).1 ∨ (roundUnits 53 0 n 1).2 = 0) :=
    ⟨hdigits, by omega, or_iff_not_imp_right.mpr le_roundUnits_fst⟩
  refine ⟨⟨_, _, hfits.1, hfits.2.1, hfits.2.2⟩, ?_, hround⟩
  unfold ofUnits ofRounded
  simp only [if_neg hdigits.ne, dif_pos hfits]

/-- Integers of at most 53 digits are kept as they are. -/
theorem exists_ofUnits_ones_eq (hn : n < 2 ^ 53) (negative : Bool) :
    ∃ m : Magnitude, ofUnits negative (n * unitsPerOne) 1 = .finite negative m ∧
      m.units = n * unitsPerOne := by
  obtain ⟨k, hk, hone⟩ := exists_unitsPerOne_eq
  rw [hone]
  refine exists_ofUnits_eq (Dvd.intro_left n rfl) ?_ (by omega) negative
  rw [pow_add]
  exact Nat.mul_lt_mul_of_pos_right hn (Nat.two_pow_pos k)

/-- Units that are counted by the size of an integer have its sign. -/
theorem signedUnits_of_natAbs {m : Magnitude} (h : m.units = i.natAbs * n) :
    signedUnits (decide (i < 0)) m = i * n := by
  rw [signedUnits, h]
  push_cast
  by_cases hneg : i < 0
  · rw [if_pos (decide_eq_true hneg), abs_of_neg hneg, neg_mul, neg_neg]
  · rw [if_neg (by simpa using hneg), abs_of_nonneg (not_lt.mp hneg)]

/-- The number of an integer of at most 53 digits stands for it. -/
theorem rational?_ofInt (hi : i.natAbs < 2 ^ 53) : (ofInt i).rational? = some (i : ℚ) := by
  obtain ⟨m, hm, hunits⟩ := exists_ofUnits_ones_eq hi (decide (i < 0))
  rw [ofInt, hm, rational?_finite_eq_intCast_iff]
  exact signedUnits_of_natAbs hunits

/-- So does the number of a natural number. -/
theorem rational?_ofNat (hn : n < 2 ^ 53) : (ofNat n).rational? = some ((n : Int) : ℚ) :=
  rational?_ofInt hn

/-- The integer part of a finite number, by its units. -/
theorem towardZero_units (negative : Bool) (m : Magnitude) :
    towardZero ((signedUnits negative m : ℚ) / unitsPerOne) =
      if negative then -((m.units / unitsPerOne : Nat) : Int)
      else ((m.units / unitsPerOne : Nat) : Int) := by
  rw [towardZero_div unitsPerOne_pos, signedUnits]
  cases negative with
  | false => exact Int.ofNat_tdiv m.units unitsPerOne
  | true =>
    rw [if_pos rfl, if_pos rfl, Int.neg_tdiv]
    exact congrArg Neg.neg (Int.ofNat_tdiv m.units unitsPerOne)

/-- Dropping the fraction gives the integer part, whatever its size. -/
theorem rational?_trunc (hx : x.rational? = some q) :
    x.trunc.rational? = some (towardZero q : ℚ) := by
  obtain ⟨negative, m, rfl, rfl⟩ := exists_finite_of_rational? hx
  obtain ⟨k, -, hone⟩ := exists_unitsPerOne_eq
  have hle : m.units / unitsPerOne * unitsPerOne ≤ m.units := Nat.div_mul_le_self _ _
  have hdvd : 2 ^ m.scale ∣ m.units / unitsPerOne * unitsPerOne := by
    rcases le_total k m.scale with hk | hk
    · rw [Nat.div_mul_cancel (hone ▸ (pow_dvd_pow 2 hk).trans m.dvd_units)]
      exact m.dvd_units
    · exact Dvd.dvd.mul_left (hone ▸ pow_dvd_pow 2 hk) _
  obtain ⟨whole, hwhole, hunits⟩ :=
    exists_ofUnits_eq hdvd (hle.trans_lt m.units_lt) m.scale_le negative
  rw [trunc, hwhole, rational?_finite_eq_intCast_iff, towardZero_units, signedUnits, hunits]
  exact signed_mul negative _ unitsPerOne

/-- Saturation moves the integer part to the nearer end of the interval. -/
theorem saturated_of_rational? (hx : x.rational? = some q) (low high : Int) :
    x.saturated low high = max low (min high (towardZero q)) := by
  obtain ⟨negative, m, rfl, rfl⟩ := exists_finite_of_rational? hx
  rw [saturated, towardZero_units]
  rfl

/-- The remainder of a division is never rounded: it is a multiple of the finer scale of the two
operands and not larger than either of them. -/
theorem exists_rem_eq {m d : Magnitude} (hd : d.units ≠ 0) (negative sign : Bool) :
    ∃ r : Magnitude, (finite negative m).rem (finite sign d) = .finite negative r ∧
      r.units = m.units % d.units := by
  have hpos : d.significand ≠ 0 := by
    intro hzero
    exact hd (by rw [Magnitude.units, hzero, zero_mul])
  have hless : m.units % d.units < d.units := Nat.mod_lt _ (Nat.pos_of_ne_zero hd)
  have hle : m.units % d.units ≤ m.units := Nat.mod_le _ _
  have hfine (e : Nat) (hm : e ≤ m.scale) (hs : e ≤ d.scale) : 2 ^ e ∣ m.units % d.units :=
    (Nat.dvd_mod_iff ((pow_dvd_pow 2 hs).trans d.dvd_units)).mpr
      ((pow_dvd_pow 2 hm).trans m.dvd_units)
  rw [rem, if_neg hpos]
  rcases le_total m.scale d.scale with hscale | hscale
  · exact exists_ofUnits_eq (hfine _ le_rfl hscale) (hle.trans_lt m.units_lt) m.scale_le negative
  · exact exists_ofUnits_eq (hfine _ hscale le_rfl) (hless.trans d.units_lt) d.scale_le negative

/-- The remainder of an integer has its sign. -/
theorem rational?_rem (hn : n ≠ 0) (hx : x.rational? = some (i : ℚ))
    (hy : y.rational? = some ((n : Int) : ℚ)) : (x.rem y).rational? = some (i.tmod n : ℚ) := by
  obtain ⟨negative, m, rfl, -⟩ := exists_finite_of_rational? hx
  obtain ⟨sign, d, rfl, -⟩ := exists_finite_of_rational? hy
  obtain ⟨k, hm, rfl⟩ := rational?_finite_iff.mp hx
  obtain ⟨size, hd, hsize⟩ := rational?_finite_iff.mp hy
  obtain rfl : size = n := by
    split_ifs at hsize <;> omega
  have hne : d.units ≠ 0 := hd ▸ Nat.mul_ne_zero hn unitsPerOne_pos.ne'
  obtain ⟨r, hr, hunits⟩ := exists_rem_eq (m := m) hne negative sign
  rw [hr, rational?_finite_iff]
  refine ⟨k % size, by rw [hunits, hm, hd, Nat.mul_mod_mul_right], ?_⟩
  cases negative with
  | false => rfl
  | true => exact Int.neg_tmod _ _

/-- The sum of integers is not rounded if it has at most 53 digits. -/
theorem rational?_add (hx : x.rational? = some (i : ℚ)) (hy : y.rational? = some (j : ℚ))
    (hsum : (i + j).natAbs < 2 ^ 53) : (x.add y).rational? = some ((i + j : Int) : ℚ) := by
  obtain ⟨negative, m, rfl, -⟩ := exists_finite_of_rational? hx
  obtain ⟨sign, d, rfl, -⟩ := exists_finite_of_rational? hy
  rw [rational?_finite_eq_intCast_iff] at hx hy
  have hunits : signedUnits negative m + signedUnits sign d = (i + j) * unitsPerOne := by
    rw [hx, hy, add_mul]
  have hone : (0 : Int) < unitsPerOne := Int.natCast_pos.mpr unitsPerOne_pos
  dsimp only [add]
  rw [hunits]
  by_cases hzero : i + j = 0
  · rw [hzero, zero_mul, if_pos rfl, rational?_finite_iff]
    exact ⟨0, by rw [zero_mul]; rfl, by simp⟩
  · obtain ⟨total, htotal, hsize⟩ := exists_ofUnits_ones_eq hsum (decide (i + j < 0))
    have hsign : (i + j) * unitsPerOne < 0 ↔ i + j < 0 :=
      ⟨fun h => neg_of_mul_neg_left h hone.le, fun h => mul_neg_of_neg_of_pos h hone⟩
    rw [if_neg (mul_ne_zero hzero hone.ne'), Int.natAbs_mul, Int.natAbs_natCast,
      decide_eq_decide.mpr hsign, htotal, rational?_finite_eq_intCast_iff]
    exact signedUnits_of_natAbs hsize

/-- The negative of an integer. -/
theorem rational?_neg (hx : x.rational? = some (i : ℚ)) :
    x.neg.rational? = some ((-i : Int) : ℚ) := by
  obtain ⟨negative, m, rfl, -⟩ := exists_finite_of_rational? hx
  obtain ⟨k, hm, rfl⟩ := rational?_finite_iff.mp hx
  rw [neg, rational?_finite_iff]
  refine ⟨k, hm, ?_⟩
  cases negative <;> simp

/-- The size of an integer. -/
theorem rational?_abs (hx : x.rational? = some (i : ℚ)) :
    x.abs.rational? = some ((i.natAbs : Int) : ℚ) := by
  obtain ⟨negative, m, rfl, -⟩ := exists_finite_of_rational? hx
  obtain ⟨k, hm, rfl⟩ := rational?_finite_iff.mp hx
  rw [abs, rational?_finite_iff]
  refine ⟨k, hm, ?_⟩
  cases negative <;> simp

/-! ### Order -/

/-- Numbers are ordered as their exact values are. -/
theorem order_of_rational? (hx : x.rational? = some p) (hy : y.rational? = some q) :
    x.order y = some (compare p q) := by
  obtain ⟨negative, m, rfl, rfl⟩ := exists_finite_of_rational? hx
  obtain ⟨sign, d, rfl, rfl⟩ := exists_finite_of_rational? hy
  have hone : (0 : ℚ) < unitsPerOne := Nat.cast_pos.mpr unitsPerOne_pos
  have hunits : (finite negative m).order (finite sign d) =
      some (compare (signedUnits negative m) (signedUnits sign d)) := rfl
  rw [hunits, Option.some.injEq]
  rcases lt_trichotomy (signedUnits negative m) (signedUnits sign d) with h | h | h
  · rw [compare_lt_iff_lt.mpr h, eq_comm, compare_lt_iff_lt]
    exact div_lt_div_of_pos_right (Int.cast_lt.mpr h) hone
  · rw [compare_eq_iff_eq.mpr h, eq_comm, compare_eq_iff_eq, h]
  · rw [compare_gt_iff_gt.mpr h, eq_comm, compare_gt_iff_gt]
    exact div_lt_div_of_pos_right (Int.cast_lt.mpr h) hone

/-- A number is at least another one if its exact value is. -/
theorem isAtLeast_iff (hx : x.rational? = some p) (hy : y.rational? = some q) :
    x.isAtLeast y = true ↔ q ≤ p := by
  rw [isAtLeast, order_of_rational? hx hy, ← not_lt, ← compare_lt_iff_lt]
  cases compare p q <;> simp

/-! ### Words -/

/-- The difference of integers is not rounded if it has at most 53 digits. -/
theorem rational?_sub (hx : x.rational? = some (i : ℚ)) (hy : y.rational? = some (j : ℚ))
    (hdiff : (i - j).natAbs < 2 ^ 53) : (x.sub y).rational? = some ((i - j : Int) : ℚ) :=
  rational?_add hx (rational?_neg hy) hdiff

/-- The remainder that is not negative, of a division by an integer of at most 53 digits. -/
theorem rational?_remEuclid (hn : n ≠ 0) (hlt : n < 2 ^ 53) (hx : x.rational? = some (i : ℚ))
    (hy : y.rational? = some ((n : Int) : ℚ)) :
    (x.remEuclid y).rational? = some ((i % n : Int) : ℚ) := by
  have hrem := rational?_rem hn hx hy
  have hzero : zero.rational? = some ((0 : Int) : ℚ) :=
    rational?_finite_iff.mpr ⟨0, by rw [zero_mul]; rfl, rfl⟩
  have hbelow : (x.rem y).order zero = some .lt ↔ i.tmod n < 0 := by
    rw [order_of_rational? hrem hzero, Option.some.injEq, compare_lt_iff_lt, Int.cast_lt]
  have hnonneg := Int.emod_nonneg i (show (n : Int) ≠ 0 by omega)
  have hless := Int.emod_lt_of_pos i (show (0 : Int) < n by omega)
  have htmod : i.tmod n = i % n ∨ i.tmod n = i % n - n := by
    rw [Int.tmod_eq_emod, Int.natAbs_natCast]
    split_ifs <;> simp
  unfold remEuclid
  dsimp only
  split_ifs with h
  · rw [hbelow] at h
    have hsum : i.tmod n + (n : Int).natAbs = i % n := by omega
    rw [← hsum]
    exact rational?_add hrem (rational?_abs hy) (by omega)
  · rw [hbelow] at h
    have hsame : i.tmod n = i % n := by omega
    rwa [← hsame]

/-- An integer with 32 bits is kept by saturation and by words. -/
theorem toInt_saturated (hx : x.rational? = some (i : ℚ)) (hlow : -2147483648 ≤ i)
    (hhigh : i < 2147483648) :
    (Int32.ofInt (x.saturated (-(Int.pow 2 31)) (Int.pow 2 31 - 1))).toInt = i := by
  have hpow : Int.pow 2 31 = 2147483648 := rfl
  have hkept : max (-(Int.pow 2 31)) (min (Int.pow 2 31 - 1) i) = i := by omega
  rw [saturated_of_rational? hx, towardZero_intCast, hkept,
    Int32.toInt_ofInt_of_le (by omega) (by omega)]

/-- The word of a number is the balanced remainder of its integer part. -/
theorem toInt_toInt32 (hx : x.rational? = some q) :
    x.toInt32.toInt = (towardZero q).bmod (2 ^ 32) := by
  have hfinite : x.isFinite = true := by
    rw [← Bool.not_eq_false, ← rational?_eq_none_iff, hx]
    exact Option.some_ne_none q
  have hwrapped := rational?_remEuclid (n := Nat.pow 2 32) (by decide) (by decide)
    (rational?_trunc hx) (rational?_ofNat (by decide))
  have hupper := isAtLeast_iff hwrapped (rational?_ofNat (n := Nat.pow 2 31) (by decide))
  generalize towardZero q = whole at hwrapped hupper ⊢
  have hsize : ((Nat.pow 2 32 : Nat) : Int) = 4294967296 := rfl
  have hhalf : ((Nat.pow 2 31 : Nat) : Int) = 2147483648 := rfl
  rw [hsize] at hwrapped hupper
  rw [Int.cast_le, hhalf] at hupper
  -- Both branches leave a balanced remainder, so saturation has nothing to move.
  rw [toInt32, if_pos hfinite, Int.bmod_def]
  dsimp only
  split_ifs with h hless hless
  · rw [hupper] at h
    omega
  · rw [hupper] at h
    have hshifted :=
      rational?_sub hwrapped (rational?_ofNat (n := Nat.pow 2 32) (by decide)) (by omega)
    rw [hsize] at hshifted
    exact toInt_saturated hshifted (by omega) (by omega)
  · rw [hupper] at h
    exact toInt_saturated hwrapped (by omega) (by omega)
  · rw [hupper] at h
    omega

/-- The word of a number: zero when it is not finite, else the integer with 32 bits that is
congruent to its integer part. -/
def HasWord (x : Number) (i : Int) : Prop :=
  match x.rational? with
  | none => i = 0
  | some q => -(2 ^ 31) ≤ i ∧ i < 2 ^ 31 ∧ i ≡ towardZero q [ZMOD 2 ^ 32]

/-- The balanced remainder is the one congruent integer with 32 bits. -/
theorem eq_bmod_iff {whole : Int} :
    whole.bmod (2 ^ 32) = i ↔ -(2 ^ 31) ≤ i ∧ i < 2 ^ 31 ∧ i ≡ whole [ZMOD 2 ^ 32] := by
  have hsize : ((2 ^ 32 : Nat) : Int) = 4294967296 := rfl
  rw [Int.bmod_def, Int.ModEq, hsize]
  split_ifs <;> omega

/-- Every number has one word, and it is the one that is computed. -/
theorem hasWord_iff : x.HasWord i ↔ x.toInt32.toInt = i := by
  unfold HasWord
  cases hx : x.rational? with
  | none =>
    have hword : x.toInt32 = 0 := by
      rw [toInt32, rational?_eq_none_iff.mp hx]
      rfl
    rw [hword]
    exact eq_comm
  | some q => rw [toInt_toInt32 hx, eq_bmod_iff]

/-- A number has the word of a 32-bit integer if that is what is computed. -/
theorem HasWord.toInt32_eq (h : x.HasWord i) : x.toInt32 = Int32.ofInt i := by
  rw [← hasWord_iff.mp h, Int32.ofInt_toInt]

end Number

end TagTemplate
