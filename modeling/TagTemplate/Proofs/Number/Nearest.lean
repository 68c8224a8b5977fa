import Mathlib.Algebra.Order.Ring.Nat
import TagTemplate.Number.Arithmetic

/-!
# Nearest numbers

Two numbers are equal if they have the same place on the extended line; NaN has none. An integer is
given by the number nearest to it. Rounding keeps the order: within one scale the significand does
not fall when the magnitude grows, and between two scales lies a power of two that neither is
rounded across. So the number of an integer never falls when the integer grows, though it may stay.
-/

namespace TagTemplate

variable {m n : Nat}

/-- A quotient is not rounded below its whole part. -/
theorem div_le_nearestEven (n d : Nat) : n / d ≤ nearestEven n d := by
  unfold nearestEven
  dsimp only
  split_ifs <;> omega

/-- A quotient is not rounded above the next whole number. -/
theorem nearestEven_le_div_add_one (n d : Nat) : nearestEven n d ≤ n / d + 1 := by
  unfold nearestEven
  dsimp only
  split_ifs <;> omega

/-- A whole number is not changed. -/
theorem nearestEven_one (n : Nat) : nearestEven n 1 = n := by
  unfold nearestEven
  simp [Nat.mod_one]

/-- A larger dividend does not give a smaller number. -/
theorem nearestEven_mono (d : Nat) (h : m ≤ n) : nearestEven m d ≤ nearestEven n d := by
  rcases (Nat.div_le_div_right (c := d) h).lt_or_eq with hq | hq
  · exact (nearestEven_le_div_add_one m d).trans (hq.trans_le (div_le_nearestEven n d))
  · have hr : m % d ≤ n % d := by
      have hm := Nat.div_add_mod m d
      have hn := Nat.div_add_mod n d
      rw [hq] at hm
      omega
    unfold nearestEven
    dsimp only
    rw [hq]
    split_ifs <;> omega

/-- The magnitude in units to which a magnitude in units is rounded. -/
def nearestUnits (n : Nat) : Nat := (roundUnits 53 0 n 1).1 * 2 ^ (roundUnits 53 0 n 1).2

/-- The scale leaves 53 binary digits. -/
theorem roundUnits_snd (n : Nat) : (roundUnits 53 0 n 1).2 = n.log2 + 1 - 53 := by
  simp [roundUnits]

/-- The significand is the magnitude divided by its scale. -/
theorem roundUnits_fst (n : Nat) :
    (roundUnits 53 0 n 1).1 = nearestEven n (2 ^ (n.log2 + 1 - 53)) := by
  simp [roundUnits]

/-- At most the significand has one digit too many. -/
theorem roundUnits_fst_le (n : Nat) : (roundUnits 53 0 n 1).1 ≤ 2 ^ 53 := by
  rw [roundUnits_fst]
  refine (nearestEven_le_div_add_one _ _).trans (Nat.succ_le_of_lt (Nat.div_lt_of_lt_mul ?_))
  rw [← pow_add]
  exact Nat.lt_log2_self.trans_le (Nat.pow_le_pow_right (by decide) (by omega))

/-- Above the smallest scale the significand has all its digits. -/
theorem le_roundUnits_fst (h : (roundUnits 53 0 n 1).2 ≠ 0) :
    2 ^ 52 ≤ (roundUnits 53 0 n 1).1 := by
  rw [roundUnits_snd] at h
  have hn : n ≠ 0 := by
    rintro rfl
    exact h rfl
  rw [roundUnits_fst]
  refine le_trans ?_ (div_le_nearestEven _ _)
  rw [Nat.le_div_iff_mul_le (Nat.two_pow_pos _), ← pow_add]
  exact (Nat.pow_le_pow_right (by decide) (by omega)).trans (Nat.log2_self_le hn)

/-- At the smallest scale every magnitude is kept. -/
theorem nearestUnits_eq_self (h : (roundUnits 53 0 n 1).2 = 0) : nearestUnits n = n := by
  rw [nearestUnits, h, roundUnits_fst, ← roundUnits_snd, h, pow_zero, mul_one, nearestEven_one]

/-- No magnitude is rounded across the next power of two. -/
theorem nearestUnits_le (n : Nat) : nearestUnits n ≤ 2 ^ (n.log2 + 1) := by
  by_cases h : (roundUnits 53 0 n 1).2 = 0
  · rw [nearestUnits_eq_self h]
    exact Nat.lt_log2_self.le
  · have hs := roundUnits_snd n
    calc nearestUnits n ≤ 2 ^ 53 * 2 ^ (roundUnits 53 0 n 1).2 :=
          Nat.mul_le_mul_right _ (roundUnits_fst_le n)
      _ = 2 ^ (n.log2 + 1) := by
          rw [← pow_add]
          congr 1
          omega

/-- No magnitude is rounded across the last power of two. -/
theorem le_nearestUnits (hn : n ≠ 0) : 2 ^ n.log2 ≤ nearestUnits n := by
  by_cases h : (roundUnits 53 0 n 1).2 = 0
  · rw [nearestUnits_eq_self h]
    exact Nat.log2_self_le hn
  · have hs := roundUnits_snd n
    calc 2 ^ n.log2 = 2 ^ 52 * 2 ^ (roundUnits 53 0 n 1).2 := by
          rw [← pow_add]
          congr 1
          omega
      _ ≤ nearestUnits n := Nat.mul_le_mul_right _ (le_roundUnits_fst h)

/-- A larger magnitude is not rounded to a smaller one. -/
theorem nearestUnits_mono (h : m ≤ n) : nearestUnits m ≤ nearestUnits n := by
  rcases Nat.eq_zero_or_pos m with rfl | hm
  · exact Nat.zero_le _
  · have hlog : m.log2 ≤ n.log2 := by
      rw [Nat.le_log2 (by omega)]
      exact (Nat.log2_self_le (by omega)).trans h
    rcases hlog.lt_or_eq with hlt | heq
    · calc nearestUnits m ≤ 2 ^ (m.log2 + 1) := nearestUnits_le m
        _ ≤ 2 ^ n.log2 := Nat.pow_le_pow_right (by decide) hlt
        _ ≤ nearestUnits n := le_nearestUnits (by omega)
    · unfold nearestUnits
      rw [roundUnits_snd, roundUnits_snd, roundUnits_fst, roundUnits_fst, heq]
      exact Nat.mul_le_mul_right _ (nearestEven_mono _ h)

/-- One is a power of two units; its exponent is best left alone by computation. -/
theorem exists_unitsPerOne_eq : ∃ k ≤ 1074, unitsPerOne = 2 ^ k := by
  generalize hk : 1074 = k
  refine ⟨k, le_rfl, ?_⟩
  unfold unitsPerOne
  rw [hk]
  exact Nat.pow_eq

namespace Number

variable {x y : Number} {i j : Int}

/-- Numbers are equal if they have one place. -/
theorem equals_iff : x.equals y = true ↔ ∃ p, x.place = some p ∧ y.place = some p := by
  unfold equals order
  cases hx : x.place with
  | none => simp
  | some p =>
    cases hy : y.place with
    | none => simp
    | some q =>
      have hthen : ((compare p.1 q.1).then (compare p.2 q.2) = .eq) ↔ q = p := by
        rw [Ordering.then_eq_eq, Int.compare_eq_eq, Int.compare_eq_eq, Prod.ext_iff]
        exact and_congr eq_comm eq_comm
      simp [hthen]

/-- Equality does not depend on the order of the operands. -/
theorem equals_comm (x y : Number) : x.equals y = y.equals x := by
  rw [Bool.eq_iff_iff, equals_iff, equals_iff]
  exact exists_congr fun p => and_comm

/-- Every number but NaN is equal to itself. -/
theorem equals_self_iff : x.equals x = true ↔ x ≠ .nan := by
  rw [equals_iff]
  cases x with
  | nan => simp [place]
  | infinite negative => simp [place]
  | finite negative m => simp [place]

/-- A rounded magnitude that is not too large has its place. -/
theorem place_ofRounded {negative : Bool} {significand scale : Nat} (hle : significand ≤ 2 ^ 53)
    (hscale : scale ≤ 2044) (hnormal : scale ≠ 0 → 2 ^ 52 ≤ significand) :
    (ofRounded negative significand scale).place =
      some (0, if negative then -((significand * 2 ^ scale : Nat) : Int)
        else ((significand * 2 ^ scale : Nat) : Int)) := by
  unfold ofRounded
  dsimp only
  by_cases hcarry : significand = Nat.pow 2 53
  · have hfits : Nat.pow 2 52 < Nat.pow 2 53 ∧ scale + 1 ≤ 2045 ∧
        (Nat.pow 2 52 ≤ Nat.pow 2 52 ∨ scale + 1 = 0) := ⟨by decide, by omega, .inl le_rfl⟩
    have hunits : Nat.pow 2 52 * Nat.pow 2 (scale + 1) = significand * 2 ^ scale := by
      rw [hcarry, Nat.pow_eq, Nat.pow_eq, Nat.pow_eq, ← pow_add, ← pow_add]
      congr 1
      omega
    simp only [if_pos hcarry, dif_pos hfits, place, signedUnits, Magnitude.units, hunits]
  · have hlt : significand < Nat.pow 2 53 := lt_of_le_of_ne hle hcarry
    have hfits : significand < Nat.pow 2 53 ∧ scale ≤ 2045 ∧
        (Nat.pow 2 52 ≤ significand ∨ scale = 0) := by
      refine ⟨hlt, by omega, ?_⟩
      by_cases hzero : scale = 0
      · exact .inr hzero
      · exact .inl (hnormal hzero)
    simp only [if_neg hcarry, dif_pos hfits, place, signedUnits, Magnitude.units]
    rfl

/-- The units of the number nearest to an integer. -/
def intUnits (i : Int) : Int :=
  if i < 0 then -(nearestUnits (i.natAbs * unitsPerOne) : Int)
  else nearestUnits (i.natAbs * unitsPerOne)

/-- The number of an integer of machine size has its place. -/
theorem place_ofInt (h : i.natAbs ≤ 2 ^ 64) : (ofInt i).place = some (0, intUnits i) := by
  have hbelow : ∀ k, i.natAbs * 2 ^ k < 2 ^ (65 + k) := by
    intro k
    rw [pow_add]
    exact Nat.mul_lt_mul_of_pos_right (by omega) (Nat.two_pow_pos k)
  obtain ⟨k, hk, hone⟩ := exists_unitsPerOne_eq
  have hlog : (i.natAbs * unitsPerOne).log2 < 65 + k := by
    by_cases hz : i.natAbs * unitsPerOne = 0
    · rw [hz, Nat.log2_zero]
      omega
    · rw [Nat.log2_lt hz, hone]
      exact hbelow k
  have hscale := roundUnits_snd (i.natAbs * unitsPerOne)
  unfold ofInt ofUnits
  dsimp only
  rw [place_ofRounded (roundUnits_fst_le _) (by omega) le_roundUnits_fst]
  unfold intUnits nearestUnits
  simp only [decide_eq_true_eq]

/-- Integers of machine size have equal numbers exactly if they are rounded to the same units. -/
theorem equals_ofInt_iff (hi : i.natAbs ≤ 2 ^ 64) (hj : j.natAbs ≤ 2 ^ 64) :
    (ofInt i).equals (ofInt j) = true ↔ intUnits i = intUnits j := by
  rw [equals_iff, place_ofInt hi, place_ofInt hj]
  constructor
  · rintro ⟨p, hp, hq⟩
    rw [← hp, Option.some.injEq, Prod.mk.injEq] at hq
    exact hq.2.symm
  · intro h
    exact ⟨_, rfl, by rw [h]⟩

/-- A larger integer is not rounded to a smaller number. -/
theorem intUnits_mono (h : i ≤ j) : intUnits i ≤ intUnits j := by
  unfold intUnits
  split_ifs with hi hj hj
  · have hle := nearestUnits_mono
      (Nat.mul_le_mul_right unitsPerOne (show j.natAbs ≤ i.natAbs by omega))
    omega
  · omega
  · omega
  · have hle := nearestUnits_mono
      (Nat.mul_le_mul_right unitsPerOne (show i.natAbs ≤ j.natAbs by omega))
    omega

/-- An integer keeps its sign. -/
theorem intUnits_neg_iff : intUnits i < 0 ↔ i < 0 := by
  unfold intUnits
  split_ifs with hi
  · obtain ⟨k, -, hone⟩ := exists_unitsPerOne_eq
    have hunits : i.natAbs * unitsPerOne ≠ 0 := by
      rw [hone]
      exact Nat.mul_ne_zero (by omega) (Nat.two_pow_pos k).ne'
    have hpos := (Nat.two_pow_pos _).trans_le (le_nearestUnits hunits)
    simp only [hi, iff_true]
    omega
  · simp only [hi, iff_false]
    omega

end Number

end TagTemplate
