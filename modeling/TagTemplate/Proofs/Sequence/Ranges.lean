import TagTemplate.Operator
import TagTemplate.Proofs.Number.Exact
import TagTemplate.Proofs.Sequence.Positions

/-!
# Ranges between numbers

A range goes from the integer part of one number to that of another, unless the numbers descend or
one of them is not finite. It is decided on the numbers whether they descend, so a range is never
empty: integer parts, and the ends that they are moved to, keep the order. A range whose bounds are
less than `2 ^ 63` apart holds the integers between them, each once.
-/

namespace TagTemplate

/-- The integer part as a 64-bit integer; one that lies outside is moved to the nearer end. -/
def boundOf (q : ℚ) : Int :=
  max Int64.minValue.toInt (min Int64.maxValue.toInt (towardZero q))

/-- A larger number does not have a smaller bound. -/
theorem boundOf_mono {p q : ℚ} (hpq : p ≤ q) : boundOf p ≤ boundOf q :=
  max_le_max_left _ (min_le_min_left _ (towardZero_mono hpq))

namespace Value

variable {a b : Number} {p q : ℚ}

/-- A finite number bounds a range by its integer part. -/
theorem toInt_rangeBound (ha : a.rational? = some p) : (rangeBound a).toInt = boundOf p := by
  have hlow : -(Int.pow 2 63) = -2 ^ 63 := rfl
  have hhigh : Int.pow 2 63 - 1 = 2 ^ 63 - 1 := rfl
  rw [rangeBound, Number.saturated_of_rational? (Number.rational?_trunc ha), towardZero_intCast,
    boundOf, Int64.toInt_minValue, Int64.toInt_maxValue, hlow, hhigh]
  exact Int64.toInt_ofInt_of_le (by omega) (by omega)

/-- Between finite numbers there is a range unless they descend. -/
theorem rangeBetween_of_rational? (ha : a.rational? = some p) (hb : b.rational? = some q) :
    rangeBetween a b = if q < p then .undefined else .range (rangeBound a) (rangeBound b) := by
  have horder := Number.order_of_rational? ha hb
  obtain ⟨negative, m, rfl, -⟩ := Number.exists_finite_of_rational? ha
  obtain ⟨sign, d, rfl, -⟩ := Number.exists_finite_of_rational? hb
  unfold rangeBetween
  rw [horder]
  split_ifs with h
  · rw [compare_gt_iff_gt.mpr h]
  · have hgt : compare p q ≠ .gt := mt compare_gt_iff_gt.mp h
    cases hcompare : compare p q with
    | gt => exact absurd hcompare hgt
    | lt | eq => rfl

/-- Beside a number that is not finite there is none. -/
theorem rangeBetween_of_none (h : a.rational? = none ∨ b.rational? = none) :
    rangeBetween a b = .undefined := by
  cases a with
  | nan | infinite => rfl
  | finite =>
    cases b with
    | nan | infinite => rfl
    | finite => rcases h with h | h <;> cases h

/-- There is no range exactly if a number is not finite or the numbers descend. -/
theorem rangeBetween_eq_undefined_iff : rangeBetween a b = .undefined ↔
    a.isFinite = false ∨ b.isFinite = false ∨
      ∃ p q, a.rational? = some p ∧ b.rational? = some q ∧ q < p := by
  rw [← Number.rational?_eq_none_iff, ← Number.rational?_eq_none_iff]
  cases ha : a.rational? with
  | none => simp [rangeBetween_of_none (.inl ha)]
  | some p =>
    cases hb : b.rational? with
    | none => simp [rangeBetween_of_none (.inr hb)]
    | some q =>
      rw [rangeBetween_of_rational? ha hb]
      simp [range]

/-- Where there is a range, its bounds are those of numbers that do not descend. -/
theorem exists_of_rangeBetween_ne (h : rangeBetween a b ≠ .undefined) :
    ∃ p q, a.rational? = some p ∧ b.rational? = some q ∧ p ≤ q ∧
      rangeBetween a b = .range (rangeBound a) (rangeBound b) := by
  cases ha : a.rational? with
  | none => exact absurd (rangeBetween_of_none (.inl ha)) h
  | some p =>
    cases hb : b.rational? with
    | none => exact absurd (rangeBetween_of_none (.inr hb)) h
    | some q =>
      rw [rangeBetween_of_rational? ha hb] at h ⊢
      split_ifs at h ⊢ with hlt
      · exact absurd rfl h
      · exact ⟨p, q, rfl, rfl, not_lt.mp hlt, rfl⟩

end Value

namespace Sequence

variable {first last : Int64}

section Short

variable (hle : first.toInt ≤ last.toInt) (hshort : last.toInt - first.toInt < 2 ^ 63)

include hle hshort

/-- A range counts its integers. -/
theorem length_range_of_short :
    ((range first last).length (α := Value) : Int) = last.toInt - first.toInt + 1 := by
  have hlargest : maxLength = 2 ^ 64 - 1 := rfl
  rw [length, rangeLength]
  omega

/-- The integers of a range are those between its bounds. -/
theorem mem_rangeInts_iff {i : Int} :
    i ∈ rangeInts first last ↔ first.toInt ≤ i ∧ i ≤ last.toInt := by
  have hlength := length_range_of_short hle hshort
  have hpositions : Nat.pow 2 63 = 2 ^ 63 := rfl
  rw [length] at hlength
  rw [rangeInts, hpositions, List.mem_map]
  simp only [List.mem_range]
  constructor
  · rintro ⟨k, hk, rfl⟩
    omega
  · rintro ⟨hfirst, hlast⟩
    exact ⟨(i - first.toInt).toNat, by omega, by omega⟩

end Short

/-- The integers of a range ascend. -/
theorem pairwise_rangeInts (first last : Int64) : (rangeInts first last).Pairwise (· < ·) := by
  rw [rangeInts, List.pairwise_map]
  exact List.pairwise_lt_range.imp fun h => by omega

end Sequence

/-- **Ranges hold the integers between two numbers.** There is no range between the numbers of two
values exactly if one of the numbers is not finite or they descend. Otherwise there is one, from the
integer part of the one to that of the other as far as 64 bits go, and it is not empty. If its
bounds are less than `2 ^ 63` apart, it has as many items as there are integers between them, and
gives these integers one by one, ascending and each once. -/
theorem Operation.range_holds_integers (c : Coercion) (collation : Collation) (l r : Value) :
    let v := Operation.range.binary c collation l r
    (v = .undefined ↔ l.toNumber.isFinite = false ∨ r.toNumber.isFinite = false ∨
      ∃ p q, l.toNumber.rational? = some p ∧ r.toNumber.rational? = some q ∧ q < p) ∧
    (v ≠ .undefined → ∃ p q first last,
      l.toNumber.rational? = some p ∧ r.toNumber.rational? = some q ∧ v = .range first last ∧
      first.toInt = boundOf p ∧ last.toInt = boundOf q ∧ first.toInt ≤ last.toInt ∧
      (Sequence.range first last).isEmpty (α := Value) = false ∧
      (last.toInt - first.toInt < 2 ^ 63 →
        ((Sequence.range first last).length (α := Value) : Int) = last.toInt - first.toInt + 1 ∧
        ∃ ints : List Int, (∀ i, i ∈ ints ↔ first.toInt ≤ i ∧ i ≤ last.toInt) ∧
          ints.Pairwise (· < ·) ∧
          (Cursor.start (.range first last)).Yields (ints.map Value.ofInt))) := by
  refine ⟨Value.rangeBetween_eq_undefined_iff, fun hv => ?_⟩
  obtain ⟨p, q, hl, hr, hpq, hrange⟩ := Value.exists_of_rangeBetween_ne hv
  have hfirst := Value.toInt_rangeBound hl
  have hlast := Value.toInt_rangeBound hr
  generalize Value.rangeBound l.toNumber = first at hrange hfirst
  generalize Value.rangeBound r.toNumber = last at hrange hlast
  have hle : first.toInt ≤ last.toInt := by
    rw [hfirst, hlast]
    exact boundOf_mono hpq
  refine ⟨p, q, first, last, hl, hr, hrange, hfirst, hlast, hle, ?_, fun hshort => ?_⟩
  · have hsome : 0 < Sequence.rangeLength first last :=
      Sequence.lt_rangeLength_iff.mpr ⟨by simpa using hle, by decide⟩
    exact beq_eq_false_iff_ne.mpr hsome.ne'
  · have hmax := Int64.toInt_maxValue
    refine ⟨Sequence.length_range_of_short hle hshort, _,
      fun i => Sequence.mem_rangeInts_iff hle hshort, Sequence.pairwise_rangeInts first last,
      Sequence.yields_values_of_short (s := .range first last) ?_⟩
    rintro _ _ ⟨⟩
    omega

end TagTemplate
