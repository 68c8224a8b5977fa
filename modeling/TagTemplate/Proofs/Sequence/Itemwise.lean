import TagTemplate.Proofs.Sequence.Positions
import TagTemplate.Proofs.Value.Same

/-!
# Item by item

Two sequences agree item by item if they have the same length and each position below it finds the
same in both. Whenever a list is involved, identity of sequences is that. Two ranges are compared by
their bounds instead, and this can tell apart what no position tells apart: ranges of one length all
of whose integers are rounded to one number, and ranges from one start that are longer than lengths
say. Since rounding keeps the order there are no other cases: along two ranges that agree everywhere
but do not start together, the numbers cannot rise.
-/

namespace TagTemplate

namespace Value

/-- Items side by side are the same as far as both lists go. -/
theorem sameItems_iff {xs ys : List Value} :
    sameItems xs ys = true ↔
      ∀ (i : Nat) (v w : Value), xs[i]? = some v → ys[i]? = some w → v.same w = true := by
  induction xs generalizing ys with
  | nil => simp [sameItems]
  | cons x xs ih =>
    cases ys with
    | nil => simp [sameItems]
    | cons y ys =>
      rw [sameItems, Bool.and_eq_true, ih]
      constructor
      · rintro ⟨hhead, htail⟩ i v w hv hw
        cases i with
        | zero =>
          cases hv
          cases hw
          exact hhead
        | succ i => exact htail i v w hv hw
      · intro h
        exact ⟨h 0 x y rfl rfl, fun i v w hv hw => h (i + 1) v w hv hw⟩

/-- A value agrees with a position of a range if it is the same as the number there. -/
theorem agreesWithRange_cons (first last : Int64) (k : Nat) (x : Value) (xs : List Value) :
    agreesWithRange first last k (x :: xs) = match Sequence.rangeGet? first last k with
      | none => true
      | some n => x.same (.ofInt n) && agreesWithRange first last (k + 1) xs := by
  rw [agreesWithRange]
  cases x <;> rfl

/-- Values agree with a range from a position on if each is the same as the number that the range
has there, as far as the range has one. -/
theorem agreesWithRange_iff {first last : Int64} {xs : List Value} {k : Nat} :
    agreesWithRange first last k xs = true ↔
      ∀ (i : Nat) (v w : Value), xs[i]? = some v →
        (Sequence.range first last).value? (k + i) = some w → v.same w = true := by
  induction xs generalizing k with
  | nil => simp [agreesWithRange]
  | cons x xs ih =>
    rw [agreesWithRange_cons]
    cases hn : Sequence.rangeGet? first last k with
    | none =>
      refine ⟨fun _ i v w hv hw => ?_, fun _ => rfl⟩
      obtain ⟨hi, hl, -⟩ := Sequence.value?_range_eq_some_iff.mp hw
      have hk : Sequence.rangeGet? first last k = some (first.toInt + k) :=
        Sequence.rangeGet?_eq_some_iff.mpr ⟨by omega, by omega, rfl⟩
      rw [hn] at hk
      cases hk
    | some n =>
      obtain ⟨hi, hl, rfl⟩ := Sequence.rangeGet?_eq_some_iff.mp hn
      have hitem := Sequence.value?_range_eq_some_iff.mpr ⟨hi, hl, rfl⟩
      dsimp only
      rw [Bool.and_eq_true, ih]
      constructor
      · rintro ⟨hhead, htail⟩ i v w hv hw
        cases i with
        | zero =>
          cases hv
          rw [Nat.add_zero, hitem] at hw
          cases hw
          exact hhead
        | succ i => exact htail i v w hv (by rwa [Nat.add_right_comm, Nat.add_assoc])
      · intro h
        refine ⟨h 0 x _ rfl hitem, fun i v w hv hw => h (i + 1) v w hv ?_⟩
        rwa [Nat.add_right_comm, Nat.add_assoc] at hw

end Value

namespace Sequence

variable {s t : Sequence Value}

/-- The sequences have the same length, and each position below it finds the same in both. -/
def AgreesWith (s t : Sequence Value) : Prop :=
  s.length = t.length ∧
    ∀ i < s.length, Option.Rel (fun v w => v.same w = true) (s.value? i) (t.value? i)

/-- A list has no more items than a signed word counts, as every list in memory does. -/
def IsStored : Sequence Value → Prop
  | .list items => (items.length : Int) ≤ Int64.maxValue.toInt
  | .range _ _ => True

/-- Ranges with integers and with different bounds that no position tells apart: either they are of
one length and all integers from the least to the greatest of both are rounded to one number, or
they start together and are longer than lengths say. -/
def Indistinct : Sequence Value → Sequence Value → Prop
  | .range a b, .range c d =>
    a.toInt ≤ b.toInt ∧ c.toInt ≤ d.toInt ∧ (a, b) ≠ (c, d) ∧
      ((b.toInt - a.toInt = d.toInt - c.toInt ∧
          (Number.ofInt (min a.toInt c.toInt)).equals (Number.ofInt (max b.toInt d.toInt)) = true) ∨
        (a = c ∧ maxLength ≤ rangeLength a b ∧ maxLength ≤ rangeLength c d))
  | _, _ => False

/-- A list is the same as a sequence of its length whose items are the same, as far as both have
items. -/
theorem same_list_iff {xs : List Value} :
    (list xs).same t = true ↔ (list xs).length = t.length ∧
      ∀ i v w, (list xs).value? i = some v → t.value? i = some w → v.same w = true := by
  cases t with
  | list ys =>
    rw [same, Value.sameSequence, Bool.and_eq_true, beq_iff_eq, Value.sameItems_iff]
    rfl
  | range first last =>
    rw [same, Value.sameSequence, Bool.and_eq_true, beq_iff_eq, Value.agreesWithRange_iff]
    simp only [Nat.zero_add]
    rfl

/-- Sequences of one length that have items at the same positions agree if the items do. -/
theorem agreesWith_iff (hsome : s.length = t.length →
      ∀ i, (s.value? i).isSome = true ↔ (t.value? i).isSome = true) :
    s.AgreesWith t ↔ s.length = t.length ∧
      ∀ i v w, s.value? i = some v → t.value? i = some w → v.same w = true := by
  refine and_congr_right fun hlength => ⟨fun h i v w hv hw => ?_, fun h i hi => ?_⟩
  · have hi := (isSome_value?_iff.mp (Option.isSome_iff_exists.mpr ⟨v, hv⟩)).1
    have hrel := h i hi
    rw [hv, hw] at hrel
    cases hrel with
    | some hr => exact hr
  · cases hv : s.value? i with
    | none =>
      have hnone : t.value? i = none := by
        rw [← Option.not_isSome_iff_eq_none, ← hsome hlength, hv]
        exact Bool.false_ne_true
      rw [hnone]
      exact .none
    | some v =>
      obtain ⟨w, hw⟩ := Option.isSome_iff_exists.mp
        ((hsome hlength i).mp (Option.isSome_iff_exists.mpr ⟨v, hv⟩))
      rw [hw]
      exact .some (h i v w hv hw)

/-- Identity of sequences does not depend on their order. -/
theorem same_comm (s t : Sequence Value) : s.same t = t.same s := Value.sameSequence_comm s t

/-- Agreement does not depend on the order of the sequences. -/
theorem AgreesWith.symm (h : s.AgreesWith t) : t.AgreesWith s := by
  obtain ⟨hlength, hitems⟩ := h
  refine ⟨hlength.symm, fun i hi => ?_⟩
  have hrel := hitems i (by rwa [hlength])
  generalize s.value? i = x at hrel
  generalize t.value? i = y at hrel
  cases hrel with
  | none => exact .none
  | some hv => exact .some (by rwa [Value.same_comm])

section Ranges

open Number

variable {a b c d : Int64}

/-- Two ranges agree if they have the same length and their integers at each position are rounded to
the same number. -/
theorem range_agreesWith_iff :
    (range a b).AgreesWith (range c d) ↔ rangeLength a b = rangeLength c d ∧
      ∀ i : Nat, (i : Int) ≤ Int64.maxValue.toInt → a.toInt + i ≤ b.toInt → c.toInt + i ≤ d.toInt →
        intUnits (a.toInt + i) = intUnits (c.toInt + i) := by
  have hsome : (range a b).length (α := Value) = (range c d).length (α := Value) →
      ∀ i, ((range a b).value? i).isSome = true ↔ ((range c d).value? i).isSome = true := by
    intro hlength i
    rw [isSome_value?_iff, isSome_value?_iff, hlength]
    exact and_congr_right fun _ => ⟨fun hi _ _ _ => hi a b rfl, fun hi _ _ _ => hi c d rfl⟩
  have hequal : ∀ i : Nat, a.toInt + i ≤ b.toInt → c.toInt + i ≤ d.toInt →
      ((Value.ofInt (a.toInt + i)).same (.ofInt (c.toInt + i)) = true ↔
        intUnits (a.toInt + i) = intUnits (c.toInt + i)) := by
    intro i hb hd
    have ha := a.le_toInt
    have hc := c.le_toInt
    have hb' := b.toInt_lt
    have hd' := d.toInt_lt
    exact equals_ofInt_iff (by omega) (by omega)
  rw [agreesWith_iff hsome]
  refine and_congr_right fun _ => ⟨fun h i hi hb hd => ?_, fun h i v w hv hw => ?_⟩
  · exact (hequal i hb hd).mp (h i _ _ (value?_range_eq_some_iff.mpr ⟨hi, hb, rfl⟩)
      (value?_range_eq_some_iff.mpr ⟨hi, hd, rfl⟩))
  · obtain ⟨hi, hb, rfl⟩ := value?_range_eq_some_iff.mp hv
    obtain ⟨-, hd, rfl⟩ := value?_range_eq_some_iff.mp hw
    exact (hequal i hb hd).mpr (h i hi hb hd)

/-- Where the integers from two starts on are rounded to the same numbers, one by one, all of them
are rounded to one number. -/
theorem intUnits_eq_of_shift {m n : Int} (hmn : m < n) {k : Nat}
    (h : ∀ i : Nat, i ≤ k → intUnits (m + i) = intUnits (n + i)) :
    intUnits m = intUnits (n + k) := by
  have hconst : ∀ i : Nat, i ≤ k → intUnits (m + i) = intUnits m := by
    intro i hi
    induction i with
    | zero => simp
    | succ i ih =>
      -- the next integer lies between those that the two runs have here
      have hlow : intUnits (m + i) ≤ intUnits (m + (i + 1 : Nat)) := intUnits_mono (by omega)
      have hhigh : intUnits (m + (i + 1 : Nat)) ≤ intUnits (n + i) := intUnits_mono (by omega)
      have hsame := h i (by omega)
      have hbefore := ih (by omega)
      omega
  rw [← h k le_rfl, hconst k le_rfl]

/-- Ranges that agree and do not start together have one extent, and all their integers are rounded
to one number. -/
theorem intUnits_eq_of_agreesWith (h : (range a b).AgreesWith (range c d))
    (hab : a.toInt ≤ b.toInt) (hcd : c.toInt ≤ d.toInt) (hac : a.toInt < c.toInt) :
    b.toInt - a.toInt = d.toInt - c.toInt ∧ intUnits a.toInt = intUnits d.toInt := by
  rw [range_agreesWith_iff] at h
  obtain ⟨hlength, hitems⟩ := h
  have hlargest : maxLength = 2 ^ 64 - 1 := rfl
  have hmax := Int64.toInt_maxValue
  have ha := a.le_toInt
  have hb := b.toInt_lt
  have hc := c.le_toInt
  have hd := d.toInt_lt
  unfold rangeLength at hlength
  obtain ⟨k, hk⟩ : ∃ k : Nat, (k : Int) =
      min (min (b.toInt - a.toInt) (d.toInt - c.toInt)) Int64.maxValue.toInt :=
    ⟨(min (min (b.toInt - a.toInt) (d.toInt - c.toInt)) Int64.maxValue.toInt).toNat, by omega⟩
  have hends : intUnits a.toInt = intUnits (c.toInt + k) :=
    intUnits_eq_of_shift hac fun i hi => hitems i (by omega) (by omega) (by omega)
  by_cases hshort : (k : Int) = b.toInt - a.toInt ∧ (k : Int) = d.toInt - c.toInt
  · refine ⟨by omega, ?_⟩
    rw [hends]
    congr 1
    omega
  · -- a range that is longer goes from a negative integer past zero, and rounding keeps the sign
    have hneg := intUnits_neg_iff.mpr (show a.toInt < 0 by omega)
    have hpos := mt intUnits_neg_iff.mp (show ¬c.toInt + k < 0 by omega)
    omega

/-- The bounds of ranges are small enough to be compared by their units. -/
theorem equals_bounds_iff :
    (ofInt (min a.toInt c.toInt)).equals (ofInt (max b.toInt d.toInt)) = true ↔
      intUnits (min a.toInt c.toInt) = intUnits (max b.toInt d.toInt) := by
  have ha := a.le_toInt
  have ha' := a.toInt_lt
  have hb := b.le_toInt
  have hb' := b.toInt_lt
  have hc := c.le_toInt
  have hc' := c.toInt_lt
  have hd := d.le_toInt
  have hd' := d.toInt_lt
  exact equals_ofInt_iff (by omega) (by omega)

/-- Ranges with integers and with different bounds that agree are indistinct. -/
theorem indistinct_of_agreesWith (h : (range a b).AgreesWith (range c d))
    (hab : a.toInt ≤ b.toInt) (hcd : c.toInt ≤ d.toInt) (hne : (a, b) ≠ (c, d)) :
    (range a b).Indistinct (range c d) := by
  refine ⟨hab, hcd, hne, ?_⟩
  rw [equals_bounds_iff]
  rcases lt_trichotomy a.toInt c.toInt with hac | hac | hac
  · obtain ⟨hextent, hunits⟩ := intUnits_eq_of_agreesWith h hab hcd hac
    rw [min_eq_left hac.le, max_eq_right (by omega)]
    exact .inl ⟨hextent, hunits⟩
  · have hstart := Int64.toInt_inj.mp hac
    subst hstart
    have hends : b.toInt ≠ d.toInt := fun hbd => hne (by rw [Int64.toInt_inj.mp hbd])
    have hlength : rangeLength a b = rangeLength a d := h.1
    unfold rangeLength at hlength ⊢
    exact .inr ⟨rfl, by omega, by omega⟩
  · obtain ⟨hextent, hunits⟩ := intUnits_eq_of_agreesWith h.symm hcd hab hac
    rw [min_eq_right hac.le, max_eq_left (by omega)]
    exact .inl ⟨hextent.symm, hunits⟩

/-- Indistinct ranges agree. -/
theorem agreesWith_of_indistinct (h : (range a b).Indistinct (range c d)) :
    (range a b).AgreesWith (range c d) := by
  obtain ⟨hab, hcd, -, h⟩ := h
  rw [equals_bounds_iff] at h
  rw [range_agreesWith_iff]
  rcases h with ⟨hextent, hunits⟩ | ⟨rfl, hb, hd⟩
  · refine ⟨by unfold rangeLength; omega, fun i _ hb hd => ?_⟩
    have hlow : intUnits (min a.toInt c.toInt) ≤ intUnits (a.toInt + i) :=
      intUnits_mono (by omega)
    have hlow' : intUnits (min a.toInt c.toInt) ≤ intUnits (c.toInt + i) :=
      intUnits_mono (by omega)
    have hhigh : intUnits (a.toInt + i) ≤ intUnits (max b.toInt d.toInt) :=
      intUnits_mono (by omega)
    have hhigh' : intUnits (c.toInt + i) ≤ intUnits (max b.toInt d.toInt) :=
      intUnits_mono (by omega)
    omega
  · refine ⟨?_, fun i _ _ _ => rfl⟩
    unfold rangeLength at hb hd ⊢
    omega

/-- Ranges are the same if they have the same bounds, or both no integers. -/
theorem same_range_iff :
    (range a b).same (range c d) = true ↔
      (a, b) = (c, d) ∨ (b.toInt < a.toInt ∧ d.toInt < c.toInt) := by
  have hempty : ∀ first last : Int64, rangeLength first last = 0 ↔ last.toInt < first.toInt := by
    intro first last
    have hlargest : maxLength = 2 ^ 64 - 1 := rfl
    unfold rangeLength
    omega
  rw [same, Value.sameSequence, Bool.or_eq_true, Bool.and_eq_true, Bool.and_eq_true, beq_iff_eq,
    beq_iff_eq, beq_iff_eq, beq_iff_eq, hempty, hempty, Prod.mk.injEq]

/-- Ranges are the same exactly if they agree and are not indistinct. -/
theorem same_range_iff_agreesWith :
    (range a b).same (range c d) = true ↔
      (range a b).AgreesWith (range c d) ∧ ¬(range a b).Indistinct (range c d) := by
  rw [same_range_iff]
  constructor
  · rintro (heq | ⟨hab, hcd⟩)
    · cases heq
      exact ⟨range_agreesWith_iff.mpr ⟨rfl, fun _ _ _ _ => rfl⟩, fun h => h.2.2.1 rfl⟩
    · refine ⟨range_agreesWith_iff.mpr ⟨?_, fun i _ _ _ => by omega⟩, fun h => ?_⟩
      · unfold rangeLength
        omega
      · exact absurd h.1 (by omega)
  · rintro ⟨hagree, hdistinct⟩
    have hlength : rangeLength a b = rangeLength c d := hagree.1
    have hlargest : maxLength = 2 ^ 64 - 1 := rfl
    unfold rangeLength at hlength
    by_cases hne : (a, b) = (c, d)
    · exact .inl hne
    · right
      by_contra hnonempty
      exact hdistinct (indistinct_of_agreesWith hagree (by omega) (by omega) hne)

end Ranges

/-- Whenever a list is involved, sequences are the same exactly if they agree. -/
theorem same_iff_agreesWith_of_list {xs : List Value} (hs : (list xs).IsStored) :
    (list xs).same t = true ↔ (list xs).AgreesWith t := by
  rw [same_list_iff, agreesWith_iff]
  intro hlength i
  rw [isSome_value?_iff, isSome_value?_iff, hlength]
  refine and_congr_right fun hi => ⟨fun _ first last ht' => ?_, fun _ => nofun⟩
  have hstored : (xs.length : Int) ≤ Int64.maxValue.toInt := hs
  have hcount : xs.length = t.length := hlength
  omega

/-- Sequences whose lists are held in memory are the same exactly if they have one length and agree
at every position, unless they are indistinct ranges, which agree and are not the same. -/
theorem same_iff_agreesWith (hs : s.IsStored) (ht : t.IsStored) :
    (s.same t = true ↔ s.AgreesWith t ∧ ¬s.Indistinct t) ∧ (s.Indistinct t → s.AgreesWith t) := by
  cases s with
  | list xs =>
    refine ⟨?_, False.elim⟩
    rw [same_iff_agreesWith_of_list hs]
    exact (and_iff_left id).symm
  | range a b =>
    cases t with
    | list ys =>
      refine ⟨?_, False.elim⟩
      rw [same_comm, same_iff_agreesWith_of_list ht]
      exact ⟨fun h => ⟨h.symm, id⟩, fun h => h.1.symm⟩
    | range c d => exact ⟨same_range_iff_agreesWith, agreesWith_of_indistinct⟩

/-- A list of `2 ^ 53` is the same as the range of the integer above, which is rounded to it. -/
theorem same_iff_agreesWith_rounded :
    (list [.ofInt 9007199254740992]).IsStored ∧
      (range 9007199254740993 9007199254740993).IsStored ∧
      (list [.ofInt 9007199254740992]).same (range 9007199254740993 9007199254740993) = true ∧
      (list [.ofInt 9007199254740992]).AgreesWith (range 9007199254740993 9007199254740993) := by
  have hs : (list [.ofInt 9007199254740992]).IsStored := by
    unfold IsStored
    decide
  have ht : (range 9007199254740993 9007199254740993).IsStored := trivial
  have hsame : (list [.ofInt 9007199254740992]).same (range 9007199254740993 9007199254740993) =
      true := by
    decide +kernel
  exact ⟨hs, ht, hsame, ((same_iff_agreesWith hs ht).1.mp hsame).1⟩

/-- The range of `2 ^ 53` and that of the integer above agree, and are not the same. -/
theorem not_same_iff_agreesWith_ranges :
    ¬((range 9007199254740992 9007199254740992).same (range 9007199254740993 9007199254740993) =
        true ↔
      (range 9007199254740992 9007199254740992).AgreesWith
        (range 9007199254740993 9007199254740993)) := by
  have hagree : (range 9007199254740992 9007199254740992).AgreesWith
      (range 9007199254740993 9007199254740993) :=
    agreesWith_of_indistinct
      ⟨by decide, by decide, by decide, .inl ⟨by decide, by decide +kernel⟩⟩
  have hdiffer : (range 9007199254740992 9007199254740992).same
      (range 9007199254740993 9007199254740993) = false := by
    decide
  intro h
  rw [hdiffer] at h
  exact Bool.false_ne_true (h.mpr hagree)

end Sequence

end TagTemplate
