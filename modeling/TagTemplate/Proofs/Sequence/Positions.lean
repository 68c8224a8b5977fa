import TagTemplate.Value

/-!
# Positions of sequences

A sequence tells its length, finds the item at a position, and is walked through by a cursor that
looks ahead. For lists and for ranges of up to `2 ^ 63` integers the three agree: the positions
below the length are those with an item, the cursor has an item left exactly where it finds one, and
it gives as many items as the length says. The length of a longer range counts integers that no
position finds, because positions are searched as signed words.
-/

namespace TagTemplate

namespace Cursor

/-- From its place a cursor gives these items, one by one, and no others. -/
def Yields (c : Cursor Value) : List Value → Prop
  | [] => c.next? Value.ofInt = none ∧ c.hasNext = false
  | v :: vs => ∃ rest, c.next? Value.ofInt = some (v, rest) ∧ c.hasNext = true ∧ rest.Yields vs

/-- A cursor whose sequence has an item at each of the next positions, and then no more, gives those
items. -/
theorem yields_of_get? {s : Sequence Value} {items : List Value} {position : Nat}
    (hget : ∀ k, s.get? Value.ofInt (position + k) = items[k]?)
    (hlength : s.length = position + items.length) : Yields ⟨s, position⟩ items := by
  induction items generalizing position with
  | nil =>
    have hnone := hget 0
    refine ⟨?_, ?_⟩
    · rw [next?, peek, show s.get? Value.ofInt position = none from hnone]
      rfl
    · simp only [hasNext, hlength, List.length_nil, Nat.add_zero, Nat.lt_irrefl, decide_false]
  | cons v vs ih =>
    have hsome := hget 0
    have hnext : ∀ k, s.get? Value.ofInt (position + 1 + k) = vs[k]? := by
      intro k
      have hk := hget (k + 1)
      rwa [List.getElem?_cons_succ, ← Nat.add_assoc, Nat.add_right_comm] at hk
    rw [List.length_cons] at hlength
    refine ⟨⟨s, position + 1⟩, ?_, ?_, ih hnext (by omega)⟩
    · rw [next?, peek, show s.get? Value.ofInt position = some v from hsome]
      rfl
    · simp only [hasNext, decide_eq_true_eq]
      omega

/-- The places that a cursor comes to, from the start of a sequence, by going on to the next item.
At the end it stays where it is. -/
inductive Reaches (s : Sequence Value) : Cursor Value → Prop where
  /-- It begins at the start. -/
  | start : Reaches s (.start s)
  /-- It goes on by one item. -/
  | next {c rest : Cursor Value} {v : Value} (h : Reaches s c)
      (hn : c.next? Value.ofInt = some (v, rest)) : Reaches s rest

/-- A cursor stays in its sequence. -/
theorem Reaches.source {s : Sequence Value} {c : Cursor Value} (h : Reaches s c) :
    c.source = s := by
  induction h with
  | start => rfl
  | next _ hn ih =>
    rw [next?, Option.map_eq_some_iff] at hn
    obtain ⟨item, -, hrest⟩ := hn
    cases hrest
    exact ih

/-- What is next is what peeking shows. -/
theorem fst_of_next? (c : Cursor Value) :
    (c.next? Value.ofInt).map Prod.fst = c.peek Value.ofInt := by
  unfold next?
  cases c.peek Value.ofInt <;> rfl

end Cursor

namespace Sequence

variable {s : Sequence Value} {first last : Int64} {i : Nat}

/-- A range has an integer at each of its positions that is a signed word. -/
theorem rangeGet?_eq_some_iff {n : Int} :
    rangeGet? first last i = some n ↔
      (i : Int) ≤ Int64.maxValue.toInt ∧ first.toInt + i ≤ last.toInt ∧ n = first.toInt + i := by
  have hposition : i < Nat.pow 2 63 ↔ (i : Int) ≤ Int64.maxValue.toInt := by
    rw [Int64.toInt_maxValue, show Nat.pow 2 63 = 2 ^ 63 from rfl]
    omega
  simp only [rangeGet?, hposition]
  split
  · next h => simp only [Option.some.injEq, h, true_and, eq_comm]
  · next h =>
    constructor
    · intro hn
      cases hn
    · rintro ⟨hi, hl, -⟩
      exact absurd ⟨hi, hl⟩ h

/-- A range counts its integers, as far as lengths go. -/
theorem lt_rangeLength_iff :
    i < rangeLength first last ↔ first.toInt + i ≤ last.toInt ∧ i < maxLength := by
  rw [rangeLength]
  omega

/-- The item at a position of a range is the number of its integer there. -/
theorem value?_range_eq_some_iff {v : Value} :
    (range first last).value? i = some v ↔
      (i : Int) ≤ Int64.maxValue.toInt ∧ first.toInt + i ≤ last.toInt ∧
        v = .ofInt (first.toInt + i) := by
  rw [value?, get?, Option.map_eq_some_iff]
  simp only [rangeGet?_eq_some_iff]
  constructor
  · rintro ⟨n, ⟨hi, hl, rfl⟩, rfl⟩
    exact ⟨hi, hl, rfl⟩
  · rintro ⟨hi, hl, rfl⟩
    exact ⟨_, ⟨hi, hl, rfl⟩, rfl⟩

/-- A position has an item exactly if it is below the length and, in a range, a signed word. -/
theorem isSome_value?_iff :
    (s.value? i).isSome = true ↔
      i < s.length ∧ ∀ first last, s = .range first last → (i : Int) ≤ Int64.maxValue.toInt := by
  cases s with
  | list items =>
    rw [value?, get?, length, isSome_getElem?]
    exact ⟨fun h => ⟨h, nofun⟩, And.left⟩
  | range first last =>
    have hlargest : maxLength = 2 ^ 64 - 1 := rfl
    have hmax := Int64.toInt_maxValue
    rw [Option.isSome_iff_exists, length, lt_rangeLength_iff]
    simp only [value?_range_eq_some_iff]
    constructor
    · rintro ⟨v, hi, hl, -⟩
      exact ⟨⟨hl, by omega⟩, fun _ _ _ => hi⟩
    · rintro ⟨⟨hl, -⟩, hi⟩
      exact ⟨_, hi first last rfl, hl, rfl⟩

/-- A position of a range that has an item has the number of its integer there. -/
theorem value?_range_of_isSome (h : ((range first last).value? i).isSome = true) :
    (range first last).value? i = some (.ofInt (first.toInt + i)) := by
  obtain ⟨v, hv⟩ := Option.isSome_iff_exists.mp h
  obtain ⟨-, -, rfl⟩ := value?_range_eq_some_iff.mp hv
  exact hv

/-- The values of a sequence are what its positions find. -/
theorem getElem?_values (s : Sequence Value) (i : Nat) : s.values[i]? = s.value? i := by
  cases s with
  | list items => rfl
  | range first last =>
    have hmax := Int64.toInt_maxValue
    have hcount : i < min (rangeLength first last) (Nat.pow 2 63) ↔
        ((range first last).value? i).isSome = true := by
      rw [isSome_value?_iff, Nat.lt_min, show Nat.pow 2 63 = 2 ^ 63 from rfl, length]
      exact and_congr_right fun _ => ⟨fun hi _ _ _ => by omega, fun hi => by
        have hi := hi first last rfl
        omega⟩
    rw [values, items, rangeInts, List.getElem?_map, List.getElem?_map]
    by_cases hs : ((range first last).value? i).isSome = true
    · rw [value?_range_of_isSome hs, List.getElem?_range (hcount.mpr hs)]
      rfl
    · have hpast := Nat.not_lt.mp (mt hcount.mp hs)
      rw [List.getElem?_eq_none (by rwa [List.length_range]), Option.not_isSome_iff_eq_none.mp hs]
      rfl

section Short

variable (hshort : ∀ first last, s = .range first last →
  last.toInt - first.toInt ≤ Int64.maxValue.toInt)

include hshort

/-- The positions below the length of a short sequence are those that have an item. -/
theorem isSome_value?_iff_of_short : (s.value? i).isSome = true ↔ i < s.length := by
  rw [isSome_value?_iff, and_iff_left_iff_imp]
  rintro hi first last rfl
  have hcount := hshort first last rfl
  have hlast := (lt_rangeLength_iff.mp hi).1
  omega

/-- A short sequence has as many values as its length says. -/
theorem length_values_of_short : s.values.length = s.length := by
  have hbelow : ∀ i, i < s.values.length ↔ i < s.length := by
    intro i
    rw [← isSome_value?_iff_of_short hshort, ← getElem?_values, isSome_getElem?]
  have hle := (hbelow s.length).mp
  have hge := (hbelow s.values.length).mpr
  omega

/-- The cursor of a short sequence gives its values. -/
theorem yields_values_of_short : (Cursor.start s).Yields s.values := by
  refine Cursor.yields_of_get? (fun k => ?_) ?_
  · rw [Nat.zero_add]
    exact (getElem?_values s k).symm
  · rw [Nat.zero_add, length_values_of_short hshort]

end Short

/-- The length, the positions and the cursor of a sequence agree. -/
structure IsEnumerated (s : Sequence Value) : Prop where
  /-- The positions below the length are those that have an item. -/
  isSome_value?_iff : ∀ i, (s.value? i).isSome = true ↔ i < s.length
  /-- The items of a range are the numbers of the integers from the first on. -/
  value?_range : ∀ first last, s = .range first last →
    ∀ i < s.length, s.value? i = some (.ofInt (first.toInt + i))
  /-- A cursor has an item left exactly where peeking shows one. -/
  hasNext_iff : ∀ c, Cursor.Reaches s c →
    (c.hasNext = true ↔ (c.peek Value.ofInt).isSome = true)
  /-- What is next is what peeking shows. -/
  fst_of_next? : ∀ c, Cursor.Reaches s c →
    (c.next? Value.ofInt).map Prod.fst = c.peek Value.ofInt
  /-- From its start the cursor gives the items at all positions, as many as the length says. -/
  yields : ∃ items, (Cursor.start s).Yields items ∧ items.length = s.length ∧
    ∀ i, items[i]? = s.value? i

/-- The length, the positions and the cursor of a sequence agree exactly if it is a list, or a range
whose bounds are no further apart than a signed word can say. -/
theorem isEnumerated_iff (s : Sequence Value) :
    s.IsEnumerated ↔ ∀ first last, s = .range first last →
      last.toInt - first.toInt ≤ Int64.maxValue.toInt := by
  have hmax := Int64.toInt_maxValue
  have hlargest : maxLength = 2 ^ 64 - 1 := rfl
  constructor
  · rintro h first last rfl
    refine Int.not_lt.mp fun hlong => ?_
    have hbelow : 2 ^ 63 < (range first last).length (α := Value) :=
      lt_rangeLength_iff.mpr ⟨by omega, by omega⟩
    have hsome := isSome_value?_iff.mp ((h.isSome_value?_iff _).mpr hbelow)
    have hposition := hsome.2 first last rfl
    omega
  · intro hshort
    have hsome : ∀ i, (s.value? i).isSome = true ↔ i < s.length :=
      fun _ => isSome_value?_iff_of_short hshort
    exact {
      isSome_value?_iff := hsome
      value?_range := by
        rintro first last rfl i hi
        exact value?_range_of_isSome ((hsome i).mpr hi)
      hasNext_iff := by
        intro c hc
        rw [Cursor.hasNext, decide_eq_true_eq, Cursor.peek, hc.source]
        exact (hsome c.position).symm
      fst_of_next? := fun c _ => c.fst_of_next?
      yields := ⟨s.values, yields_values_of_short hshort, length_values_of_short hshort,
        getElem?_values s⟩ }

/-- In the widest range, position `2 ^ 63` is below the length and has no item, though the integer
there is zero. -/
theorem not_isEnumerated_widest :
    Nat.pow 2 63 < Sequence.length (α := Value) (.range Int64.minValue Int64.maxValue) ∧
      (range Int64.minValue Int64.maxValue).value? (Nat.pow 2 63) = none ∧
      ¬(range Int64.minValue Int64.maxValue).IsEnumerated := by
  have hbelow : Nat.pow 2 63 < (range Int64.minValue Int64.maxValue).length (α := Value) := by
    decide
  have hnone : (range Int64.minValue Int64.maxValue).value? (Nat.pow 2 63) = none := by decide
  refine ⟨hbelow, hnone, fun h => ?_⟩
  have hsome := (h.isSome_value?_iff _).mpr hbelow
  rw [hnone] at hsome
  cases hsome

end Sequence

end TagTemplate
